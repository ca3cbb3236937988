import FaultDrill.Text.Pieces

/-!
# FaultDrill.Files.Path

File paths as texts. Two paths are the same place for the records of this library when they have
the same components: repeated and trailing slashes and the step `.` make no difference, except that
a leading `.` counts as a component. The step `..` is never resolved here, since what it leads to
depends on the files.
-/

namespace FaultDrill.Path

open FaultDrill.Text

/-- The parts between the slashes. -/
def pieces (path : String) : List String :=
  (path.toList.splitOn '/').map String.ofList

/-- Whether a path starts at the root. -/
def isAbsolute (path : String) : Bool :=
  path.toList.head? == some '/'

/-- The steps that lead somewhere: no empty ones, and no `.`. -/
def steps (path : String) : List String :=
  (pieces path).filter fun p => p ≠ "" ∧ p ≠ "."

/-- Whether a path ends in a slash or in `.`, and so can only name a directory. -/
def namesDirectory (path : String) : Bool :=
  match (pieces path).getLast? with
  | some "" | some "." => true
  | _ => false

/-- A step of a path with its rank: the root comes before `.`, `.` before `..`, and names last. -/
def ranked (step : String) : Nat × String :=
  if step = "/" then (0, step)
  else if step = "." then (1, step)
  else if step = ".." then (2, step)
  else (3, step)

/-- What two paths have to share to be the same place, in the order that paths have. -/
def components (path : String) : List (Nat × String) :=
  let first :=
    if isAbsolute path then ["/"]
    else if (pieces path).head? = some "." then ["."]
    else []
  (first ++ steps path).map ranked

/-- The last step of a path, if it is a name. -/
def fileName? (path : String) : Option String :=
  match (components path).getLast? with
  | some (3, name) => some name
  | _ => none

/-- A path taken from a directory. An absolute path stands for itself. -/
def join (dir path : String) : String :=
  if isAbsolute path ∨ dir = "" then path
  else if dir.toList.getLast? = some '/' then dir ++ path
  else dir ++ "/" ++ path

end FaultDrill.Path
