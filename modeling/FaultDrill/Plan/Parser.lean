import FaultDrill.Files.Tree
import FaultDrill.Plan.Basic
import FaultDrill.Plan.Error
import FaultDrill.Text.Pieces

/-!
# FaultDrill.Plan.Parser

Reading plans and lists of references. The first line that is neither blank nor a comment is the
header, the next such line the invariant. Blank lines before the first event are passed over; the
first blank line after it ends the plan, and what follows are notes. The events are read in order,
so the first faulty line is the one that is reported; only the order of numbered checkpoints is
judged after all lines have been read.

Plans and lists of references are kept in files. A file that is too large is refused before it is
read.
-/

namespace FaultDrill

open FaultDrill.Text

namespace Plan

/-- A line without the blanks around it, with its number. -/
structure Line where
  number : Nat
  text : List Char

/-- The lines of a text, numbered from one. -/
def numberedLines (s : List Char) : List Line :=
  (lines s).zipIdx.map fun (line, i) => ⟨i + 1, trim line⟩

/-- Whether a line is a comment. -/
def isComment (line : List Char) : Bool :=
  line.head? == some '#'

/-- Whether a line says nothing. -/
def isSkippable (line : List Char) : Bool :=
  line.isEmpty || isComment line

/-! ### The header -/

/-- A note of the header. -/
def readNote (number : Nat) (token : List Char) : Except PlanError (String × String) :=
  match cut? '=' token with
  | some (key, value) => .ok (String.ofList key, String.ofList value)
  | none => .error (.invalidEvent number (.metadata (String.ofList token)))

/-- The identifier and the notes of a header line. -/
def readHeader (line : Line) : Except PlanError (String × SortedMap String String) :=
  match words line.text with
  | first :: id :: notes =>
    if String.ofList first = headerWord then do
      let notes ← notes.mapM (readNote line.number)
      return (String.ofList id, .ofList notes)
    else .error .missingHeader
  | _ => .error .missingHeader

/-! ### Events -/

/-- The peers of a partition. -/
def readPeers (target : String) (parameter : List Char) : Except LineFault NameSet :=
  let peers := ((parameter.splitOn ',').map trim).filter (!·.isEmpty)
  let peers := NameSet.ofList (peers.map String.ofList)
  if peers.isEmpty then .error .noPeers
  else if peers.contains target then .error (.ownPeer target)
  else .ok peers

/-- The fault of a kind that takes a parameter. -/
def withParameter? (kind target : String) (parameter : List Char) :
    Option (Except LineFault Fault) :=
  match kind with
  | "delay" =>
    some <| match Duration.parse parameter with
      | .ok d => .ok (.delay d)
      | .error e => .error (.delay (String.ofList parameter) e)
  | "partition" => some (Fault.partition <$> readPeers target parameter)
  | "corrupt" =>
    some <| match Corruption.parse parameter with
      | .ok damage => .ok (.corrupt damage)
      | .error e => .error (.corruption e)
  | _ => none

/-- The fault of a kind that takes no parameter. -/
def withoutParameter? : String → Option Fault
  | "kill" => some .kill
  | "pause" => some .pause
  | "resume" => some .resume
  | _ => none

/-- Whether a word is the kind of a fault with a parameter. -/
def takesParameter (kind : String) : Bool :=
  ["delay", "partition", "corrupt"].contains kind

/-- The fault of a kind and a parameter, where an empty parameter is none. -/
def readFault (number : Nat) (kind target : String) (parameter : List Char) :
    Except PlanError Fault :=
  match withoutParameter? kind with
  | some fault =>
    if parameter = [] then .ok fault
    else .error (.invalidEvent number (.parameterRefused kind (String.ofList parameter)))
  | none =>
    if parameter = [] then
      .error (if takesParameter kind then .invalidEvent number (.parameterNeeded kind)
        else .unknownAction number kind)
    else
      match withParameter? kind target parameter with
      | some fault => fault.mapError (.invalidEvent number)
      | none => .error (.unknownAction number kind)

/-- The event of the fields of a line. -/
def readFields (number : Nat) (checkpoint target kind parameter : List Char) :
    Except PlanError Event :=
  if checkpoint = [] ∨ hasBlank checkpoint then
    .error (.invalidEvent number (.checkpoint (String.ofList checkpoint)))
  else if target = [] then .error (.invalidEvent number .emptyTarget)
  else do
    let target := String.ofList target
    let fault ← readFault number (String.ofList (lower kind)) target parameter
    return ⟨String.ofList checkpoint, target, fault⟩

/-- The event of a line. -/
def readEvent (line : Line) : Except PlanError Event :=
  match (line.text.splitOn '|').map trim with
  | [checkpoint, target, kind] => readFields line.number checkpoint target kind []
  | [checkpoint, target, kind, parameter] =>
    readFields line.number checkpoint target kind parameter
  | _ => .error (.invalidEvent line.number .fieldCount)

/-- Reads the event lines after `count` events, whose checkpoints and targets are `seen`. Each event
comes with the number of its line. -/
def readEvents (seen : List (Checkpoint × String)) (count : Nat) :
    List Line → Except PlanError (List (Nat × Event))
  | [] => .ok []
  | line :: rest =>
    if line.text = [] then
      if count = 0 then readEvents seen count rest else .ok []
    else if isComment line.text then readEvents seen count rest
    else
      match readEvent line with
      | .error e => .error e
      | .ok event =>
        if (event.checkpoint, event.target) ∈ seen then
          .error (.duplicate line.number event.checkpoint event.target)
        else if maxEvents ≤ count then
          .error (.invalidEvent line.number (.tooMany maxEvents))
        else
          match readEvents ((event.checkpoint, event.target) :: seen) (count + 1) rest with
          | .error e => .error e
          | .ok events => .ok ((line.number, event) :: events)

/-- The first line whose number is smaller than the one before it. -/
def firstDescent? : List (Nat × UInt64) → Option Nat
  | (_, a) :: (line, b) :: rest => if b < a then some line else firstDescent? ((line, b) :: rest)
  | _ => none

/-- Where numbered checkpoints first go down; if some checkpoint has no number, nowhere. -/
def disorder? (events : List (Nat × Event)) : Option Nat :=
  match events.mapM fun (line, e) => (e.checkpoint.number?).map (line, ·) with
  | some numbers => firstDescent? numbers
  | none => none

/-! ### Whole texts -/

/-- The first line that says something, and the lines after it. -/
def nextLine? (lines : List Line) : Option (Line × List Line) :=
  match lines.dropWhile (isSkippable ·.text) with
  | [] => none
  | line :: rest => some (line, rest)

/-- Reads a plan. -/
def parse (s : List Char) : Except PlanError Plan :=
  match nextLine? (numberedLines s) with
  | none => .error .missingHeader
  | some (header, rest) =>
    match readHeader header with
    | .error e => .error e
    | .ok (id, metadata) =>
      match nextLine? rest with
      | none => .error .missingInvariant
      | some (reference, rest) =>
        match readReference reference.text with
        | .error e => .error e
        | .ok invariant =>
          match readEvents [] 0 rest with
          | .error e => .error e
          | .ok [] => .error .noEvents
          | .ok events =>
            match disorder? events with
            | some line => .error (.outOfOrder line)
            | none => .ok ⟨id, invariant, events.map (·.2), metadata⟩

/-- Reads the text of a plan. -/
def ofText (s : String) : Except PlanError Plan :=
  parse s.toList

end Plan

/-- Reads a list of references, one a line, where `origin` names the list in the error text. -/
def Reference.listOfText (origin : String) (s : String) : Except PlanError (List Reference) := do
  let texts := ((lines s.toList).map trim).filter (!Plan.isSkippable ·)
  match ← texts.mapM readReference with
  | [] => throw (.noInvariants origin)
  | references => return references

/-! ### Files -/

/-- The text of a file of at most the size that plans may have. -/
def readBounded (files : FileTree) (path : String) : Except PlanError String := do
  let size ← (files.sizeOf path).mapError (.io path)
  if Plan.maxFileSize < size then throw (.tooLarge size Plan.maxFileSize)
  (files.readText path).mapError (.io path)

/-- The plan in a file. -/
def Plan.load (files : FileTree) (path : String) : Except PlanError Plan := do
  Plan.ofText (← readBounded files path)

/-- The references in a file. -/
def Reference.loadList (files : FileTree) (path : String) : Except PlanError (List Reference) := do
  Reference.listOfText path (← readBounded files path)

end FaultDrill
