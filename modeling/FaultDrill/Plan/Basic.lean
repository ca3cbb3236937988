import FaultDrill.Plan.Fault
import FaultDrill.Plan.Reference

/-!
# FaultDrill.Plan.Basic

Failure plans: an invariant to be checked, and the events that shall not break it, in the order in
which they strike. The text of a plan is the header with the notes in the order of their keys, the
invariant, and one line for each event.
-/

namespace FaultDrill

/-- A failure plan. -/
structure Plan where
  id : String
  invariant : Reference
  events : List Event
  /-- Notes of the header line. -/
  metadata : SortedMap String String
  deriving DecidableEq

namespace Plan

/-- The plan with another invariant. -/
def withInvariant (p : Plan) (r : Reference) : Plan :=
  { p with invariant := r }

/-- The checkpoints of the events, each once. -/
def checkpoints (p : Plan) : List Checkpoint :=
  (p.events.map (·.checkpoint)).eraseDups

/-- The word that begins a plan. -/
def headerWord : String := "faultline-plan"

/-- The greatest number of events in a plan. -/
def maxEvents : Nat := 10000

/-- The greatest size of a file with a plan or a list of references. -/
def maxFileSize : Nat := 1048576

/-! ### The text of a plan -/

/-- The header line. -/
def headerLine (p : Plan) : String :=
  p.metadata.toList.foldl (fun line (key, value) => s!"{line} {key}={value}")
    (headerWord ++ " " ++ p.id)

/-- The lines of a plan. -/
def textLines (p : Plan) : List String :=
  p.headerLine :: p.invariant.text :: p.events.map Event.line

/-- The text of a plan; every line is ended. -/
def text (p : Plan) : String :=
  String.join (p.textLines.map (· ++ "\n"))

end Plan

end FaultDrill
