import FaultDrill.Plan.Fault
import FaultDrill.Text.Pieces

/-!
# FaultDrill.Check.Observation

What has been observed of the system under test, and the verdicts that it can lead to.
-/

namespace FaultDrill

open FaultDrill.Text

/-- What has been observed in a trial. -/
structure Observation where
  trialId : String := ""
  /-- The last lines of the output. -/
  outputTail : List String := []
  /-- For each marker that was watched for, the first line with it. -/
  markerHits : SortedMap String String := .empty
  exitCode : Option Int := none
  signaled : Bool := false
  /-- Whether the driver was stopped from outside. -/
  terminatedByEngine : Bool := false
  /-- The reported checkpoints in order. -/
  checkpointsSeen : List Checkpoint := []
  /-- The reported variables. -/
  state : SortedMap String String := .empty

namespace Observation

/-- Whether the driver ended by itself and with an exit code. -/
def exitedNormally (o : Observation) : Bool :=
  o.exitCode.isSome && !o.signaled && !o.terminatedByEngine

/-- A line with a marker: the first one, if the marker was watched for. -/
def lineWith? (o : Observation) (marker : String) : Option String :=
  match o.markerHits.get? marker with
  | some line => some line
  | none => o.outputTail.find? (contains · marker)

/-- Where a checkpoint was first reported. -/
def firstPosition? (o : Observation) (checkpoint : Checkpoint) : Option Nat :=
  o.checkpointsSeen.findIdx? (· = checkpoint)

end Observation

/-- What a check says about an invariant. -/
inductive Verdict where
  | pass
  | violation (evidence : String)
  /-- There is not enough evidence. -/
  | inconclusive (reason : String)
  deriving DecidableEq, Repr

namespace Verdict

/-- The name of a kind of verdict. -/
def kind : Verdict → String
  | .pass => "pass"
  | .violation _ => "violation"
  | .inconclusive _ => "inconclusive"

/-- A verdict in messages. -/
def text : Verdict → String
  | .pass => "pass"
  | .violation evidence => s!"violation: {evidence}"
  | .inconclusive reason => s!"inconclusive: {reason}"

end Verdict

end FaultDrill
