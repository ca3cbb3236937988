import FaultDrill.Collections.SortedMap
import FaultDrill.Duration.Text
import FaultDrill.Plan.Corruption

/-!
# FaultDrill.Plan.Fault

Faults, and the events that a plan is made of: at a checkpoint, a fault strikes a target. The faults
are a closed set. All but killing can be taken back.
-/

namespace FaultDrill

open FaultDrill.Text

/-- The name of a point in the run of the system under test. -/
abbrev Checkpoint := String

/-- The number of a checkpoint whose name is one. -/
def Checkpoint.number? (c : Checkpoint) : Option UInt64 :=
  Decimal.read64? c.toList

/-- What can be done to a target. -/
inductive Fault where
  | kill
  | pause
  | resume
  /-- The checkpoint is released only after the duration. -/
  | delay (duration : Duration)
  /-- The target is cut off from the peers. -/
  | partition (peers : NameSet)
  | corrupt (damage : Corruption)
  deriving DecidableEq

namespace Fault

/-- The name of the kind of a fault. -/
def kind : Fault → String
  | .kill => "kill"
  | .pause => "pause"
  | .resume => "resume"
  | .delay _ => "delay"
  | .partition _ => "partition"
  | .corrupt _ => "corrupt"

/-- Whether a fault can be taken back. -/
def isReversible (f : Fault) : Bool :=
  f != .kill

/-- The parameter of a fault, for those that have one. -/
def parameter? : Fault → Option String
  | .kill | .pause | .resume => none
  | .delay duration => some duration.text
  | .partition peers => some (joined "," peers.toList)
  | .corrupt damage => some damage.text

/-- A fault in messages. -/
def text (f : Fault) : String :=
  match f.parameter? with
  | none => f.kind
  | some p => s!"{f.kind}({p})"

/-- A fault as the last fields of an event line. -/
def fields (f : Fault) : String :=
  match f.parameter? with
  | none => f.kind
  | some p => s!"{f.kind} | {p}"

end Fault

/-- A fault that strikes a target at a checkpoint. -/
structure Event where
  checkpoint : Checkpoint
  target : String
  fault : Fault
  deriving DecidableEq

namespace Event

/-- An event in messages. -/
def text (e : Event) : String :=
  s!"{e.fault.text}@{e.checkpoint}:{e.target}"

/-- An event as a line of a plan. -/
def line (e : Event) : String :=
  s!"{e.checkpoint} | {e.target} | {e.fault.fields}"

end Event

end FaultDrill
