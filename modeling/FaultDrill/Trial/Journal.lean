import FaultDrill.Channel.Message
import FaultDrill.Check.Observation
import FaultDrill.Trial.Bench

/-!
# FaultDrill.Trial.Journal

The journal of a trial: what the runner has done and learned, in order, each entry with its time and
with whether a stop had been asked for by then. The result of a trial tells less than its journal;
the journal is what laws about the order of things are stated on.

A trial goes through its phases in the order in which they are listed, where it goes back from
injecting to awaiting the next checkpoint, and any failure of the harness leads straight to cleaning
up and then to the end.
-/

namespace FaultDrill

/-! ### Phases -/

/-- A phase of a trial. -/
inductive Phase where
  | init
  | planLoaded
  | driverLaunched
  | awaitingCheckpoint
  | injecting
  /-- No event is left, and the driver may run to its end. -/
  | driverCompleting
  | checking
  | cleaningUp
  | done
  /-- The harness has failed. -/
  | aborted
  deriving DecidableEq, Repr

namespace Phase

/-- The name of a phase in records. -/
def name : Phase → String
  | .init => "init"
  | .planLoaded => "plan_loaded"
  | .driverLaunched => "driver_launched"
  | .awaitingCheckpoint => "awaiting_checkpoint"
  | .injecting => "injecting"
  | .driverCompleting => "driver_completing"
  | .checking => "checking"
  | .cleaningUp => "cleaning_up"
  | .done => "done"
  | .aborted => "aborted"

/-- Whether the trial is over. -/
def isTerminal : Phase → Bool
  | .done | .aborted => true
  | _ => false

end Phase

/-! ### Deeds -/

/-- Something that the runner does or learns. -/
inductive Deed where
  | enter (phase : Phase)
  | launch
  /-- A round of a loop begins, while the given reporters are held. -/
  | turn (held : List Ticket)
  | receive (m : Message)
  | observeExit (e : DriverExit)
  /-- An event is injected while a report of a checkpoint is handled. The processes are those that
  have been registered in this trial so far. -/
  | inject (event : Event) (reported : Checkpoint) (registered : SortedMap String UInt32)
      (succeeded : Bool)
  | release (ticket : Ticket)
  /-- The channel is shut down, and the reporters that were held are released. -/
  | shutDown (released : List Ticket)
  | abandon
  | check (o : Observation)
  /-- All faults are taken back, with the messages of those that could not be. -/
  | heal (failures : List String)
  | lookForFaults (lingering : List String)
  | forgetTargets
  | cleanUp (warning : Option String)

namespace Deed

/-- The phase that is entered. -/
def phase? : Deed → Option Phase
  | enter p => some p
  | _ => none

/-- The event that is injected, with whether this succeeds. -/
def injection? : Deed → Option (Event × Bool)
  | inject e _ _ succeeded => some (e, succeeded)
  | _ => none

/-- The message that is received. -/
def message? : Deed → Option Message
  | receive m => some m
  | _ => none

/-- Whether the driver is seen to have ended. -/
def isExit : Deed → Bool
  | observeExit _ => true
  | _ => false

/-- The reporter of a checkpoint that is received, who waits to be released. -/
def reporter? : Deed → Option Ticket
  | receive ⟨sender, .checkpoint _⟩ => some sender
  | _ => none

/-- The reporters that are released. -/
def released : Deed → List Ticket
  | release t => [t]
  | shutDown ts => ts
  | _ => []

end Deed

/-- An entry of the journal. -/
structure JournalEntry where
  time : Nat
  /-- Whether a stop had been asked for. -/
  cancelled : Bool
  deed : Deed

/-- What has been done and learned, in order. -/
abbrev Journal := List JournalEntry

namespace Journal

/-- The entries without their circumstances. -/
def deeds (j : Journal) : List Deed :=
  j.map (·.deed)

/-- The phases in the order in which they were entered. -/
def phases (j : Journal) : List Phase :=
  j.deeds.filterMap Deed.phase?

/-- The events that were injected, each with whether this succeeded. -/
def injections (j : Journal) : List (Event × Bool) :=
  j.deeds.filterMap Deed.injection?

/-- The reporters whose checkpoints were received, in order. -/
def reporters (j : Journal) : List Ticket :=
  j.deeds.filterMap Deed.reporter?

/-- The reporters that were released, one by one or when the channel was shut down. -/
def released (j : Journal) : List Ticket :=
  j.deeds.flatMap Deed.released

end Journal

end FaultDrill
