import FaultDrill.Plan.Fault

/-!
# FaultDrill.Channel.Message

What reporters tell while a trial runs: that a checkpoint is reached, that a variable has a value,
or which process a target is. A reporter that has reached a checkpoint waits until it is released.
Each message carries the ticket of its sender, so that reports of equal checkpoints can be told
apart. An operation on the channel that carries them may fail.
-/

namespace FaultDrill

/-- What a reporter tells. -/
inductive Report where
  | checkpoint (id : Checkpoint)
  | state (var value : String)
  | target (name : String) (pid : UInt32)
  deriving DecidableEq, Repr

/-- Tells the senders of messages apart. -/
abbrev Ticket := Nat

/-- A report with its sender. -/
structure Message where
  sender : Ticket
  report : Report
  deriving DecidableEq, Repr

/-- The reports other than checkpoints, each kind in the order of arrival. -/
structure Reports where
  state : List (String × String) := []
  targets : List (String × UInt32) := []
  deriving DecidableEq, Repr

/-- Whether nothing has been reported. -/
def Reports.isEmpty (r : Reports) : Bool :=
  r.state.isEmpty && r.targets.isEmpty

/-! ### Errors -/

/-- Why an operation on the reporting channel fails. -/
inductive ChannelError where
  | timeout (waitedMs : Nat)
  | bind (address reason : String)
  | closed (reason : String)
  | protocol (reason : String)
  deriving DecidableEq, Repr

/-- The wording of an error. -/
def ChannelError.message : ChannelError → String
  | .timeout waitedMs => s!"no checkpoint reported within {waitedMs}ms"
  | .bind address reason => s!"failed to bind {address}: {reason}"
  | .closed reason => s!"channel closed: {reason}"
  | .protocol reason => s!"protocol error: {reason}"

end FaultDrill
