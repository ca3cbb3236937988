import FaultDrill.Channel.Message

/-!
# FaultDrill.Channel.Inbox

The receiving end of the reporting channel. Reports of variables and targets are collected until
they are drained; reports of checkpoints are held until they are released. Among held reports of
equal checkpoints the oldest is released first.
-/

namespace FaultDrill

/-- What has been received and not yet been dealt with. -/
structure Inbox where
  /-- The held checkpoints with their reporters, the oldest first. -/
  pending : List (Checkpoint × Ticket) := []
  reports : Reports := {}
  deriving DecidableEq, Repr

namespace Inbox

/-- Takes a message. Gives the checkpoint if it reports one. -/
def take (box : Inbox) (m : Message) : Option Checkpoint × Inbox :=
  match m.report with
  | .checkpoint id => (some id, { box with pending := box.pending ++ [(id, m.sender)] })
  | .state var value =>
    (none, { box with reports.state := box.reports.state ++ [(var, value)] })
  | .target name pid =>
    (none, { box with reports.targets := box.reports.targets ++ [(name, pid)] })

/-- Takes messages up to the first one that reports a checkpoint. Gives the checkpoint, and the
messages that are left. -/
def next (box : Inbox) : List Message → Option Checkpoint × Inbox × List Message
  | [] => (none, box, [])
  | m :: rest =>
    match box.take m with
    | (some id, box) => (some id, box, rest)
    | (none, box) => next box rest

/-- Lets the oldest reporter of a checkpoint go on. -/
def release (box : Inbox) (id : Checkpoint) : Except ChannelError (Ticket × Inbox) :=
  match box.pending.find? (·.1 = id) with
  | some held => .ok (held.2, { box with pending := box.pending.eraseP (·.1 = id) })
  | none => .error (.protocol s!"checkpoint {id} has no pending report")

/-- Takes out the collected reports. -/
def drain (box : Inbox) : Reports × Inbox :=
  (box.reports, { box with reports := {} })

/-- Lets all held reporters go on. -/
def releaseAll (box : Inbox) : List Ticket × Inbox :=
  (box.pending.map (·.2), { box with pending := [] })

end Inbox

end FaultDrill
