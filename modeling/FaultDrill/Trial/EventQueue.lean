import FaultDrill.Plan.Fault

/-!
# FaultDrill.Trial.EventQueue

The events of a plan that have not been carried out yet. Events are taken only from the front: a
report of a checkpoint takes the run of events at the front that belong to it, and a report of any
other checkpoint takes none, even if events further back belong to it.
-/

namespace FaultDrill

/-- The events that are left, the next one first. -/
abbrev EventQueue := List Event

namespace EventQueue

/-- The events that are due at a checkpoint, and those that are left after them. -/
def takeDue (checkpoint : Checkpoint) (queue : EventQueue) : List Event × EventQueue :=
  (queue.takeWhile fun e => e.checkpoint = checkpoint,
    queue.dropWhile fun e => e.checkpoint = checkpoint)

/-- The events that a sequence of reports takes in turn, and those that are left. -/
def takeAll : List Checkpoint → EventQueue → List Event × EventQueue
  | [], queue => ([], queue)
  | checkpoint :: reports, queue =>
    let (due, rest) := takeDue checkpoint queue
    let (later, left) := takeAll reports rest
    (due ++ later, left)

/-- Nothing is lost or changed in its place when events are taken. -/
theorem takeDue_append (checkpoint : Checkpoint) (queue : EventQueue) :
    (takeDue checkpoint queue).1 ++ (takeDue checkpoint queue).2 = queue :=
  List.takeWhile_append_dropWhile

end EventQueue

end FaultDrill
