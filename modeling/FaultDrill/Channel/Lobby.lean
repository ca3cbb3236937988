import FaultDrill.Channel.Inbox
import FaultDrill.Duration.Basic

/-!
# FaultDrill.Channel.Lobby

The channel for reporters in the same process. The queue has a limited number of places. A reporter
whose message has no place yet waits, and those that wait get their places in the order in which
they came. So the messages form one line, of which the first part, as long as the queue has places,
has been accepted. A reporter of a variable or a target is done when its message is accepted; a
reporter of a checkpoint is done when it is released.
-/

namespace FaultDrill

/-- How far a reporter has come. -/
inductive Progress where
  | waiting
  | done
  | failed (cause : ChannelError)
  /-- The reporter has gone away before it was done. -/
  | left
  deriving DecidableEq, Repr

/-- Nobody listens to reports any more. -/
def ChannelError.deaf : ChannelError :=
  .closed "engine is no longer listening"

/-- The channel was given up while a checkpoint was held. -/
def ChannelError.dropped : ChannelError :=
  .closed "engine dropped the checkpoint"

/-- Nobody can report any more. -/
def ChannelError.deserted : ChannelError :=
  .closed "all reporters have disconnected"

/-- The line of messages, and the reporters by their tickets. -/
structure Lobby where
  /-- The number of places in the queue. -/
  capacity : Nat
  messages : List Message := []
  progress : List Progress := []
  /-- Whether new reporters can come. -/
  admitting : Bool := true
  /-- Whether the channel has been shut down. -/
  closed : Bool := false
  deriving Repr

namespace Lobby

/-- The channel with at least one place. -/
def new (capacity : Nat) : Lobby where
  capacity := max 1 capacity

/-- The messages that have a place in the queue. -/
def accepted (l : Lobby) : List Message :=
  l.messages.take l.capacity

/-- The messages that wait for a place. -/
def blocked (l : Lobby) : List Message :=
  l.messages.drop l.capacity

/-- The progress of a reporter that was waiting. -/
def finish (l : Lobby) (ticket : Ticket) (p : Progress) : Lobby :=
  { l with progress := l.progress.modify ticket fun old => if old = .waiting then p else old }

/-- Tells the senders of messages that need no release that they are done. -/
def confirm (l : Lobby) (messages : List Message) : Lobby :=
  messages.foldl (fun l m =>
    match m.report with
    | .checkpoint _ => l
    | _ => l.finish m.sender .done) l

/-- Confirms the accepted messages. -/
def settle (l : Lobby) : Lobby :=
  l.confirm l.accepted

/-- A new reporter comes with a report. -/
def send (l : Lobby) (r : Report) : Lobby :=
  if !l.admitting then l
  else if l.closed then { l with progress := l.progress ++ [.failed .deaf] }
  else
    settle { l with
      messages := l.messages ++ [⟨l.progress.length, r⟩]
      progress := l.progress ++ [.waiting] }

/-- A reporter goes away. A message of it that has been accepted stays. -/
def leave (l : Lobby) (ticket : Ticket) : Lobby :=
  { l.finish ticket .left with
    messages := l.accepted ++ l.blocked.filter (·.sender ≠ ticket) }

/-- No more reporters can come. -/
def stopAdmitting (l : Lobby) : Lobby :=
  { l with admitting := false }

/-- A reporter is released. -/
def answer (l : Lobby) (ticket : Ticket) : Lobby :=
  l.finish ticket .done

/-- Whether no message is there and none can come. -/
def isDeserted (l : Lobby) : Bool :=
  l.messages.isEmpty && (l.closed || (!l.admitting && !l.progress.contains .waiting))

/-- Takes the first accepted message out. -/
def receive (l : Lobby) : Option (Message × Lobby) :=
  match l.accepted with
  | m :: _ => some (m, settle { l with messages := l.messages.drop 1 })
  | [] => none

/-- Shuts the channel down. Messages without a place fail; accepted ones can still be received. -/
def close (l : Lobby) : Lobby :=
  let shut := l.blocked.foldl (fun l m => l.finish m.sender (.failed .deaf)) l
  { shut with messages := l.accepted, closed := true }

/-- Gives the channel up. Whoever still waits is never released. -/
def abandon (l : Lobby) : Lobby :=
  let shut := l.close
  { shut with
    messages := []
    progress := shut.progress.map fun p => if p = .waiting then .failed .dropped else p }

end Lobby

/-- A channel for reporters in the same process, with its receiving end and a clock. -/
structure LocalChannel where
  lobby : Lobby
  inbox : Inbox := {}
  /-- Nanoseconds since the start. -/
  clock : Nat := 0

namespace LocalChannel

/-- Waits for the next checkpoint. Without time to wait, only accepted messages are looked at. -/
def await (c : LocalChannel) (timeout : Duration) : Except ChannelError Checkpoint × LocalChannel :=
  -- places that become free while the queue is emptied are taken by those that wait
  let seen := if timeout.nanos = 0 then c.lobby.accepted else c.lobby.messages
  let unseen := c.lobby.messages.drop seen.length
  let (found, inbox, rest) := c.inbox.next seen
  let taken := c.lobby.confirm (seen.take (seen.length - rest.length))
  let lobby := Lobby.settle { taken with messages := rest ++ unseen }
  match found with
  | some id => (.ok id, { c with lobby := lobby, inbox := inbox })
  | none =>
    if lobby.isDeserted then (.error .deserted, { c with lobby := lobby, inbox := inbox })
    else
      (.error (.timeout timeout.millis),
        { lobby := lobby, inbox := inbox, clock := c.clock + timeout.nanos })

/-- Releases the oldest reporter of a checkpoint. -/
def release (c : LocalChannel) (id : Checkpoint) : Except ChannelError Unit × LocalChannel :=
  match c.inbox.release id with
  | .ok (ticket, inbox) => (.ok (), { c with lobby := c.lobby.answer ticket, inbox := inbox })
  | .error e => (.error e, c)

/-- Takes out the collected reports. -/
def drain (c : LocalChannel) : Reports × LocalChannel :=
  let (reports, inbox) := c.inbox.drain
  (reports, { c with inbox := inbox })

/-- Shuts the channel down and releases the reporters whose checkpoints are held. -/
def shutDown (c : LocalChannel) : LocalChannel :=
  let (tickets, inbox) := c.inbox.releaseAll
  { c with lobby := (tickets.foldl Lobby.answer c.lobby).close, inbox := inbox }

end LocalChannel

end FaultDrill
