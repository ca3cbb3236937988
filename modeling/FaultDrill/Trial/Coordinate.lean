import FaultDrill.Error
import FaultDrill.Plan.Fault
import FaultDrill.Settings
import FaultDrill.Trial.EventQueue
import FaultDrill.Trial.Run

/-!
# FaultDrill.Trial.Coordinate

The rounds of a trial, and why a trial is given up. While the driver runs, the runner waits for the
next checkpoint, injects the events that are due at it, holds the reporter for the delays among them,
and releases it. After the driver has ended, the runner waits a little for reports that come late.
Each round takes at least a nanosecond, so there are no more rounds than nanoseconds until the
deadline.
-/

namespace FaultDrill

/-! ### Failures -/

/-- Why a trial is given up. -/
inductive TrialFailure where
  | planNotLoaded (path : String) (cause : PlanError)
  | signalsNotPublished (cause : FileError)
  | notEvaluable (cause : CheckError)
  | cancelled
  | channelUnavailable (cause : ChannelError)
  | driverNotStarted (script : String) (cause : FileError)
  | driverLost (cause : FileError)
  | injectionFailed (event : Event) (cause : InjectionError)
  /-- No checkpoint came while events were left. -/
  | noCheckpoint (waitedMs : Nat)
  | timedOut (secs : Nat)
  deriving DecidableEq

/-- The wording of a failure. -/
def TrialFailure.message : TrialFailure → String
  | .planNotLoaded path cause => s!"failed to load plan {path}: {cause.message}"
  | .signalsNotPublished cause =>
    s!"failed to publish campaign signals: {(DrillError.io cause).message}"
  | .notEvaluable cause => s!"cannot evaluate invariant: {cause.message}"
  | .cancelled => "trial cancelled by shutdown request"
  | .channelUnavailable cause => s!"instrumentation channel unavailable: {cause.message}"
  | .driverNotStarted script cause => (DrillError.driverNotStarted script cause).message
  | .driverLost cause => s!"failed to wait for driver: {cause.message}"
  | .injectionFailed event cause => s!"injection of {event.text} failed: {cause.message}"
  | .noCheckpoint waitedMs => s!"channel timeout: no checkpoint reported within {waitedMs}ms"
  | .timedOut secs => s!"trial timed out after {secs}s"

/-- Why a trial stops in its middle. A point in time that lies beyond the range of the clock ends
the whole run, without a result. -/
inductive Halt where
  | failed (cause : TrialFailure)
  | clockOverflow
  deriving DecidableEq

end FaultDrill

namespace FaultDrill.Run

variable {σ : Type}

/-- A point in time, unless the clock, which has sixty-three bits for the seconds, ends before it.
-/
def later? (now : Nat) (d : Duration) : Option Nat :=
  if now + d.nanos < (UInt64.size / 2) * nanosPerSecond then some (now + d.nanos) else none

/-- The failure of a trial that has taken too long. -/
def tooLong (s : TrialSettings) : TrialFailure :=
  .timedOut s.trialTimeout.secs

/-! ### Injecting -/

/-- Injects events one after the other, up to the first one that fails. Gives the sum of the given
delay and of those of the events. -/
def injectAll (b : Bench σ) (reported : Checkpoint) (delay : Duration) :
    List Event → Run σ → Except Halt Duration × Run σ
  | [], r => (.ok delay, r)
  | e :: rest, r =>
    let registered := r.injector.registry.runtime
    match r.injector.inject b.toSite e r.world with
    | (.error cause, j, s) =>
      (.error (.failed (.injectionFailed e cause)),
        note b (.inject e reported registered false) { r with injector := j, world := s })
    | (.ok record, j, s) =>
      let r := note b (.inject e reported registered true) { r with injector := j, world := s }
      -- the delays of one checkpoint add up, and are waited for once
      match delay.add? (record.releaseDelay.getD .zero) with
      | none => (.error .clockOverflow, r)
      | some delay => injectAll b reported delay rest { r with fired := r.fired ++ [e] }

/-- Injects the events that are due, and holds the reporter for the delays among them. -/
def fire (b : Bench σ) (reported : Checkpoint) (due : List Event) (r : Run σ) :
    Except Halt Unit × Run σ :=
  if due.isEmpty then (.ok (), r)
  else
    match injectAll b reported .zero due (r.enter b .injecting) with
    | (.error halt, r) => (.error halt, r)
    | (.ok delay, r) =>
      (.ok (), if delay.nanos = 0 then r else { r with world := b.sleep delay.nanos r.world })

/-! ### Rounds -/

/-- What comes of a round of a loop: the loop is over, or there is a next round. -/
inductive Turn (α β : Type) where
  | over (result : α)
  | again (state : β)

/-- What the news of a round lead to, after the given time was granted for it. The next round, if
there is one, goes on with whether messages are still waited for and with the events that are left.
-/
def hear (b : Bench σ) (s : Settings) (time : Nat) (listening : Bool) (queue : EventQueue) :
    News → Run σ → Turn (Except Halt DriverExit × EventQueue × Run σ) (Bool × EventQueue × Run σ)
  | .cancelled, r => .over (.error (.failed .cancelled), queue, r)
  | .lost cause, r => .over (.error (.failed (.driverLost cause)), queue, r)
  | .exited e, r => .over (.ok e, queue, note b (.observeExit e) r.absorb)
  -- nobody can report any more: from here on only the driver is waited for
  | .deserted, r => .again (false, queue, r.absorb)
  | .timedOut, r =>
    if listening then
      .over (.error (.failed (if queue.isEmpty then tooLong s.trial
        else .noCheckpoint (time / nanosPerMilli))), queue, r.absorb)
    else .over (.error (.failed (tooLong s.trial)), queue, r)
  | .reported id, r =>
    let (due, rest) := EventQueue.takeDue id queue
    match fire b id due (r.absorb.see id) with
    | (.error halt, r) => .over (.error halt, rest, r)
    | (.ok (), r) => .again (listening, rest, r.release b id)

/-- One round while the driver runs. -/
def round (b : Bench σ) (s : Settings) (deadline : Nat) (listening : Bool) (queue : EventQueue)
    (r : Run σ) :
    Turn (Except Halt DriverExit × EventQueue × Run σ) (Bool × EventQueue × Run σ) :=
  let r := r.beginRound b
  let r := r.enter b (if queue.isEmpty then .driverCompleting else .awaitingCheckpoint)
  -- a round takes time, so that the rounds come to an end
  let r := { r with world := b.sleep 1 r.world }
  let now := b.now r.world
  if deadline ≤ now then .over (.error (.failed (tooLong s.trial)), queue, r)
  else
    -- while events are left, a checkpoint has to come within its own time
    let time :=
      if queue.isEmpty then deadline - now
      else min s.channel.checkpointTimeout.nanos (deadline - now)
    let until_ := if listening then now + time else deadline
    let (news, r) := r.listen b ⟨until_, listening, true⟩ (until_ - now + 1)
    hear b s time listening queue news r

/-- Goes through rounds until the driver ends or the trial fails. Gives the events that are left. -/
def coordinate (b : Bench σ) (s : Settings) (deadline : Nat) :
    Nat → Bool → EventQueue → Run σ → Except Halt DriverExit × EventQueue × Run σ
  | 0, _, queue, r => (.error (.failed (tooLong s.trial)), queue, r)
  | rounds + 1, listening, queue, r =>
    match round b s deadline listening queue r with
    | .over result => result
    | .again (listening, queue, r) => coordinate b s deadline rounds listening queue r

/-- One round after the driver has ended. A late checkpoint is released at once. -/
def settleRound (b : Bench σ) (until_ : Nat) (r : Run σ) : Turn (Run σ) (Run σ) :=
  let r := r.beginRound b
  let r := { r with world := b.sleep 1 r.world }
  let now := b.now r.world
  if until_ ≤ now then .over r.absorb
  else
    match r.listen b ⟨until_, true, false⟩ (until_ - now + 1) with
    | (.reported id, r) => .again ((r.see id).release b id)
    | (_, r) => .over r.absorb

/-- Goes through rounds until the time is over or nothing can come any more. -/
def settle (b : Bench σ) (until_ : Nat) : Nat → Run σ → Run σ
  | 0, r => r.absorb
  | rounds + 1, r =>
    match settleRound b until_ r with
    | .over r => r
    | .again r => settle b until_ rounds r

end FaultDrill.Run
