import FaultDrill.Campaign.State
import FaultDrill.Channel.Inbox
import FaultDrill.Injection.Injector
import FaultDrill.Trial.Capture
import FaultDrill.Trial.Journal
import FaultDrill.Trial.Result

/-!
# FaultDrill.Trial.Run

A trial while it runs: the bench, the injector, the inbox, and what has been learned so far. Each
operation writes into the journal what it does. What has been learned is kept once and then told
twice: to the check as an observation, and in the result as diagnostics.
-/

namespace FaultDrill

/-- A trial while it runs. -/
structure Run (σ : Type) where
  world : σ
  injector : Injector
  campaign : CampaignState
  inbox : Inbox := {}
  phase : Phase := .init
  id : TrialId
  /-- The plan, or the path from which it is loaded. -/
  planId : String
  /-- The name of the invariant, as far as it is known. -/
  invariant : String
  /-- What the driver and the cleanup are told. -/
  environment : DriverEnvironment
  checkpointsSeen : List Checkpoint := []
  state : SortedMap String String := .empty
  fired : List Event := []
  skipped : List Event := []
  exit : Option DriverExit := none
  /-- Whether the driver was stopped by the harness. -/
  terminated : Bool := false
  capture : Capture := .new 1 []
  journal : Journal := []

namespace Run

variable {σ : Type}

/-! ### The journal -/

/-- Writes a deed down. -/
def note (b : Bench σ) (d : Deed) (r : Run σ) : Run σ :=
  { r with journal := r.journal ++ [⟨b.now r.world, b.cancelled r.world, d⟩] }

/-- Enters a phase, unless the trial is in it already. -/
def enter (b : Bench σ) (p : Phase) (r : Run σ) : Run σ :=
  if r.phase = p then r else note b (.enter p) { r with phase := p }

/-- Begins a round of a loop. -/
def beginRound (b : Bench σ) (r : Run σ) : Run σ :=
  note b (.turn (r.inbox.pending.map (·.2))) r

/-! ### Reports -/

/-- Registers the process of a reported target. -/
def register (r : Run σ) (target : String × UInt32) : Run σ :=
  { r with injector := r.injector.registerTarget target.1 target.2 }

/-- Takes over a reported variable. -/
def setVariable (r : Run σ) (variable_ : String × String) : Run σ :=
  { r with state := r.state.insert variable_.1 variable_.2 }

/-- Takes over the reports that the inbox has collected. -/
def absorb (r : Run σ) : Run σ :=
  let (reports, inbox) := r.inbox.drain
  let r := { r with inbox := inbox }
  reports.state.foldl setVariable (reports.targets.foldl register r)

/-- Takes over a reported checkpoint. -/
def see (r : Run σ) (id : Checkpoint) : Run σ :=
  { r with checkpointsSeen := r.checkpointsSeen ++ [id] }

/-- Releases the oldest reporter of a checkpoint. -/
def release (b : Bench σ) (id : Checkpoint) (r : Run σ) : Run σ :=
  match r.inbox.release id with
  | .ok (ticket, inbox) =>
    note b (.release ticket) { r with inbox := inbox, world := b.answer ticket r.world }
  | .error _ => r

/-! ### Waiting -/

/-- What a wait leads to. -/
inductive News where
  | reported (id : Checkpoint)
  | exited (e : DriverExit)
  | lost (cause : FileError)
  | cancelled
  | deserted
  | timedOut
  deriving DecidableEq, Repr

/-- Waits until the watch ends, where messages that report no checkpoint go into the inbox. No more
than the given number of messages are received. -/
def listen (b : Bench σ) (w : Watch) : Nat → Run σ → News × Run σ
  | 0, r => (.timedOut, r)
  | messages + 1, r =>
    match b.wait w r.world with
    | (.received m, s) =>
      let (found, inbox) := r.inbox.take m
      let r := note b (.receive m) { r with world := s, inbox := inbox }
      match found with
      | some id => (.reported id, r)
      | none => listen b w messages r
    | (.exited e, s) => (.exited e, { r with world := s })
    | (.lost cause, s) => (.lost cause, { r with world := s })
    | (.cancelled, s) => (.cancelled, { r with world := s })
    | (.deserted, s) => (.deserted, { r with world := s })
    | (.timedOut, s) => (.timedOut, { r with world := s })

/-! ### The end of the channel and of the driver -/

/-- Shuts the channel down and releases all reporters that are held. -/
def shutDown (b : Bench σ) (r : Run σ) : Run σ :=
  let (tickets, inbox) := r.inbox.releaseAll
  let s := tickets.foldl (fun s t => b.answer t s) r.world
  note b (.shutDown tickets) { r with inbox := inbox, world := b.shutDown s }

/-- Gives the channel up. -/
def abandon (b : Bench σ) (r : Run σ) : Run σ :=
  note b .abandon { r with world := b.abandon r.world }

/-- Collects what the driver has written and how it has ended. -/
def collect (b : Bench σ) (exit : Option DriverExit) (r : Run σ) : Run σ :=
  let (lines, s) := b.output r.world
  { r with world := s, capture := r.capture.pushAll lines, exit := exit }

/-! ### Faults -/

/-- Takes back all faults. -/
def heal (b : Bench σ) (r : Run σ) : Run σ :=
  let (failures, j, s) := r.injector.healAll b.toSite r.world
  note b (.heal failures) { r with injector := j, world := s }

/-! ### What is told -/

/-- What the check is told. -/
def observation (r : Run σ) : Observation where
  trialId := r.id.text
  outputTail := r.capture.tail
  markerHits := r.capture.hits
  exitCode := r.exit.bind (·.code?)
  signaled := (r.exit.map (·.isSignaled)).getD false
  terminatedByEngine := r.terminated
  checkpointsSeen := r.checkpointsSeen
  state := r.state

/-- What is told in the result. -/
def diagnostics (r : Run σ) (lingering : List String) : Diagnostics where
  checkpointsSeen := r.checkpointsSeen
  eventsFired := r.fired
  eventsSkipped := r.skipped
  driverExitCode := r.exit.bind (·.code?)
  driverSignaled := (r.exit.map (·.isSignaled)).getD false
  outputTail := r.capture.tail
  state := r.state
  lingeringFaults := lingering
  finalState := r.phase.name

end Run

end FaultDrill
