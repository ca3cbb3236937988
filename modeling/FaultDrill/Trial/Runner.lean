import FaultDrill.Plan.Parser
import FaultDrill.Trial.Script
import FaultDrill.Trial.Coordinate

/-!
# FaultDrill.Trial.Runner

Running a trial from its plan to its result. Whatever happens on the way, the trial is torn down the
same way: all faults are taken back, what remains of them is looked for, the registered targets are
forgotten, and the cleanup script runs once. The channel is opened before the plan is loaded. It is
shut down whenever the driver was about to be started; a trial that fails before that gives the
channel up without waiting until it is closed.
-/

namespace FaultDrill

variable {σ : Type}

/-- Where the plan of a trial comes from. -/
inductive PlanSource where
  /-- The plan is loaded when the trial starts. -/
  | path (location : String)
  | loaded (plan : Plan)

/-- What stands for the plan before it is loaded. -/
def PlanSource.label : PlanSource → String
  | .path location => location
  | .loaded plan => plan.id

/-- What a trial is about. -/
structure TrialSpec where
  plan : PlanSource
  /-- The invariant to check in the place of the one of the plan. -/
  invariant : Option Reference := none

/-- What runs trials one after the other. -/
structure Runner where
  settings : Settings
  driver : Script
  cleanup : Option Script := none
  injector : Injector
  /-- The phase in which the last trial ended. -/
  phase : Phase := .init

/-- The runner of settings. -/
def Runner.new (settings : Settings) (driver : Script) (cleanup : Option Script) : Runner where
  settings := settings
  driver := driver
  cleanup := cleanup
  injector := .new settings.injector

/-- What is left of a trial. -/
structure Finished (σ : Type) where
  result : TrialResult
  runner : Runner
  campaign : CampaignState
  world : σ
  journal : Journal

namespace Run

/-! ### Before the driver starts -/

/-- The plan of a trial. -/
def loadPlan (b : Bench σ) (source : PlanSource) (r : Run σ) : Except TrialFailure Plan :=
  match source with
  | .loaded plan => .ok plan
  | .path location => (Plan.load (b.files r.world) location).mapError (.planNotLoaded location)

/-- The trial of a plan and an invariant begins. -/
def begin (b : Bench σ) (plan : Plan) (reference : Reference) (r : Run σ) : Run σ :=
  let r := r.enter b .planLoaded
  { r with
    planId := plan.id
    invariant := reference.name
    environment := { r.environment with planId := plan.id, invariant := reference.text }
    campaign := r.campaign.beginTrial reference }

/-- Tells other tools what the trial is about. -/
def publish (b : Bench σ) (paths : CampaignPaths) (r : Run σ) : Except FileError Unit × Run σ :=
  let (answer, s) :=
    storeAll b.write (r.campaign.signals paths.stageFile paths.invariantFile) r.world
  (answer, { r with world := s })

/-- All that comes before the driver. Gives the plan, the invariant and its check. -/
def prepare (b : Bench σ) (s : Settings) (spec : TrialSpec) (r : Run σ) :
    Except TrialFailure (Plan × Reference × Check) × Run σ :=
  match r.loadPlan b spec.plan with
  | .error failure => (.error failure, r)
  | .ok plan =>
    let reference := spec.invariant.getD plan.invariant
    match (r.begin b plan reference).publish b s.campaign with
    | (.error cause, r) => (.error (.signalsNotPublished cause), r)
    | (.ok (), r) =>
      match Check.resolve s.checker reference with
      | .error cause => (.error (.notEvaluable cause), r)
      | .ok check =>
        -- a request to stop is honoured before anything outside has been started
        if b.cancelled r.world then (.error .cancelled, r)
        else (.ok (plan, reference, check), r)

/-! ### With the driver -/

/-- The verdict of a check on what has been observed. -/
def judge (b : Bench σ) (check : Check) (r : Run σ) : Verdict × Run σ :=
  let o := r.observation
  let r := r.note b (.check o)
  match check with
  | .probe p =>
    let (answer, s) := b.ask p o.trialId r.world
    (check.evaluate (fun _ => answer) o, { r with world := s })
  | _ => (check.evaluate (fun _ => .expired) o, r)

/-- Stops the driver after a failure. -/
def breakOff (b : Bench σ) (r : Run σ) : Run σ :=
  let (exit, s) := b.terminate r.world
  Run.collect b exit (Run.shutDown b { r with terminated := true, world := s })

/-- Collects the last reports after the driver has ended, and checks the invariant. -/
def conclude (b : Bench σ) (s : Settings) (check : Check) (exit : DriverExit) (r : Run σ) :
    Except Halt Outcome × Run σ :=
  match later? (b.now r.world) s.trial.settle with
  | none => (.error .clockOverflow, r)
  | some until_ =>
    -- reports that come late count, and only then does the channel close
    let r := (r.settle b until_ (s.trial.settle.nanos + 1)).shutDown b
    let r := (r.collect b (some exit)).enter b .checking
    let (verdict, r) := (if s.trial.healBeforeCheck then r.heal b else r).judge b check
    (.ok (.ofVerdict verdict), r)

/-- The events that a plan injects in a stage. -/
def eventsIn : Stage → Plan → EventQueue
  | .selection, _ => []
  | .injection, plan => plan.events

/-- Runs the driver to its end and checks the invariant. -/
def drive (b : Bench σ) (s : Settings) (driver : Script) (plan : Plan) (reference : Reference)
    (check : Check) (r : Run σ) : Except Halt Outcome × Run σ :=
  let capture := Capture.new s.trial.outputTailLines (Check.watchedMarkers s.checker reference)
  match b.launch driver r.environment.bindings r.world with
  | (.error cause, w) =>
    (.error (.failed (.driverNotStarted driver.text cause)),
      Run.shutDown b { r with world := w, capture := capture })
  | (.ok (), w) =>
    let r : Run σ := { r with world := w, capture := capture }
    let r := Run.enter b .driverLaunched (Run.note b .launch r)
    match later? (b.now r.world) s.trial.trialTimeout with
    | none => (.error .clockOverflow, r)
    | some deadline =>
      match coordinate b s deadline (s.trial.trialTimeout.nanos + 1) true
          (eventsIn r.campaign.stage plan) r with
      | (.error .clockOverflow, _, r) => (.error .clockOverflow, r)
      | (.error (.failed cause), _, r) => (.error (.failed cause), r.breakOff b)
      | (.ok exit, skipped, r) => conclude b s check exit { r with skipped := skipped }

/-- A trial up to its outcome. -/
def attempt (b : Bench σ) (s : Settings) (driver : Script) (spec : TrialSpec)
    (channel : Except ChannelError String) (r : Run σ) : Except Halt Outcome × Run σ :=
  match r.prepare b s spec, channel with
  | (.error failure, r), .ok _ => (.error (.failed failure), r.abandon b)
  | (.error failure, r), .error _ => (.error (.failed failure), r)
  | (.ok _, r), .error cause => (.error (.failed (.channelUnavailable cause)), r)
  | (.ok (plan, reference, check), r), .ok address =>
    let r := { r with environment := { r.environment with channelAddr := address } }
    match r.drive b s driver plan reference check with
    | (.error .clockOverflow, r) => (.error .clockOverflow, r)
    | (outcome, r) => (outcome, r.abandon b)

/-! ### Teardown -/

/-- Runs the cleanup script, if there is one. Gives its warning. -/
def cleanUp (b : Bench σ) (timeout : Duration) (cleanup : Option Script) (r : Run σ) :
    Option String × Run σ :=
  match cleanup with
  | none => (none, r)
  | some script =>
    let (answer, s) := b.cleanUp script r.environment.bindings timeout.nanos r.world
    let warning := cleanupWarning? script timeout answer
    (warning, Run.note b (.cleanUp warning) { r with world := s })

/-- Tears a trial down. Gives the faults that remain and the warning of the cleanup. -/
def tearDown (b : Bench σ) (timeout : Duration) (cleanup : Option Script) (aborted : Bool)
    (r : Run σ) : List String × Option String × Run σ :=
  let r := (r.enter b .cleaningUp).heal b
  -- what remains is looked for while the registered targets are still known
  let (lingering, s) := r.injector.lingeringFaults b.toSite r.world
  let r := Run.note b (.lookForFaults lingering) { r with world := s }
  let r := Run.note b .forgetTargets { r with injector := r.injector.resetRuntimeTargets }
  let (warning, r) := r.cleanUp b timeout cleanup
  let r := { r with campaign := r.campaign.endTrial }
  (lingering, warning, r.enter b (if aborted then .aborted else .done))

end Run

namespace Runner

/-- A trial before anything is done. -/
def start (b : Bench σ) (runner : Runner) (campaign : CampaignState) (spec : TrialSpec) (s : σ) :
    Run σ :=
  let (id, s) := b.freshId s
  { world := s
    injector := runner.injector
    campaign := campaign
    id := id
    planId := spec.plan.label
    invariant := (spec.invariant.map (·.name)).getD ""
    environment := ⟨"", id.text, "", campaign.stage.signal, spec.plan.label⟩ }

/-- The outcome of an attempt; a clock that has come to its end leaves none. -/
def outcomeOf : Except Halt Outcome → Option Outcome
  | .ok outcome => some outcome
  | .error (.failed failure) => some (.engineError failure.message)
  | .error .clockOverflow => none

/-- Runs a trial with a channel that has been opened, or could not be. There is no result if the
clock comes to its end. -/
def execute (b : Bench σ) (runner : Runner) (campaign : CampaignState) (spec : TrialSpec)
    (channel : Except ChannelError String) (s : σ) : Option (Finished σ) :=
  let startedAtMs := b.wallClock s
  let started := b.now s
  let (attempted, r) :=
    (runner.start b campaign spec s).attempt b runner.settings runner.driver spec channel
  match outcomeOf attempted with
  | none => none
  | some outcome =>
    let (lingering, warning, r) :=
      r.tearDown b runner.settings.trial.cleanupTimeout runner.cleanup outcome.isEngineError
    some {
      result := {
        id := r.id
        invariant := r.invariant
        planId := r.planId
        outcome := outcome
        diagnostics := r.diagnostics lingering
        cleanupWarning := warning
        startedAtMs := startedAtMs
        durationMs :=
          UInt64.ofNat (min ((b.now r.world - started) / nanosPerMilli) (UInt64.size - 1)) }
      runner := { runner with injector := r.injector, phase := r.phase }
      campaign := r.campaign
      world := r.world
      journal := r.journal }

/-- Runs a trial with a channel of its own. -/
def run (b : Bench σ) (runner : Runner) (campaign : CampaignState) (spec : TrialSpec) (s : σ) :
    Option (Finished σ) :=
  let (channel, s) := b.openChannel runner.settings.channel.bindAddr s
  runner.execute b campaign spec channel s

end Runner

end FaultDrill
