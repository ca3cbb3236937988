import FaultDrill.Campaign.Recorder
import FaultDrill.Campaign.Report
import FaultDrill.Trial.Runner

/-!
# FaultDrill.Campaign.Campaign

Campaigns: trials one after the other, each recorded when it ends. A trial that fails does not stop
a campaign. Only a request to stop does, and then the trial that runs is still torn down and
recorded.
-/

namespace FaultDrill

variable {σ : Type}

/-- What a campaign runs its trials with. -/
structure Campaign where
  runner : Runner
  recorder : Recorder

/-- A trial that is going to be run. -/
structure PlannedTrial where
  spec : TrialSpec
  /-- The plan that the record of a violation holds. -/
  plan : Option Plan := none
  /-- The invariant that the record holds in the place of the one of the plan. -/
  reference : Option Reference := none

/-- A campaign while it runs. -/
structure CampaignRun (σ : Type) where
  world : σ
  runner : Runner
  state : CampaignState
  report : CampaignReport

namespace CampaignRun

/-- Whether a stop has been asked for, which the report then tells. -/
def checkStop (b : Bench σ) (run : CampaignRun σ) : CampaignRun σ :=
  if b.cancelled run.world then { run with report := { run.report with interrupted := true } }
  else run

/-- Enters a result into the report. -/
def push (run : CampaignRun σ) (record : Option String) (r : TrialResult) : CampaignRun σ :=
  { run with report := { run.report with
      results := run.report.results ++ [r]
      summary := run.report.summary.add r.outcome
      violationRecords := run.report.violationRecords ++ record.toList } }

/-- Runs a trial and records it. -/
def trial (b : Bench σ) (recorder : Recorder) (t : PlannedTrial) (run : CampaignRun σ) :
    Option (CampaignRun σ) := do
  let f ← run.runner.run b run.state t.spec run.world
  let (record, files) := recorder.record f.result t.plan t.reference (b.files f.world)
  let after : CampaignRun σ :=
    { run with world := b.setFiles files f.world, runner := f.runner, state := f.campaign }
  return (after.push record f.result).checkStop b

/-- Runs trials until none is left or a stop is asked for. -/
def runAll (b : Bench σ) (recorder : Recorder) :
    List PlannedTrial → CampaignRun σ → Option (CampaignRun σ)
  | [], run => some run
  | t :: rest, run =>
    let run := run.checkStop b
    if run.report.interrupted then some run
    else run.trial b recorder t >>= runAll b recorder rest

end CampaignRun

namespace Campaign

/-- The campaign of settings, which have to keep their limits, with scripts that have to be there.
-/
def new (settings : Settings) (driver : Script) (cleanup : Option Script) (files : FileTree) :
    Except DrillError Campaign := do
  settings.validate
  driver.verify files.exists?
  match cleanup with
  | some script => script.verify files.exists?
  | none => pure ()
  return {
    runner := .new settings driver cleanup
    recorder := ⟨settings.campaign.resultLog, settings.campaign.violationsDir⟩ }

/-! ### What is planned -/

/-- The source of a plan that is loaded once. A plan that cannot be loaded is tried again in each
trial, so that each of them tells the failure. -/
def sourceFor (path : String) : Option Plan → PlanSource
  | some plan => .loaded plan
  | none => .path path

/-- One trial of a plan with its own invariant. -/
def plannedReplay (path : String) (plan : Option Plan) : List PlannedTrial :=
  [{ spec := { plan := sourceFor path plan }, plan := plan }]

/-- Trials of a plan, a number of them for each of some invariants. -/
def plannedInvariants (path : String) (plan : Option Plan) (repeats : Nat)
    (references : List Reference) : List PlannedTrial :=
  references.flatMap fun reference =>
    List.replicate repeats
      { spec := { plan := sourceFor path plan, invariant := some reference }
        plan := plan, reference := some reference }

/-- A plan without events for an invariant. -/
def selectionPlan (reference : Reference) : Plan where
  id := "selection"
  metadata := .empty
  invariant := reference
  events := []

/-- A trial without faults for each of some invariants. -/
def plannedSelection (references : List Reference) : List PlannedTrial :=
  references.map fun reference => { spec := { plan := .loaded (selectionPlan reference) } }

/-! ### Running -/

/-- Runs planned trials. There is no report if the clock comes to its end. -/
def run (b : Bench σ) (c : Campaign) (stage : Stage) (trials : List PlannedTrial) (s : σ) :
    Option (CampaignReport × Campaign × σ) := do
  let started := b.now s
  let run ← CampaignRun.runAll b c.recorder trials {
    world := s, runner := c.runner, state := { stage := stage }
    report := { stage := stage, startedAtMs := b.wallClock s } }
  let elapsed := (b.now run.world - started) / nanosPerMilli
  return ({ run.report with durationMs := UInt64.ofNat (min elapsed (UInt64.size - 1)) },
    { c with runner := run.runner }, run.world)

/-- Runs a plan once with its own invariant. -/
def replay (b : Bench σ) (c : Campaign) (path : String) (s : σ) :
    Option (CampaignReport × Campaign × σ) :=
  let plan := (Plan.load (b.files s) path).toOption
  c.run b .injection (plannedReplay path plan) s

/-- Runs a plan for each of some invariants. -/
def runInvariants (b : Bench σ) (c : Campaign) (path : String) (references : List Reference)
    (s : σ) : Option (CampaignReport × Campaign × σ) :=
  let plan := (Plan.load (b.files s) path).toOption
  let repeats := c.runner.settings.trial.trialsPerInvariant
  c.run b .injection (plannedInvariants path plan repeats references) s

/-- Runs the driver without faults for each of some invariants. -/
def select (b : Bench σ) (c : Campaign) (references : List Reference) (s : σ) :
    Option (CampaignReport × Campaign × σ) :=
  c.run b .selection (plannedSelection references) s

end Campaign

end FaultDrill
