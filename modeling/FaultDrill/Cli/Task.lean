import FaultDrill.Campaign.Campaign
import FaultDrill.Cli.Failure
import FaultDrill.Cli.Logging
import FaultDrill.Cli.Page

/-!
# FaultDrill.Cli.Task

What an invocation comes down to. All that can be told from files is told at once, so the task is
then only a page that is ready, or a campaign that has to be run. Everything that a campaign needs
is read before its first trial.
-/

namespace FaultDrill.Cli

variable {σ : Type}

/-- What is run in a campaign. -/
inductive Job where
  | replay (plan : String)
  | invariants (plan : String) (references : List Reference)
  | selection (references : List Reference)

/-- What there is to do. -/
inductive Task where
  /-- A page, possibly with a failure that it tells of. -/
  | show (page : Page) (failure : Option Failure)
  | run (settings : Settings) (campaign : Campaign) (job : Job)

/-- The output of a command, and its failure. -/
structure CommandResult where
  output : String := ""
  failure : Option Failure := none

/-- The exit code of a command. -/
def CommandResult.exitCode (r : CommandResult) : Nat :=
  match r.failure with
  | some failure => failure.exitCode
  | none => 0

/-! ### Pages -/

/-- What is wrong with the configuration in a file. -/
def configFaults (files : FileTree) (env : Environment) (path : String) : List String :=
  match Config.load files env path with
  | .error e => [(DrillError.ofLoad e).message]
  | .ok c =>
    match Settings.ofConfig c with
    | .error e => [e.message]
    | .ok _ => []

/-- The validation of a configuration. -/
def validateConfig (files : FileTree) (env : Environment) (path : String) : Task :=
  let faults := configFaults files env path
  .show (configValidationPage path faults) (if faults.isEmpty then none else some .invalidConfig)

/-- The configuration that is in force, or a section of it. -/
def showConfig (c : Config) (path : String) (part : Option String) : Except Failure Task :=
  match part with
  | none => .ok (.show (configPage path none c.text) none)
  | some name =>
    match c.sectionText? name with
    | some text => .ok (.show (configPage path part text) none)
    | none => .error (.unknownSection name)

/-- The validation of some plans. -/
def validatePlans (files : FileTree) (c : Config) (paths : List String) : Except Failure Task := do
  let settings ← (CheckSettings.ofConfig c.invariant).mapError (.drill <| .config ·)
  let found := paths.map (PlanValidation.ofFile files settings)
  let invalid := (found.filter (!·.isValid)).length
  return .show (validationPage found) (if invalid = 0 then none else some (.invalidPlans invalid))

/-- A plan. -/
def showPlan (files : FileTree) (path : String) : Except Failure Task := do
  let plan ← (Plan.load files path).mapError (.drill <| .plan ·)
  return .show (planPage path plan) none

/-! ### Campaigns -/

/-- The task of running a campaign. -/
def runTask (files : FileTree) (c : Config) (scripts : ScriptChoice) (job : Job) :
    Except Failure Task := do
  let settings ← (Settings.ofConfig c).mapError .drill
  let campaign ← (Campaign.new settings scripts.driverScript scripts.cleanupScript files).mapError
    .drill
  return .run settings campaign job

/-- The references of a list. -/
def listedReferences (files : FileTree) (path : String) : Except Failure (List Reference) :=
  (Reference.loadList files path).mapError (.drill <| .plan ·)

/-- The references that are chosen, or else those of a list. -/
def chosenReferences (files : FileTree) (path : String) (chosen : List String) :
    Except Failure (List Reference) :=
  if chosen.isEmpty then listedReferences files path
  else (chosen.mapM fun text => readReference text.toList).mapError (.drill <| .plan ·)

namespace Invocation

/-- The configuration that is in force. -/
def configured (i : Invocation) (files : FileTree) (env : Environment) : Except Failure Config :=
  (Config.loadOrDefault files env i.config).mapError (.drill <| .ofLoad ·)

/-- Refuses a level of the log that cannot be read. A level from the configuration always can. -/
def checkLog (i : Invocation) (env : Environment) : Except Failure Unit :=
  match i.logLevel with
  | some level => (checkLogLevel env level).mapError (.logLevel level)
  | none => .ok ()

/-- The task of an invocation. Only the validation of a configuration goes on without a valid one.
-/
def task (i : Invocation) (files : FileTree) (env : Environment) : Except Failure Task := do
  i.checkLog env
  match i.command with
  | .configValidate => return validateConfig files env i.config
  | .configShow part => showConfig (← i.configured files env) i.config part
  | .planValidate paths => validatePlans files (← i.configured files env) paths
  | .planShow path =>
    let _ ← i.configured files env
    showPlan files path
  | .replay plan scripts => runTask files (← i.configured files env) scripts (.replay plan)
  | .campaign plan list trials scripts =>
    let c ← i.configured files env
    let repeats := trials.getD c.trial.trialsPerInvariant
    let references ← listedReferences files list
    runTask files { c with trial := { c.trial with trialsPerInvariant := repeats } } scripts
      (.invariants plan references)
  | .select list chosen scripts =>
    let c ← i.configured files env
    let references ← chosenReferences files list chosen
    runTask files c scripts (.selection references)

end Invocation

/-! ### Running -/

/-- Does a job. -/
def Job.start (b : Bench σ) (campaign : Campaign) (s : σ) :
    Job → Option (CampaignReport × Campaign × σ)
  | .replay plan => campaign.replay b plan s
  | .invariants plan references => campaign.runInvariants b plan references s
  | .selection references => campaign.select b references s

/-- Whether the stage of a job is that of selection. -/
def Job.isSelection : Job → Bool
  | .selection _ => true
  | _ => false

/-- The settings that a task runs with, if it runs anything. -/
def Task.settings? : Task → Option Settings
  | .show .. => none
  | .run settings .. => some settings

/-- Carries a task out. There is no result if the clock comes to its end. -/
def Task.carryOut (b : Bench σ) (format : OutputFormat) (s : σ) :
    Task → Option (CommandResult × σ)
  | .show page failure => some (⟨page.render format, failure⟩, s)
  | .run _ campaign job => do
    let (report, _, s) ← job.start b campaign s
    let page := campaignPage report job.isSelection
    return (⟨page.render format, Failure.ofReport? report⟩, s)

end FaultDrill.Cli
