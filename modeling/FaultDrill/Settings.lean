import FaultDrill.Check.Settings
import FaultDrill.Error
import FaultDrill.Injection.Settings

/-!
# FaultDrill.Settings

The settings with which trials and campaigns run: the configuration with durations in the place of
numbers, with empty paths taken away, and within limits. As a JSON value, a duration stands for its
whole milliseconds, as long as sixty-four bits suffice for them.
-/

namespace FaultDrill

open FaultDrill.Text

/-- The settings of the reporting channel. -/
structure ChannelSettings where
  bindAddr : String
  checkpointTimeout : Duration
  maxConnections : Nat
  maxLineBytes : Nat
  queueCapacity : Nat

/-- The settings of the channel of a configuration. -/
def ChannelSettings.ofConfig (c : Config.Channel) : ChannelSettings where
  bindAddr := c.bindAddr
  checkpointTimeout := .ofSecs c.checkpointTimeoutSecs
  maxConnections := c.maxConnections.toNat
  maxLineBytes := c.maxLineBytes.toNat
  queueCapacity := c.queueCapacity.toNat

/-- The settings of a trial. -/
structure TrialSettings where
  trialTimeout : Duration
  settle : Duration
  healBeforeCheck : Bool
  trialsPerInvariant : Nat
  outputTailLines : Nat
  cleanupTimeout : Duration

/-- The settings of a trial of a configuration. -/
def TrialSettings.ofConfig (c : Config.Trial) : TrialSettings where
  trialTimeout := .ofSecs c.trialTimeoutSecs
  settle := .ofMillis c.settleMs
  healBeforeCheck := c.healBeforeCheck
  trialsPerInvariant := c.trialsPerInvariant.toNat
  outputTailLines := c.outputTailLines.toNat
  cleanupTimeout := .ofSecs c.cleanupTimeoutSecs

/-- Where a campaign writes. -/
structure CampaignPaths where
  stageFile : Option String := none
  invariantFile : Option String := none
  resultLog : Option String := none
  violationsDir : Option String := none
  deriving DecidableEq, Repr

/-- The paths of a configuration; a blank path is none. -/
def CampaignPaths.ofConfig (c : Config.Campaign) : CampaignPaths :=
  let path := fun s : String => if (trim s.toList).isEmpty then none else some s
  ⟨path c.stageFile, path c.invariantFile, path c.resultLog, path c.violationsDir⟩

/-- All settings. -/
structure Settings where
  channel : ChannelSettings
  trial : TrialSettings
  campaign : CampaignPaths
  injector : InjectorSettings
  checker : CheckSettings

namespace Settings

open ConfigError (require)

/-- Refuses a number outside a range. -/
def inRange (field : String) (low high n : Nat) : Except ConfigError Unit :=
  require (low ≤ n && n ≤ high) field s!"must be {low}-{high}"

/-- Refuses a duration of no time. -/
def positive (field : String) (d : Duration) : Except ConfigError Unit :=
  require (d.nanos != 0) field "must be greater than 0"

/-- Refuses settings that break a limit. -/
def validate (s : Settings) : Except DrillError Unit := do
  Except.mapError .config do
    positive "channel.checkpoint_timeout_secs" s.channel.checkpointTimeout
    inRange "channel.max_connections" 1 4096 s.channel.maxConnections
    inRange "channel.max_line_bytes" 64 1048576 s.channel.maxLineBytes
    inRange "channel.queue_capacity" 1 65536 s.channel.queueCapacity
    positive "trial.trial_timeout_secs" s.trial.trialTimeout
    positive "trial.cleanup_timeout_secs" s.trial.cleanupTimeout
    inRange "trial.trials_per_invariant" 1 1000 s.trial.trialsPerInvariant
    inRange "trial.output_tail_lines" 1 100000 s.trial.outputTailLines
  s.injector.validate.mapError .ofInjection
  s.checker.validate.mapError .config

/-- The settings of a configuration. -/
def ofConfig (c : Config) : Except DrillError Settings := do
  let checker ← (CheckSettings.ofConfig c.invariant).mapError .config
  let s : Settings := {
    channel := .ofConfig c.channel
    trial := .ofConfig c.trial
    campaign := .ofConfig c.campaign
    injector := .ofConfig c.injector
    checker := checker }
  s.validate
  return s

end Settings

/-! ### As a JSON value -/

/-- The milliseconds of a duration, or `null` if they do not fit. -/
def Duration.toJson (d : Duration) : Json :=
  if d.millis < UInt64.size then .nat d.millis else .null

/-- The settings of the checks as a JSON value. -/
def CheckSettings.toJson (s : CheckSettings) : Json :=
  .obj [("default_strategy", .str s.defaultStrategy.token),
    ("failure_marker", .str s.failureMarker),
    ("probe_timeout_ms", s.probeTimeout.toJson), ("probes", .ofMap .str s.probes)]

/-- The settings of the channel as a JSON value. -/
def ChannelSettings.toJson (s : ChannelSettings) : Json :=
  .obj [("bind_addr", .str s.bindAddr), ("checkpoint_timeout_ms", s.checkpointTimeout.toJson),
    ("max_connections", .nat s.maxConnections), ("max_line_bytes", .nat s.maxLineBytes),
    ("queue_capacity", .nat s.queueCapacity)]

/-- The settings of a trial as a JSON value. -/
def TrialSettings.toJson (s : TrialSettings) : Json :=
  .obj [("trial_timeout_ms", s.trialTimeout.toJson), ("settle_ms", s.settle.toJson),
    ("heal_before_check", .bool s.healBeforeCheck),
    ("trials_per_invariant", .nat s.trialsPerInvariant),
    ("output_tail_lines", .nat s.outputTailLines), ("cleanup_timeout_ms", s.cleanupTimeout.toJson)]

/-- The paths of a campaign as a JSON value. -/
def CampaignPaths.toJson (p : CampaignPaths) : Json :=
  .obj [("stage_file", .ofOption .str p.stageFile),
    ("invariant_file", .ofOption .str p.invariantFile),
    ("result_log", .ofOption .str p.resultLog), ("violations_dir", .ofOption .str p.violationsDir)]

/-- All settings as a JSON value. -/
def Settings.toJson (s : Settings) : Json :=
  .obj [("channel", s.channel.toJson), ("trial", s.trial.toJson), ("campaign", s.campaign.toJson),
    ("injector", s.injector.toJson), ("checker", s.checker.toJson)]

end FaultDrill
