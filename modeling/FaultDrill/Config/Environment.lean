import FaultDrill.Config.Basic
import FaultDrill.Text.Decimal

/-!
# FaultDrill.Config.Environment

Environment variables in the place of settings. Each variable belongs to one field; a text field
takes any value, a number or truth value only one that can be read in the range of the field. A
variable that is missing or cannot be read changes nothing.
-/

namespace FaultDrill

/-- The environment variables of a process. -/
abbrev Environment := SortedMap String String

namespace Config

open FaultDrill.Text

/-- A variable and what its value does to the configuration. -/
structure Override where
  name : String
  set : String → Config → Config

/-- What a variable does when its value has to be read first. -/
def Override.reading {α : Type} (name : String) (read : String → Option α)
    (set : α → Config → Config) : Override where
  name := name
  set text c :=
    match read text with
    | some a => set a c
    | none => c

/-- A truth value in words. -/
def readBool : String → Option Bool
  | "true" => some true
  | "false" => some false
  | _ => none

/-- A number of sixty-four bits in decimal. -/
def read64 (s : String) : Option UInt64 :=
  Decimal.read64? s.toList

/-- A number of thirty-two bits in decimal. -/
def read32 (s : String) : Option UInt32 :=
  Decimal.read32? s.toList

/-- The variables in the order in which they are looked at. -/
def overrides : List Override := [
  ⟨"FAULTLINE_GENERAL_LOG_LEVEL", fun s c => { c with general.logLevel := s }⟩,
  ⟨"FAULTLINE_GENERAL_LOG_FORMAT", fun s c => { c with general.logFormat := s }⟩,
  ⟨"FAULTLINE_CHANNEL_BIND_ADDR", fun s c => { c with channel.bindAddr := s }⟩,
  .reading "FAULTLINE_CHANNEL_CHECKPOINT_TIMEOUT_SECS" read64
    fun n c => { c with channel.checkpointTimeoutSecs := n },
  .reading "FAULTLINE_CHANNEL_MAX_CONNECTIONS" read64
    fun n c => { c with channel.maxConnections := n },
  .reading "FAULTLINE_TRIAL_TRIAL_TIMEOUT_SECS" read64
    fun n c => { c with trial.trialTimeoutSecs := n },
  .reading "FAULTLINE_TRIAL_SETTLE_MS" read64 fun n c => { c with trial.settleMs := n },
  .reading "FAULTLINE_TRIAL_HEAL_BEFORE_CHECK" readBool
    fun b c => { c with trial.healBeforeCheck := b },
  .reading "FAULTLINE_TRIAL_TRIALS_PER_INVARIANT" read32
    fun n c => { c with trial.trialsPerInvariant := n },
  .reading "FAULTLINE_INJECTOR_ACTION_TIMEOUT_SECS" read64
    fun n c => { c with injector.actionTimeoutSecs := n },
  .reading "FAULTLINE_INJECTOR_RETRY_MAX_ATTEMPTS" read32
    fun n c => { c with injector.retryMaxAttempts := n },
  .reading "FAULTLINE_INJECTOR_KILL_GRACE_MS" read64
    fun n c => { c with injector.killGraceMs := n },
  ⟨"FAULTLINE_INVARIANT_DEFAULT_STRATEGY",
    fun s c => { c with invariant.defaultStrategy := s }⟩,
  ⟨"FAULTLINE_INVARIANT_FAILURE_MARKER", fun s c => { c with invariant.failureMarker := s }⟩,
  ⟨"FAULTLINE_CAMPAIGN_STAGE_FILE", fun s c => { c with campaign.stageFile := s }⟩,
  ⟨"FAULTLINE_CAMPAIGN_INVARIANT_FILE", fun s c => { c with campaign.invariantFile := s }⟩,
  ⟨"FAULTLINE_CAMPAIGN_RESULT_LOG", fun s c => { c with campaign.resultLog := s }⟩,
  ⟨"FAULTLINE_CAMPAIGN_VIOLATIONS_DIR", fun s c => { c with campaign.violationsDir := s }⟩]

/-- The configuration with one variable in the place of its field. -/
def Override.apply (o : Override) (env : Environment) (c : Config) : Config :=
  match env.get? o.name with
  | some text => o.set text c
  | none => c

/-- The configuration with the variables in the place of their fields. -/
def withEnvironment (env : Environment) (c : Config) : Config :=
  overrides.foldl (fun c o => o.apply env c) c

end Config

end FaultDrill
