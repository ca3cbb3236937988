import FaultDrill.Config.Error
import FaultDrill.Duration.Basic
import FaultDrill.Injection.Error
import FaultDrill.Json.Value
import FaultDrill.Target.Registry

/-!
# FaultDrill.Injection.Settings

The settings of the injector and the limits that they have to keep.
-/

namespace FaultDrill

open FaultDrill.Text

/-- The settings of the injector. -/
structure InjectorSettings where
  actionTimeoutSecs : UInt64
  retryMaxAttempts : UInt32
  retryBackoffBaseMs : UInt64
  killGraceMs : UInt64
  partitionCommand : String
  healCommand : String
  targets : List TargetSpec
  killPollIntervalMs : UInt64 := 50
  deriving DecidableEq, Repr

namespace InjectorSettings

/-- The settings of a configuration. -/
def ofConfig (c : Config.Injector) : InjectorSettings where
  actionTimeoutSecs := c.actionTimeoutSecs
  retryMaxAttempts := c.retryMaxAttempts
  retryBackoffBaseMs := c.retryBackoffBaseMs
  killGraceMs := c.killGraceMs
  partitionCommand := c.partitionCommand
  healCommand := c.healCommand
  targets := c.targets.map .ofConfig

instance : Inhabited InjectorSettings := ⟨ofConfig {}⟩

/-! ### Limits -/

/-- The longest time for an action, in seconds. -/
def maxActionTimeoutSecs : Nat := 300

/-- The greatest number of retries. -/
def maxRetryAttempts : Nat := 10

/-- The longest first pause before a retry, in milliseconds. -/
def maxRetryBackoffBaseMs : Nat := 30000

/-- The longest time for a process to die, in milliseconds. -/
def maxKillGraceMs : Nat := 60000

/-- Refuses a setting unless a condition holds. -/
def require (holds : Bool) (field reason : String) : Except InjectionError Unit :=
  if holds then .ok () else .error (.config field reason)

/-- Refuses a number outside a range. -/
def inRange (field : String) (low high n : Nat) : Except InjectionError Unit :=
  require (low ≤ n && n ≤ high) field s!"must be {low}-{high}"

/-- Whether a template is more than blanks. -/
def notBlank (template : String) : Bool :=
  !(trim template.toList).isEmpty

/-- Refuses settings that break a limit. -/
def validate (s : InjectorSettings) : Except InjectionError Unit := do
  inRange "action_timeout_secs" 1 maxActionTimeoutSecs s.actionTimeoutSecs.toNat
  inRange "retry_max_attempts" 0 maxRetryAttempts s.retryMaxAttempts.toNat
  inRange "retry_backoff_base_ms" 0 maxRetryBackoffBaseMs s.retryBackoffBaseMs.toNat
  inRange "kill_grace_ms" 1 maxKillGraceMs s.killGraceMs.toNat
  require (s.killPollIntervalMs != 0) "kill_poll_interval_ms" "must be greater than 0"
  require (notBlank s.partitionCommand) "partition_command" "must not be empty"
  require (notBlank s.healCommand) "heal_command" "must not be empty"

/-! ### Times -/

/-- The time for an action. -/
def actionTimeout (s : InjectorSettings) : Duration :=
  .ofSecs s.actionTimeoutSecs

/-- The pause before the first retry. -/
def retryBackoffBase (s : InjectorSettings) : Duration :=
  .ofMillis s.retryBackoffBaseMs

/-- The time for a process to die. -/
def killGrace (s : InjectorSettings) : Duration :=
  .ofMillis s.killGraceMs

/-- The time between two looks at a dying process. -/
def killPollInterval (s : InjectorSettings) : Duration :=
  .ofMillis s.killPollIntervalMs

/-! ### As a JSON value -/

/-- A target as a JSON value. -/
def targetToJson (t : TargetSpec) : Json :=
  .obj [("name", .str t.name), ("pid", .ofOption (fun p => .nat p.toNat) t.pid),
    ("pid_file", .ofOption .str t.pidFile), ("address", .ofOption .str t.address),
    ("data_dir", .ofOption .str t.dataDir)]

/-- The settings as a JSON value. -/
def toJson (s : InjectorSettings) : Json :=
  .obj [("action_timeout_secs", .nat s.actionTimeoutSecs.toNat),
    ("retry_max_attempts", .nat s.retryMaxAttempts.toNat),
    ("retry_backoff_base_ms", .nat s.retryBackoffBaseMs.toNat),
    ("kill_grace_ms", .nat s.killGraceMs.toNat), ("partition_command", .str s.partitionCommand),
    ("heal_command", .str s.healCommand), ("targets", .arr (s.targets.map targetToJson)),
    ("kill_poll_interval_ms", .nat s.killPollIntervalMs.toNat)]

end InjectorSettings

end FaultDrill
