import FaultDrill.Channel.Address
import FaultDrill.Config.Basic
import FaultDrill.Config.Error
import FaultDrill.Text.Pieces

/-!
# FaultDrill.Config.Validation

What a configuration has to satisfy. The conditions are looked at in a fixed order, and the first
one that fails is the one that is reported.
-/

namespace FaultDrill.Config

open FaultDrill.Text
open ConfigError (require)

/-- The levels of the log. -/
def logLevels : List String := ["trace", "debug", "info", "warn", "error"]

/-- The formats of the log. -/
def logFormats : List String := ["json", "pretty"]

/-- The strategies that a bare name may stand for. -/
def defaultStrategies : List String := ["output-marker", "exit-status"]

/-- Refuses a value that is not one of a list. -/
def oneOf (allowed : List String) (field value : String) : Except ConfigError Unit :=
  require (allowed.contains value) field ("must be one of: " ++ joined ", " allowed)

/-- Refuses targets without a name, and two with one name. -/
def checkTargets (seen : List String) : List Target → Except ConfigError Unit
  | [] => .ok ()
  | t :: rest => do
    require (t.name != "") "injector.targets.name" "target name must not be empty"
    require (!seen.contains t.name) "injector.targets.name" s!"duplicate target '{t.name}'"
    checkTargets (t.name :: seen) rest

/-- Refuses a configuration that breaks a condition. -/
def validate (c : Config) : Except ConfigError Unit := do
  oneOf logLevels "general.log_level" c.general.logLevel
  oneOf logFormats "general.log_format" c.general.logFormat
  require (SocketAddress.isValid c.channel.bindAddr) "channel.bind_addr"
    s!"'{c.channel.bindAddr}' is not a socket address"
  require (c.channel.checkpointTimeoutSecs != 0) "channel.checkpoint_timeout_secs"
    "must be greater than 0"
  require (c.trial.trialTimeoutSecs != 0) "trial.trial_timeout_secs" "must be greater than 0"
  require (c.trial.trialsPerInvariant != 0) "trial.trials_per_invariant" "must be at least 1"
  checkTargets [] c.injector.targets
  oneOf defaultStrategies "invariant.default_strategy" c.invariant.defaultStrategy
  require (c.invariant.failureMarker != "") "invariant.failure_marker" "must not be empty"

end FaultDrill.Config
