import FaultDrill.Channel.Message
import FaultDrill.Check.Error
import FaultDrill.Config.Load
import FaultDrill.Injection.Error
import FaultDrill.Plan.Error

/-!
# FaultDrill.Error

The errors of all parts as one type, with the part named in front of the wording. An injection error
is summed up as a missing target, an unresponsive target or a failed action.
-/

namespace FaultDrill

/-- An error of some part. -/
inductive DrillError where
  | config (cause : ConfigError)
  | plan (cause : PlanError)
  | channel (cause : ChannelError)
  | targetNotFound (what : String)
  | targetUnresponsive (target reason : String)
  | actionFailed (target action reason : String)
  | check (cause : CheckError)
  | io (cause : FileError)
  | scriptNotFound (program : String)
  | driverNotStarted (script : String) (cause : FileError)
  deriving DecidableEq, Repr

namespace DrillError

/-- The wording of an error. -/
def message : DrillError → String
  | .config cause => s!"config error: {cause.message}"
  | .plan cause => s!"parse error: {cause.message}"
  | .channel cause => s!"channel error: {cause.message}"
  | .targetNotFound what => s!"injection error: fault target not found: {what}"
  | .targetUnresponsive target reason =>
    s!"injection error: target '{target}' unresponsive: {reason}"
  | .actionFailed target action reason =>
    s!"injection error: {action} on '{target}' failed: {reason}"
  | .check cause => s!"invariant error: {cause.message}"
  | .io cause => s!"io error: {cause.message}"
  | .scriptNotFound program => s!"io error: script not found: {program}"
  | .driverNotStarted script cause =>
    s!"io error: failed to start driver {script}: {cause.message}"

/-- An injection error summed up. -/
def ofInjection : InjectionError → DrillError
  | .targetNotFound cause => .targetNotFound cause.message
  | .unresponsive target reason => .targetUnresponsive target reason
  | .actionFailed target action reason => .actionFailed target action reason
  | .processGone pid => .targetNotFound s!"pid {pid.toNat}"
  | .damage path cause => .actionFailed path "corrupt" cause.message
  | .config field reason => .config (.invalidValue field reason)

/-- An error of loading a configuration. -/
def ofLoad : LoadError → DrillError
  | .config cause => .config cause
  | .io cause => .io cause

end DrillError

end FaultDrill
