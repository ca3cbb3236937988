import FaultDrill.Config.Basic
import FaultDrill.Config.Error
import FaultDrill.Duration.Basic
import FaultDrill.Plan.Error
import FaultDrill.Text.Blank

/-!
# FaultDrill.Check.Settings

The settings of the checks and the limits that they have to keep.
-/

namespace FaultDrill

open FaultDrill.Text
open ConfigError (require)

/-- The settings of the checks. -/
structure CheckSettings where
  /-- How a bare name without a probe is checked. -/
  defaultStrategy : Strategy := .outputMarker
  failureMarker : String := "test has failed"
  probeTimeout : Duration := .ofSecs 30
  /-- The probe command of an invariant name. -/
  probes : SortedMap String String := .empty

namespace CheckSettings

/-- The longest time for a probe, in seconds. -/
def maxProbeTimeoutSecs : Nat := 3600

/-- Refuses settings that break a limit. -/
def validate (s : CheckSettings) : Except ConfigError Unit := do
  require (s.defaultStrategy = .outputMarker || s.defaultStrategy = .exitStatus)
    "invariant.default_strategy"
    s!"'{s.defaultStrategy.token}' needs an argument; use output-marker or exit-status"
  require (!(trim s.failureMarker.toList).isEmpty) "invariant.failure_marker" "must not be empty"
  require (1 ≤ s.probeTimeout.secs && s.probeTimeout.secs ≤ maxProbeTimeoutSecs)
    "invariant.probe_timeout_secs" s!"must be 1-{maxProbeTimeoutSecs}"
  match s.probes.toList.find? fun (_, command) => (trim command.toList).isEmpty with
  | some (name, _) =>
    .error (.invalidValue "invariant.probes" s!"probe '{name}' has an empty command")
  | none => .ok ()

/-- The settings of a configuration. -/
def ofConfig (c : Config.Invariant) : Except ConfigError CheckSettings := do
  let strategy ← match Strategy.ofToken? c.defaultStrategy with
    | some s => .ok s
    | none =>
      .error (.invalidValue "invariant.default_strategy"
        (PlanError.unknownStrategy c.defaultStrategy).message)
  let s : CheckSettings :=
    ⟨strategy, c.failureMarker, .ofSecs c.probeTimeoutSecs, c.probes⟩
  s.validate
  return s

end CheckSettings

end FaultDrill
