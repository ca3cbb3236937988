import FaultDrill.Check.Evaluate
import FaultDrill.Machine.Controller

/-!
# FaultDrill.Machine.Probe

Running the probe of an invariant on a machine. The probe learns from its environment which
invariant it looks at and in which trial, and it is stopped when its time is over.
-/

namespace FaultDrill.Machine

/-- The environment of a probe. -/
def probeVariables (p : Probe) (trialId : String) : List (String × String) :=
  [("FAULTLINE_INVARIANT", p.invariant), ("FAULTLINE_TRIAL_ID", trialId)]

/-- Runs a probe. -/
def probe (p : Probe) (trialId : String) (m : Machine) : ProbeAnswer × Machine :=
  let limit := p.timeout.nanos
  let bindings := probeVariables p trialId
  match Shell.start (Shell.scriptWords p.command) bindings m.files (some limit) with
  | .error cause => (.unstarted cause.message, m)
  | .ok out =>
    let out := out.within limit
    (match out.ending with
      | .exited code => .exited code out.stdout.bytes out.stderr.bytes
      | .signaled _ => .signaled
      | .expired => .expired,
      { m with files := out.files, clock := m.clock + out.elapsed })

end FaultDrill.Machine
