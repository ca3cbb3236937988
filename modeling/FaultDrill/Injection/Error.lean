import FaultDrill.Files.Error
import FaultDrill.Plan.Corruption

/-!
# FaultDrill.Injection.Error

Why a fault cannot be injected, and the wording of each cause.
-/

namespace FaultDrill

/-- Why a target has no process. -/
inductive MissingTarget where
  | unknown (name : String)
  /-- The target is known, but nothing says which process it is. -/
  | unlocated (name : String)
  | pidFileUnread (name path : String) (cause : FileError)
  | pidFileWithoutPid (name path : String)
  deriving DecidableEq, Repr

/-- The wording of a missing target. -/
def MissingTarget.message : MissingTarget → String
  | .unknown name => name
  | .unlocated name => s!"{name} (no pid, pid_file or runtime registration)"
  | .pidFileUnread name path cause => s!"{name} (pid file {path}: {cause.message})"
  | .pidFileWithoutPid name path => s!"{name} (pid file {path} does not hold a pid)"

/-- The greatest size of a file that can be damaged. -/
def maxDamagedSize : Nat := 268435456

/-- Why a file cannot be damaged or restored. -/
inductive DamageFault where
  | stat (cause : FileError)
  | tooLarge (size : Nat)
  | read (cause : FileError)
  | beyondEnd (cause : Corruption.BeyondEnd)
  | write (cause : FileError)
  | restore (cause : FileError)
  | timedOut
  deriving DecidableEq, Repr

/-- The wording of a cause. -/
def DamageFault.message : DamageFault → String
  | .stat cause => s!"failed to stat: {cause.message}"
  | .tooLarge size => s!"file is {size} bytes (max {maxDamagedSize})"
  | .read cause => s!"failed to read: {cause.message}"
  | .beyondEnd cause => cause.message
  | .write cause => s!"failed to write: {cause.message}"
  | .restore cause => s!"failed to restore: {cause.message}"
  | .timedOut => "action timed out"

/-- Why a fault cannot be injected. -/
inductive InjectionError where
  | targetNotFound (cause : MissingTarget)
  | unresponsive (target reason : String)
  | actionFailed (target action reason : String)
  /-- The process that should get a signal does not exist any more. -/
  | processGone (pid : UInt32)
  | damage (path : String) (cause : DamageFault)
  | config (field reason : String)
  deriving DecidableEq, Repr

namespace InjectionError

/-- The wording of an error. -/
def message : InjectionError → String
  | .targetNotFound cause => s!"fault target not found: {cause.message}"
  | .unresponsive target reason => s!"target '{target}' unresponsive: {reason}"
  | .actionFailed target action reason => s!"{action} on '{target}' failed: {reason}"
  | .processGone pid => s!"process {pid.toNat} no longer exists"
  | .damage path cause => s!"corrupt {path}: {cause.message}"
  | .config field reason => s!"config error: {field}: {reason}"

/-- An action that has not ended in time. -/
def timedOut (target action : String) : InjectionError :=
  .actionFailed target action "action timed out"

end InjectionError

end FaultDrill
