import FaultDrill.Duration.Basic
import FaultDrill.Error
import FaultDrill.Files.Error
import FaultDrill.Files.Path
import FaultDrill.Machine.Ending
import FaultDrill.Target.Endpoint
import FaultDrill.Text.Blank
import FaultDrill.Text.Utf8

/-!
# FaultDrill.Trial.Script

Commands that run outside: the driver of the system under test and the cleanup after a trial, and
the environment that a driver is given. That a cleanup does not succeed is only warned of: the
outcome of a trial does not depend on its cleanup.
-/

namespace FaultDrill

open FaultDrill.Text

/-- A program with its arguments. -/
structure Script where
  program : String
  args : List String := []
  deriving DecidableEq, Repr

namespace Script

/-- A text that the shell runs. -/
def shell (text : String) : Script :=
  ⟨"sh", ["-c", text]⟩

/-- A script in messages. -/
def text (s : Script) : String :=
  s.args.foldl (fun line arg => s!"{line} {arg}") s.program

/-- Refuses a program that is given by a path at which nothing is. A bare name is looked for
elsewhere and passes. -/
def verify (there : String → Bool) (s : Script) : Except DrillError Unit :=
  if 1 < (Path.components s.program).length ∧ !there s.program then
    .error (.scriptNotFound s.program)
  else .ok ()

end Script

/-- The last name of a path, or the whole path if it ends otherwise. -/
def displayName (path : String) : String :=
  (Path.fileName? path).getD path

/-- What a driver is told about its trial. -/
structure DriverEnvironment where
  channelAddr : String
  trialId : String
  invariant : String
  stage : String
  planId : String
  deriving Repr

/-- The environment variables of a driver. The host of the channel loses its brackets. -/
def DriverEnvironment.bindings (e : DriverEnvironment) : List (String × String) :=
  let (host, port) :=
    match cutLast? ':' e.channelAddr.toList with
    | some (host, port) => (Endpoint.withoutBrackets host, port)
    | none => (e.channelAddr.toList, [])
  [("FAULTLINE_CHANNEL_ADDR", e.channelAddr), ("FAULTLINE_CHANNEL_HOST", String.ofList host),
    ("FAULTLINE_CHANNEL_PORT", String.ofList port), ("FAULTLINE_TRIAL_ID", e.trialId),
    ("FAULTLINE_INVARIANT", e.invariant), ("FAULTLINE_STAGE", e.stage),
    ("FAULTLINE_PLAN_ID", e.planId)]

/-! ### Cleanup -/

/-- The warning about a cleanup, unless it has succeeded. -/
def cleanupWarning? (script : Script) (timeout : Duration) :
    Except FileError (Ending × Bytes) → Option String
  | .ok (.exited 0, _) => none
  | .ok (.expired, _) => some s!"cleanup {script.text} timed out after {timeout.secs}s"
  | .ok (ending, errors) =>
    some s!"cleanup {script.text} exited with {ending.text}: {trimmed (Utf8.lenient errors)}"
  | .error cause => some s!"cleanup {script.text} could not start: {cause.message}"

end FaultDrill
