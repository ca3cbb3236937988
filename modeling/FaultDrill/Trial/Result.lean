import FaultDrill.Check.Observation
import FaultDrill.Plan.Codec
import FaultDrill.Trial.Id

/-!
# FaultDrill.Trial.Result

How a trial has ended: with a verdict about the system under test, or with a failure of the harness
itself, which says nothing about the system. The result of a trial has a form as a JSON value, in
which the fields of the outcome stand among those of the result.
-/

namespace FaultDrill

/-! ### Outcomes -/

/-- How a trial has ended. -/
inductive Outcome where
  | pass
  | violation (evidence : String)
  | inconclusive (reason : String)
  | engineError (reason : String)
  deriving DecidableEq, Repr

namespace Outcome

/-- The outcome of a verdict. -/
def ofVerdict : Verdict → Outcome
  | .pass => .pass
  | .violation evidence => .violation evidence
  | .inconclusive reason => .inconclusive reason

/-- The name of a kind of outcome. -/
def kind : Outcome → String
  | .pass => "pass"
  | .violation _ => "violation"
  | .inconclusive _ => "inconclusive"
  | .engineError _ => "engine_error"

/-- Whether the invariant was violated. -/
def isViolation : Outcome → Bool
  | .violation _ => true
  | _ => false

/-- Whether the harness failed. -/
def isEngineError : Outcome → Bool
  | .engineError _ => true
  | _ => false

/-- An outcome in messages. -/
def text : Outcome → String
  | .pass => "pass"
  | .violation evidence => s!"violation: {evidence}"
  | .inconclusive reason => s!"inconclusive: {reason}"
  | .engineError reason => s!"engine error: {reason}"

end Outcome

/-! ### Results -/

open Json (required? optional?)

/-- What is told about a trial besides its outcome. -/
structure Diagnostics where
  /-- The reported checkpoints in order. -/
  checkpointsSeen : List Checkpoint := []
  eventsFired : List Event := []
  /-- The events that were left when the driver ended. -/
  eventsSkipped : List Event := []
  driverExitCode : Option Int := none
  driverSignaled : Bool := false
  outputTail : List String := []
  /-- The reported variables. -/
  state : SortedMap String String := .empty
  /-- The faults that remained after healing. -/
  lingeringFaults : List String := []
  /-- The phase in which the trial has ended. -/
  finalState : String := ""
  deriving DecidableEq

/-- The result of a trial. -/
structure TrialResult where
  id : TrialId
  invariant : String
  /-- The plan, or the path of one that could not be read. -/
  planId : String
  outcome : Outcome
  diagnostics : Diagnostics
  cleanupWarning : Option String
  startedAtMs : UInt64
  durationMs : UInt64
  deriving DecidableEq

/-- A result in messages. -/
def TrialResult.text (r : TrialResult) : String :=
  s!"[{r.id.text}] {r.invariant} on plan {r.planId}: {r.outcome.text}"

/-! ### As JSON values -/

namespace Outcome

/-- The fields of an outcome. -/
def toFields : Outcome → List (String × Json)
  | .pass => [("outcome", .str "pass")]
  | .violation evidence => [("outcome", .str "violation"), ("evidence", .str evidence)]
  | .inconclusive reason => [("outcome", .str "inconclusive"), ("reason", .str reason)]
  | .engineError reason => [("outcome", .str "engine_error"), ("reason", .str reason)]

/-- An outcome as a JSON value. -/
def toJson (o : Outcome) : Json :=
  .obj o.toFields

/-- A text field of an object. -/
def textField? (name : String) (v : Json) : Option String :=
  required? Json.asString? (v.field? name)

/-- The outcome among the fields of an object. The kind may also be given by its number. -/
def ofFields? (v : Json) : Option Outcome := do
  let (kind, body) ← v.tagged? "outcome" ["pass", "violation", "inconclusive", "engine_error"]
  match kind with
  | "pass" => return .pass
  | "violation" => return .violation (← textField? "evidence" body)
  | "inconclusive" => return .inconclusive (← textField? "reason" body)
  | "engine_error" => return .engineError (← textField? "reason" body)
  | _ => none

end Outcome

namespace Diagnostics

/-- The names of the fields in their order. -/
def names : List String :=
  ["checkpoints_seen", "events_fired", "events_skipped", "driver_exit_code", "driver_signaled",
    "output_tail", "state", "lingering_faults", "final_state"]

/-- The diagnostics as a JSON value. -/
def toJson (d : Diagnostics) : Json :=
  .obj [("checkpoints_seen", .strings d.checkpointsSeen),
    ("events_fired", .arr (d.eventsFired.map Event.toJson)),
    ("events_skipped", .arr (d.eventsSkipped.map Event.toJson)),
    ("driver_exit_code", .ofOption .int d.driverExitCode),
    ("driver_signaled", .bool d.driverSignaled), ("output_tail", .strings d.outputTail),
    ("state", Json.ofMap .str d.state),
    ("lingering_faults", .strings d.lingeringFaults), ("final_state", .str d.finalState)]

/-- The diagnostics from a JSON value. -/
def ofJson? (v : Json) : Option Diagnostics := do
  match ← v.fields? names .complete with
  | [seen, fired, skipped, code, signaled, tail, state, lingering, final] =>
    return {
      checkpointsSeen := ← required? (Json.asList? Json.asString?) seen
      eventsFired := ← required? (Json.asList? Event.ofJson?) fired
      eventsSkipped := ← required? (Json.asList? Event.ofJson?) skipped
      driverExitCode := ← optional? Json.asInt32? code
      driverSignaled := ← required? Json.asBool? signaled
      outputTail := ← required? (Json.asList? Json.asString?) tail
      state := ← required? (Json.asMap? Json.asString?) state
      lingeringFaults := ← required? (Json.asList? Json.asString?) lingering
      finalState := ← required? Json.asString? final }
  | _ => none

end Diagnostics

namespace TrialResult

/-- The names of the fields besides those of the outcome. -/
def names : List String :=
  ["trial_id", "invariant", "plan_id", "diagnostics", "cleanup_warning", "started_at_ms",
    "duration_ms"]

/-- A result as a JSON value. -/
def toJson (r : TrialResult) : Json :=
  .obj ([("trial_id", .str r.id.text), ("invariant", .str r.invariant),
    ("plan_id", .str r.planId)] ++ r.outcome.toFields ++
    [("diagnostics", r.diagnostics.toJson), ("cleanup_warning", .ofOption .str r.cleanupWarning),
      ("started_at_ms", .nat r.startedAtMs.toNat), ("duration_ms", .nat r.durationMs.toNat)])

/-- The identifier of a trial from a JSON value. -/
def idOfJson? (v : Json) : Option TrialId := do
  TrialId.parse? (← v.asString?).toList

/-- A result from a JSON value, which has to be an object. -/
def ofJson? : Json → Option TrialResult
  | .obj fields => do
    let v := Json.obj fields
    return {
      id := ← required? idOfJson? (v.field? "trial_id")
      invariant := ← required? Json.asString? (v.field? "invariant")
      planId := ← required? Json.asString? (v.field? "plan_id")
      outcome := ← Outcome.ofFields? (.obj (fields.filter fun f => !names.contains f.1))
      diagnostics := ← required? Diagnostics.ofJson? (v.field? "diagnostics")
      cleanupWarning := ← optional? Json.asString? (v.field? "cleanup_warning")
      startedAtMs := ← required? Json.asUInt64? (v.field? "started_at_ms")
      durationMs := ← required? Json.asUInt64? (v.field? "duration_ms") }
  | _ => none

end TrialResult

end FaultDrill
