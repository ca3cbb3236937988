import FaultDrill.Check.Error
import FaultDrill.Check.Settings
import FaultDrill.Plan.Fault

/-!
# FaultDrill.Check.Basic

Checks, and how a reference to an invariant becomes one. A reference with a strategy gives the
argument in words; a bare name takes its probe from the settings, or else their default strategy.
-/

namespace FaultDrill

open FaultDrill.Text

/-- A command that decides about an invariant. -/
structure Probe where
  invariant : String
  command : String
  timeout : Duration
  deriving DecidableEq, Repr

/-- A check of an invariant. -/
inductive Check where
  /-- No line of the output may contain the marker. -/
  | outputMarker (marker : String)
  /-- The driver must exit with code zero. -/
  | exitStatus
  /-- The variable must be reported with the expected value. -/
  | constant (var expected : String)
  /-- The two variables must be reported with one value, or both not be reported. -/
  | equality (left right : String)
  /-- The checkpoint must be reported. -/
  | reaches (checkpoint : Checkpoint)
  /-- The first report of one checkpoint must come before that of the other. -/
  | ordered (first second : Checkpoint)
  /-- At most one node may report the value for the variable. -/
  | exclusive (var value : String)
  /-- The command must exit with code zero. -/
  | probe (p : Probe)
  deriving DecidableEq, Repr

namespace Check

/-! ### Kinds -/

/-- The strategy of a check. -/
def strategy : Check → Strategy
  | .outputMarker _ => .outputMarker
  | .exitStatus => .exitStatus
  | .constant .. => .constant
  | .equality .. => .equality
  | .reaches _ => .reaches
  | .ordered .. => .ordered
  | .exclusive .. => .exclusive
  | .probe _ => .probe

/-- The class of invariants that a check belongs to. -/
def kind : Check → String
  | .outputMarker _ | .exitStatus | .probe _ => "safety"
  | .constant .. | .equality .. => "durability"
  | .reaches _ => "liveness"
  | .ordered .. => "ordering"
  | .exclusive .. => "mutual_exclusion"

/-- The time for checks that only look at the observation. -/
def localTimeBound : Duration := .ofSecs 5

/-- The time that a check may take. -/
def timeBound : Check → Duration
  | .probe p => p.timeout
  | _ => localTimeBound

/-- The marker that a check looks for in the output. -/
def watchedMarker? : Check → Option String
  | .outputMarker marker => some marker
  | _ => none

/-! ### From references -/

/-- The error of a reference with the wrong number of arguments. -/
def wrongCount (r : Reference) (usage : String) : CheckError :=
  .invalidArgument r.name (.argumentCount r.strategy.token usage r.args.length)

/-- The variable and the value of a reference; the value may have blanks in it. -/
def variableAndValue (r : Reference) : Except CheckError (String × String) :=
  match cutWhere? isBlank (trim r.argument.toList) with
  | some (var, value) =>
    if trim value = [] then
      .error (.invalidArgument r.name (.variableAndValue r.strategy.token))
    else .ok (String.ofList var, String.ofList (trim value))
  | none => .error (.invalidArgument r.name (.variableAndValue r.strategy.token))

/-- The check of a bare name without a probe. -/
def ofDefault (s : CheckSettings) (r : Reference) : Except CheckError Check :=
  match s.defaultStrategy with
  | .outputMarker => .ok (.outputMarker s.failureMarker)
  | .exitStatus => .ok .exitStatus
  | _ => .error (.unresolved r.name)

/-- The check of a reference. -/
def resolve (s : CheckSettings) (r : Reference) : Except CheckError Check :=
  let argument := String.ofList (trim r.argument.toList)
  let probe := fun command => Check.probe ⟨r.name, command, s.probeTimeout⟩
  match r.strategy with
  | .default =>
    match s.probes.get? r.name with
    | some command => .ok (probe command)
    | none => ofDefault s r
  | .outputMarker => .ok (.outputMarker (if argument = "" then s.failureMarker else argument))
  | .exitStatus =>
    if argument = "" then .ok .exitStatus else .error (.invalidArgument r.name .noArgument)
  | .constant => do
    let (var, expected) ← variableAndValue r
    return .constant var expected
  | .equality =>
    match r.args with
    | [left, right] => .ok (.equality left right)
    | _ => .error (wrongCount r "<var1> <var2>")
  | .reaches =>
    match r.args with
    | [checkpoint] => .ok (.reaches checkpoint)
    | _ => .error (wrongCount r "<checkpoint>")
  | .ordered =>
    match r.args with
    | [first, second] => .ok (.ordered first second)
    | _ => .error (wrongCount r "<cp-a> <cp-b>")
  | .exclusive => do
    let (var, value) ← variableAndValue r
    return .exclusive var value
  | .probe =>
    if argument = "" then
      match s.probes.get? r.name with
      | some command => .ok (probe command)
      | none => .error (.unresolved r.name)
    else .ok (probe argument)

/-- The markers to watch for in the output: the one of the settings, and the one of the
reference. -/
def watchedMarkers (s : CheckSettings) (r : Reference) : List String :=
  match resolve s r with
  | .ok check =>
    match check.watchedMarker? with
    | some marker => if marker = s.failureMarker then [marker] else [s.failureMarker, marker]
    | none => [s.failureMarker]
  | .error _ => [s.failureMarker]

end Check

end FaultDrill
