import FaultDrill.Check.Basic
import FaultDrill.Check.Observation
import FaultDrill.Text.Pieces
import FaultDrill.Text.Utf8

/-!
# FaultDrill.Check.Evaluate

From an observation to a verdict. Evidence that is missing never lets an invariant pass, with one
exception: two variables that are both not reported do not differ. A probe is the only check that
does more than look at the observation; what it answers is a parameter here.
-/

namespace FaultDrill

open FaultDrill.Text

/-- How a probe has ended. -/
inductive ProbeAnswer where
  | unstarted (cause : String)
  | exited (code : Nat) (stdout stderr : Bytes)
  | signaled
  /-- The time for it was over first. -/
  | expired
  deriving DecidableEq, Repr

namespace Check

/-! ### Equality of variables -/

/-- Whether `short` is a path that `long` goes on from. -/
def goesOnFrom (long short : List Char) : Bool :=
  match afterStart? short long with
  | some ('.' :: _) => true
  | _ => false

/-- Whether a reported variable is what a name asks for: one is a path that the other goes on from,
or the name stands for any node and the variable is that of some node. -/
def matchesName (wanted reported : String) : Bool :=
  let w := wanted.toList
  let r := reported.toList
  goesOnFrom w r || goesOnFrom r w ||
    match nodeOfVariable? w, nodeOfVariable? r with
    | some (node, var), some (_, other) => node == ['n', 'd'] && var == other
    | _, _ => false

/-- The reported variable for a name: the one of just that name, or else the first one that is what
the name asks for, other than the one already taken. -/
def lookup? (state : SortedMap String String) (wanted : String) (taken : Option String) :
    Option (String × String) :=
  match state.get? wanted with
  | some value => some (wanted, value)
  | none =>
    state.toList.find? fun (name, _) => some name ≠ taken ∧ matchesName wanted name

/-- The name of a variable without its node. -/
def withoutNode (name : String) : String :=
  match nodeOfVariable? name.toList with
  | some (_, var) => String.ofList var
  | none => name

/-- A reported value in messages. -/
def reportedText (wanted : String) : Option (String × String) → String
  | some (name, value) => s!"{name} = '{value}'"
  | none => s!"{wanted} = <unreported>"

/-- The verdict on the two reported variables. -/
def equalityVerdict (left right : String) (l r : Option (String × String)) : Verdict :=
  let apart := Verdict.violation s!"{reportedText left l}, {reportedText right r}"
  match l, r with
  | none, none => .pass
  | some (ln, lv), some (rn, rv) =>
    -- equal values agree if both variables go by the names asked for, or differ only in their node
    if lv = rv ∧ ((ln = left ∧ rn = right) ∨ withoutNode ln = withoutNode rn) then .pass else apart
  | _, _ => apart

/-! ### Exclusive values -/

/-- The node of a variable, if the name is a node and the variable with a point between them. -/
def nodeOf? (var name : String) : Option String :=
  match beforeEnd? ('.' :: var.toList) name.toList with
  | some (c :: node) => some (String.ofList (c :: node))
  | _ => none

/-- The nodes that report a variable, with the values. -/
def reports (var : String) (state : SortedMap String String) : List (String × String) :=
  state.toList.filterMap fun (name, value) => (nodeOf? var name).map (·, value)

/-! ### Probes -/

/-- The greatest number of lines of a probe that are kept as evidence. -/
def probeLines : Nat := 20

/-- The last lines that a probe has written. -/
def probeTail (stdout stderr : Bytes) : String :=
  let all := lines ((Utf8.lenient stdout).toList ++ (Utf8.lenient stderr).toList)
  joined "\n" ((all.drop (all.length - probeLines)).map String.ofList)

/-- The verdict of a probe. -/
def probeVerdict (p : Probe) : ProbeAnswer → Verdict
  | .exited 0 _ _ => .pass
  | .exited 1 stdout stderr =>
    let tail := probeTail stdout stderr
    .violation (if tail = "" then s!"probe '{p.command}' reported a violation" else tail)
  | .exited code stdout stderr =>
    .inconclusive s!"probe exited with status {code}: {probeTail stdout stderr}"
  | .unstarted cause => .inconclusive s!"failed to spawn probe: {cause}"
  | .signaled => .inconclusive "probe was terminated by a signal"
  | .expired => .inconclusive s!"evidence collection exceeded {p.timeout.millis}ms"

/-! ### Verdicts -/

/-- The verdict on an observation, where `ask` says how a probe ends. -/
def evaluate (ask : Probe → ProbeAnswer) (o : Observation) : Check → Verdict
  | .outputMarker marker =>
    match o.lineWith? marker with
    | some line => .violation s!"driver output contains '{marker}': {line}"
    | none =>
      if o.exitedNormally then .pass
      else .inconclusive "driver did not exit normally and printed no failure marker"
  | .exitStatus =>
    if o.terminatedByEngine then .inconclusive "driver was terminated by the engine"
    else
      match o.exitCode with
      | none => .inconclusive "driver has no exit code (killed by a signal)"
      | some code => if code = 0 then .pass else .violation s!"driver exited with status {code}"
  | .constant var expected =>
    match o.state.get? var with
    | none => .inconclusive s!"'{var}' was never reported"
    | some value =>
      if value = expected then .pass
      else .violation s!"{var} = '{value}', expected '{expected}'"
  | .equality left right =>
    let l := lookup? o.state left none
    equalityVerdict left right l (lookup? o.state right (l.map (·.1)))
  | .reaches checkpoint =>
    if (o.firstPosition? checkpoint).isSome then .pass
    else if o.exitedNormally then
      .violation s!"driver exited without reaching checkpoint {checkpoint}"
    else .inconclusive s!"driver stopped abnormally before checkpoint {checkpoint}"
  | .ordered first second =>
    match o.firstPosition? first, o.firstPosition? second with
    | none, _ => .inconclusive s!"checkpoint {first} was never reported"
    | some _, none => .inconclusive s!"checkpoint {second} was never reported"
    | some i, some j =>
      if i < j then .pass
      else .violation (s!"checkpoint {first} (report #{i + 1}) came after " ++
        s!"{second} (report #{j + 1})")
  | .exclusive var value =>
    let reported := reports var o.state
    let holders := (reported.filter (·.2 = value)).map (·.1)
    if reported.isEmpty then .inconclusive s!"no node reported '<node>.{var}'"
    else if holders.length ≤ 1 then .pass
    else .violation (s!"{holders.length} nodes hold {var} = '{value}': " ++ joined ", " holders)
  | .probe p => probeVerdict p (ask p)

end Check

end FaultDrill
