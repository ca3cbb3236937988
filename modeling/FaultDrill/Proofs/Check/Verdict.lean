import FaultDrill.Check.Evaluate
import FaultDrill.Proofs.Collections.SortedMap
import FaultDrill.Proofs.Text.Pieces

/-!
# FaultDrill.Proofs.Check.Verdict

**A verdict says what has been observed, and says so only when that has been observed**
(`Check.verdict_follows`). For each check that only looks at the observation there is one row of what
it takes to pass (`Check.Kept`) and one of what breaks the invariant (`Check.Broken`), in terms of
what the observation holds and not of how it is searched. The verdict is a pass or a violation just
if the row says so, and is inconclusive in all other cases. Every row of `Check.Kept` names something
that has been observed, so nothing passes for want of evidence.

The rows are proved one check at a time, and each proof goes through the cases of the check: what has
been found, and what it means for the observation that it was found or not.
-/

namespace FaultDrill

open FaultDrill.Text

/-! ### What an observation holds -/

namespace Observation

/-- A line with the marker is on record: as the one kept for it, or among the last lines. -/
def Records (o : Observation) (marker : String) : Prop :=
  (∃ line, (marker, line) ∈ o.markerHits.toList) ∨
    ∃ line ∈ o.outputTail, marker.toList <:+: line.toList

/-- The driver has come to its own end, with an exit code. -/
structure EndedByItself (o : Observation) : Prop where
  code : ∃ code, o.exitCode = some code
  unsignaled : o.signaled = false
  unstopped : o.terminatedByEngine = false

/-- The first report of the checkpoint has this number, counted from zero. -/
structure FirstReport (o : Observation) (checkpoint : Checkpoint) (i : Nat) : Prop where
  here : o.checkpointsSeen[i]? = some checkpoint
  first : ∀ j < i, o.checkpointsSeen[j]? ≠ some checkpoint

/-- The node reports the value for the variable. -/
structure ReportedBy (o : Observation) (var node value : String) : Prop where
  node_ne : node ≠ ""
  mem : (node ++ "." ++ var, value) ∈ o.state.toList

theorem lineWith?_isSome_iff {o : Observation} {marker : String} :
    (o.lineWith? marker).isSome = true ↔ o.Records marker := by
  unfold lineWith? Records
  split
  · next line hline =>
    exact iff_of_true rfl (.inl ⟨line, SortedMap.get?_eq_some_iff.1 hline⟩)
  · next hnone =>
    have hhits : ¬ ∃ line, (marker, line) ∈ o.markerHits.toList := by
      rintro ⟨line, hline⟩
      rw [SortedMap.get?_eq_some_iff.2 hline] at hnone
      cases hnone
    rw [List.find?_isSome, or_iff_right hhits]
    exact exists_congr fun line => and_congr_right fun _ => contains_iff

theorem exitedNormally_iff {o : Observation} :
    o.exitedNormally = true ↔ o.EndedByItself := by
  unfold exitedNormally
  rw [Bool.and_eq_true, Bool.and_eq_true, Option.isSome_iff_exists, Bool.not_eq_true',
    Bool.not_eq_true']
  exact ⟨fun ⟨⟨hcode, hsignaled⟩, hstopped⟩ => ⟨hcode, hsignaled, hstopped⟩,
    fun ⟨hcode, hsignaled, hstopped⟩ => ⟨⟨hcode, hsignaled⟩, hstopped⟩⟩

theorem firstPosition?_eq_some_iff {o : Observation} {checkpoint : Checkpoint} {i : Nat} :
    o.firstPosition? checkpoint = some i ↔ o.FirstReport checkpoint i := by
  unfold firstPosition?
  rw [List.findIdx?_eq_some_iff_getElem]
  constructor
  · rintro ⟨hi, hhere, hfirst⟩
    refine ⟨by simpa [hi] using hhere, fun j hj => ?_⟩
    have hj' : j < o.checkpointsSeen.length := hj.trans hi
    simpa [hj'] using hfirst j hj
  · rintro ⟨hhere, hfirst⟩
    obtain ⟨hi, hget⟩ := List.getElem?_eq_some_iff.1 hhere
    refine ⟨hi, by simpa using hget, fun j hj => ?_⟩
    have hj' : j < o.checkpointsSeen.length := hj.trans hi
    simpa [hj'] using hfirst j hj

theorem firstPosition?_eq_none_iff {o : Observation} {checkpoint : Checkpoint} :
    o.firstPosition? checkpoint = none ↔ checkpoint ∉ o.checkpointsSeen := by
  unfold firstPosition?
  rw [List.findIdx?_eq_none_iff]
  simp only [decide_eq_false_iff_not]
  exact ⟨fun h hmem => h checkpoint hmem rfl, fun h x hx heq => h (heq ▸ hx)⟩

end Observation

/-- A verdict that is a pass just if the one holds, a violation just if the other does, and
inconclusive in all other cases. -/
structure Verdict.Follows (v : Verdict) (kept broken : Prop) : Prop where
  pass_iff : v = .pass ↔ kept
  violation_iff : (∃ evidence, v = .violation evidence) ↔ broken
  inconclusive_iff : (∃ reason, v = .inconclusive reason) ↔ ¬ kept ∧ ¬ broken

namespace Verdict.Follows

variable {kept broken : Prop}

theorem pass (hkept : kept) (hbroken : ¬ broken) : Verdict.pass.Follows kept broken where
  pass_iff := iff_of_true rfl hkept
  violation_iff := iff_of_false nofun hbroken
  inconclusive_iff := iff_of_false nofun fun h => h.1 hkept

theorem violation {evidence : String} (hkept : ¬ kept) (hbroken : broken) :
    (Verdict.violation evidence).Follows kept broken where
  pass_iff := iff_of_false nofun hkept
  violation_iff := iff_of_true ⟨evidence, rfl⟩ hbroken
  inconclusive_iff := iff_of_false nofun fun h => h.2 hbroken

theorem inconclusive {reason : String} (hkept : ¬ kept) (hbroken : ¬ broken) :
    (Verdict.inconclusive reason).Follows kept broken where
  pass_iff := iff_of_false nofun hkept
  violation_iff := iff_of_false nofun hbroken
  inconclusive_iff := iff_of_true ⟨reason, rfl⟩ ⟨hkept, hbroken⟩

end Verdict.Follows

namespace Check

/-! ### Exclusive values -/

theorem nodeOf?_eq_some_iff {var name node : String} :
    nodeOf? var name = some node ↔ node ≠ "" ∧ name = node ++ "." ++ var := by
  have hcut : beforeEnd? ('.' :: var.toList) name.toList = some node.toList ↔
      name = node ++ "." ++ var := by
    rw [beforeEnd?_eq_some_iff, ← String.toList_inj]
    simp
  rw [← hcut]
  unfold nodeOf?
  constructor
  · intro h
    split at h
    · next c rest hfront =>
      obtain rfl := Option.some.inj h
      exact ⟨by simp [← String.toList_inj], by rw [hfront, String.toList_ofList]⟩
    · cases h
  · rintro ⟨hne, hfront⟩
    rw [hfront]
    cases hnode : node.toList with
    | nil => exact absurd (String.toList_eq_nil_iff.1 hnode) hne
    | cons c rest => simp [← hnode]

/-- What a binding tells about a variable. -/
theorem map_nodeOf?_eq_some_iff {var name held node value : String} :
    (nodeOf? var name).map (·, held) = some (node, value) ↔
      (node ≠ "" ∧ name = node ++ "." ++ var) ∧ held = value := by
  rw [Option.map_eq_some_iff]
  constructor
  · rintro ⟨node', hnode, hpair⟩
    obtain ⟨rfl, rfl⟩ := Prod.mk.inj hpair
    exact ⟨nodeOf?_eq_some_iff.1 hnode, rfl⟩
  · rintro ⟨hnode, rfl⟩
    exact ⟨node, nodeOf?_eq_some_iff.2 hnode, rfl⟩

theorem mem_reports_iff {var node value : String} {o : Observation} :
    (node, value) ∈ reports var o.state ↔ o.ReportedBy var node value := by
  unfold reports
  rw [List.mem_filterMap]
  constructor
  · rintro ⟨⟨name, held⟩, hmem, hreport⟩
    obtain ⟨⟨hne, rfl⟩, rfl⟩ := map_nodeOf?_eq_some_iff.1 hreport
    exact ⟨hne, hmem⟩
  · rintro ⟨hne, hmem⟩
    exact ⟨_, hmem, map_nodeOf?_eq_some_iff.2 ⟨⟨hne, rfl⟩, rfl⟩⟩

/-- No node reports a variable twice. -/
theorem nodup_reports (var : String) (state : SortedMap String String) :
    ((reports var state).map (·.1)).Nodup := by
  unfold reports
  rw [List.Nodup, List.pairwise_map, List.pairwise_filterMap]
  refine (List.pairwise_map.1 state.nodup_keys).imp ?_
  rintro ⟨name, held⟩ ⟨name', held'⟩ hne ⟨node, value⟩ hreport ⟨node', value'⟩ hreport' heq
  -- the name of a variable is made up of the node and what is asked for
  obtain ⟨⟨-, rfl⟩, -⟩ := map_nodeOf?_eq_some_iff.1 hreport
  obtain ⟨⟨-, rfl⟩, -⟩ := map_nodeOf?_eq_some_iff.1 hreport'
  exact hne (congrArg (· ++ "." ++ var) heq)

/-- The nodes that report the value. -/
def holders (var value : String) (o : Observation) : List String :=
  ((reports var o.state).filter (·.2 = value)).map (·.1)

theorem mem_holders_iff {var value node : String} {o : Observation} :
    node ∈ holders var value o ↔ o.ReportedBy var node value := by
  unfold holders
  rw [← mem_reports_iff]
  simp

/-- Two nodes are more than one. -/
theorem length_holders_le_one_iff {var value : String} {o : Observation} :
    (holders var value o).length ≤ 1 ↔
      ∀ n n', o.ReportedBy var n value → o.ReportedBy var n' value → n = n' := by
  simp only [← mem_holders_iff]
  have hnodup : (holders var value o).Nodup := by
    unfold holders
    exact List.Nodup.sublist (List.filter_sublist.map _) (nodup_reports var o.state)
  rcases hholders : holders var value o with - | ⟨first, - | ⟨second, more⟩⟩
  · simp
  · simp
  · rw [hholders] at hnodup
    have hne : first ≠ second := fun heq => by simp [heq] at hnodup
    refine iff_of_false (by simp) fun hone => hne ?_
    exact hone first second List.mem_cons_self (List.mem_cons_of_mem _ List.mem_cons_self)

/-! ### The table -/

/-- When an invariant is kept, for each check that only looks at the observation, except for that of
two variables. -/
inductive Kept (o : Observation) : Check → Prop
  | outputMarker {marker : String} (hnone : ¬ o.Records marker) (hended : o.EndedByItself) :
      Kept o (.outputMarker marker)
  | exitStatus (hown : o.terminatedByEngine = false) (hcode : o.exitCode = some 0) :
      Kept o .exitStatus
  | constant {var expected : String} (hreported : (var, expected) ∈ o.state.toList) :
      Kept o (.constant var expected)
  | reaches {checkpoint : Checkpoint} (hseen : checkpoint ∈ o.checkpointsSeen) :
      Kept o (.reaches checkpoint)
  | ordered {a b : Checkpoint} {i j : Nat} (ha : o.FirstReport a i) (hb : o.FirstReport b j)
      (hlt : i < j) : Kept o (.ordered a b)
  | exclusive {var value : String} (hreported : ∃ node held, o.ReportedBy var node held)
      (hone : ∀ n n', o.ReportedBy var n value → o.ReportedBy var n' value → n = n') :
      Kept o (.exclusive var value)

/-- When an invariant is broken, for each of these checks. -/
inductive Broken (o : Observation) : Check → Prop
  | outputMarker {marker : String} (hsome : o.Records marker) : Broken o (.outputMarker marker)
  | exitStatus {code : Int} (hown : o.terminatedByEngine = false) (hcode : o.exitCode = some code)
      (hne : code ≠ 0) : Broken o .exitStatus
  | constant {var expected value : String} (hreported : (var, value) ∈ o.state.toList)
      (hne : value ≠ expected) : Broken o (.constant var expected)
  | reaches {checkpoint : Checkpoint} (hunseen : checkpoint ∉ o.checkpointsSeen)
      (hended : o.EndedByItself) : Broken o (.reaches checkpoint)
  | ordered {a b : Checkpoint} {i j : Nat} (ha : o.FirstReport a i) (hb : o.FirstReport b j)
      (hle : ¬ i < j) : Broken o (.ordered a b)
  | exclusive {var value n n' : String} (hne : n ≠ n') (hn : o.ReportedBy var n value)
      (hn' : o.ReportedBy var n' value) : Broken o (.exclusive var value)

variable {ask : Probe → ProbeAnswer} {o : Observation}

theorem outputMarker_follows (marker : String) :
    (evaluate ask o (.outputMarker marker)).Follows (Kept o (.outputMarker marker))
      (Broken o (.outputMarker marker)) := by
  simp only [evaluate]
  cases hline : o.lineWith? marker with
  | some line =>
      have hsome : o.Records marker := Observation.lineWith?_isSome_iff.1 (by rw [hline]; rfl)
      refine .violation (fun hkept => ?_) (.outputMarker hsome)
      cases hkept with
      | outputMarker hnone => exact hnone hsome
  | none =>
      have hnone : ¬ o.Records marker := fun h => by
        rw [← Observation.lineWith?_isSome_iff, hline] at h
        cases h
      have hbroken : ¬ Broken o (.outputMarker marker) := fun hbroken => by
        cases hbroken with
        | outputMarker hsome => exact hnone hsome
      by_cases hended : o.exitedNormally = true
      · simp only [if_pos hended]
        exact .pass (.outputMarker hnone (Observation.exitedNormally_iff.1 hended)) hbroken
      · simp only [if_neg hended]
        refine .inconclusive (fun hkept => ?_) hbroken
        cases hkept with
        | outputMarker _ hown => exact hended (Observation.exitedNormally_iff.2 hown)

theorem exitStatus_follows :
    (evaluate ask o .exitStatus).Follows (Kept o .exitStatus) (Broken o .exitStatus) := by
  simp only [evaluate]
  by_cases hstopped : o.terminatedByEngine = true
  · rw [if_pos hstopped]
    exact .inconclusive (fun | .exitStatus hown _ => by simp [hown] at hstopped)
      (fun | .exitStatus hown _ _ => by simp [hown] at hstopped)
  · rw [if_neg hstopped]
    have hown : o.terminatedByEngine = false := by simpa using hstopped
    cases hcode : o.exitCode with
    | none =>
        exact .inconclusive (fun | .exitStatus _ hzero => by simp [hcode] at hzero)
          (fun | .exitStatus _ hsome _ => by simp [hcode] at hsome)
    | some code =>
        by_cases hzero : code = 0
        · simp only [if_pos hzero]
          refine .pass (.exitStatus hown (hzero ▸ hcode)) fun | .exitStatus _ hsome hne => hne ?_
          exact (Option.some.inj (hcode.symm.trans hsome)).symm.trans hzero
        · simp only [if_neg hzero]
          exact .violation (fun | .exitStatus _ hsome => hzero (by simpa [hcode] using hsome))
            (.exitStatus hown hcode hzero)

theorem constant_follows (var expected : String) :
    (evaluate ask o (.constant var expected)).Follows (Kept o (.constant var expected))
      (Broken o (.constant var expected)) := by
  simp only [evaluate]
  cases hvalue : o.state.get? var with
  | none =>
      have hunreported : ∀ value, (var, value) ∉ o.state.toList := fun value hmem => by
        rw [← SortedMap.get?_eq_some_iff, hvalue] at hmem
        cases hmem
      refine .inconclusive (fun hkept => ?_) (fun hbroken => ?_)
      · cases hkept with
        | constant hreported => exact hunreported _ hreported
      · cases hbroken with
        | constant hreported _ => exact hunreported _ hreported
  | some value =>
      -- a variable has one value
      have hreported : (var, value) ∈ o.state.toList := SortedMap.get?_eq_some_iff.1 hvalue
      have honly : ∀ {other}, (var, other) ∈ o.state.toList → value = other := fun hmem => by
        rw [← SortedMap.get?_eq_some_iff, hvalue] at hmem
        exact Option.some.inj hmem
      by_cases heq : value = expected
      · simp only [if_pos heq]
        refine .pass (.constant (heq ▸ hreported)) (fun hbroken => ?_)
        cases hbroken with
        | constant hmem hne => exact hne ((honly hmem).symm.trans heq)
      · simp only [if_neg heq]
        refine .violation (fun hkept => ?_) (.constant hreported heq)
        cases hkept with
        | constant hmem => exact heq (honly hmem)

theorem reaches_follows (checkpoint : Checkpoint) :
    (evaluate ask o (.reaches checkpoint)).Follows (Kept o (.reaches checkpoint))
      (Broken o (.reaches checkpoint)) := by
  simp only [evaluate]
  by_cases hseen : checkpoint ∈ o.checkpointsSeen
  · have hsome : (o.firstPosition? checkpoint).isSome = true := by
      rw [Option.isSome_iff_ne_none, ne_eq, Observation.firstPosition?_eq_none_iff]
      exact not_not_intro hseen
    rw [if_pos hsome]
    exact .pass (.reaches hseen) (fun | .reaches hunseen _ => hunseen hseen)
  · have hnone : o.firstPosition? checkpoint = none :=
      Observation.firstPosition?_eq_none_iff.2 hseen
    have hkept : ¬ Kept o (.reaches checkpoint) := fun | .reaches h => hseen h
    rw [hnone]
    by_cases hended : o.exitedNormally = true
    · simp only [Option.isSome_none, Bool.false_eq_true, if_false, if_pos hended]
      exact .violation hkept (.reaches hseen (Observation.exitedNormally_iff.1 hended))
    · simp only [Option.isSome_none, Bool.false_eq_true, if_false, if_neg hended]
      exact .inconclusive hkept
        (fun | .reaches _ hown => hended (Observation.exitedNormally_iff.2 hown))

theorem ordered_follows (a b : Checkpoint) :
    (evaluate ask o (.ordered a b)).Follows (Kept o (.ordered a b)) (Broken o (.ordered a b)) := by
  have hat : ∀ {checkpoint i}, o.FirstReport checkpoint i ↔ o.firstPosition? checkpoint = some i :=
    Observation.firstPosition?_eq_some_iff.symm
  simp only [evaluate]
  cases ha : o.firstPosition? a with
  | none =>
      exact .inconclusive (fun | .ordered hi _ _ => by simp [hat, ha] at hi)
        (fun | .ordered hi _ _ => by simp [hat, ha] at hi)
  | some i =>
      cases hb : o.firstPosition? b with
      | none =>
          exact .inconclusive (fun | .ordered _ hj _ => by simp [hat, hb] at hj)
            (fun | .ordered _ hj _ => by simp [hat, hb] at hj)
      | some j =>
          -- there is only one first report of each
          have hfirst : ∀ {i' j'}, o.FirstReport a i' → o.FirstReport b j' → i = i' ∧ j = j' :=
            fun hi hj => ⟨by simpa [hat, ha] using hi, by simpa [hat, hb] using hj⟩
          by_cases hlt : i < j
          · simp only [if_pos hlt]
            refine .pass (.ordered (hat.2 ha) (hat.2 hb) hlt) fun | .ordered hi hj hle => ?_
            obtain ⟨rfl, rfl⟩ := hfirst hi hj
            exact hle hlt
          · simp only [if_neg hlt]
            refine .violation (fun | .ordered hi hj hlt' => ?_)
              (.ordered (hat.2 ha) (hat.2 hb) hlt)
            obtain ⟨rfl, rfl⟩ := hfirst hi hj
            exact hlt hlt'

theorem exclusive_follows (var value : String) :
    (evaluate ask o (.exclusive var value)).Follows (Kept o (.exclusive var value))
      (Broken o (.exclusive var value)) := by
  show (if (reports var o.state).isEmpty then _
    else if (holders var value o).length ≤ 1 then _ else _ : Verdict).Follows _ _
  by_cases hempty : (reports var o.state).isEmpty = true
  · rw [if_pos hempty]
    have hnone : ∀ node held, ¬ o.ReportedBy var node held := fun node held h => by
      rw [← mem_reports_iff, List.isEmpty_iff.1 hempty] at h
      cases h
    exact .inconclusive (fun | .exclusive ⟨node, held, h⟩ _ => hnone node held h)
      (fun | .exclusive _ hn _ => hnone _ _ hn)
  · rw [if_neg hempty]
    by_cases hone : (holders var value o).length ≤ 1
    · rw [if_pos hone]
      rw [length_holders_le_one_iff] at hone
      obtain ⟨⟨node, held⟩, hmem⟩ := List.isEmpty_eq_false_iff_exists_mem.1 (by simpa using hempty)
      exact .pass (.exclusive ⟨node, held, mem_reports_iff.1 hmem⟩ hone)
        (fun | .exclusive hne hn hn' => hne (hone _ _ hn hn'))
    · rw [if_neg hone]
      rw [length_holders_le_one_iff] at hone
      push Not at hone
      obtain ⟨n, n', hn, hn', hne⟩ := hone
      exact .violation (fun | .exclusive _ hone => hne (hone n n' hn hn')) (.exclusive hne hn hn')

/-! ### Verdicts on references -/

/-- The checks that only look at the observation, except for that of two variables. -/
def tabled : List Strategy :=
  [.outputMarker, .exitStatus, .constant, .reaches, .ordered, .exclusive]

/-- Of each of these checks the verdict follows the table. -/
theorem evaluate_follows {check : Check} (h : check.strategy ∈ tabled) :
    (check.evaluate ask o).Follows (Kept o check) (Broken o check) := by
  cases check with
  | outputMarker marker => exact outputMarker_follows marker
  | exitStatus => exact exitStatus_follows
  | constant var expected => exact constant_follows var expected
  | reaches checkpoint => exact reaches_follows checkpoint
  | ordered a b => exact ordered_follows a b
  | exclusive var value => exact exclusive_follows var value
  | equality left right => simp [strategy, tabled] at h
  | probe p => simp [strategy, tabled] at h

/-- What an observation must hold for any of these checks to pass. -/
theorem Kept.evidence {check : Check} (h : Kept o check) :
    (∃ code, o.exitCode = some code) ∨ o.checkpointsSeen ≠ [] ∨ o.state.toList ≠ [] := by
  cases h with
  | outputMarker _ hended => exact .inl hended.code
  | exitStatus _ hcode => exact .inl ⟨0, hcode⟩
  | constant hreported => exact .inr (.inr (List.ne_nil_of_mem hreported))
  | reaches hseen => exact .inr (.inl (List.ne_nil_of_mem hseen))
  | ordered ha _ _ => exact .inr (.inl (List.ne_nil_of_mem (List.mem_of_getElem? ha.here)))
  | exclusive hreported _ =>
      obtain ⟨node, held, h⟩ := hreported
      exact .inr (.inr (List.ne_nil_of_mem h.mem))

/-- The verdict on a reference. -/
def verdict (s : CheckSettings) (ask : Probe → ProbeAnswer) (r : Reference) (o : Observation) :
    Except CheckError Verdict := do
  return (← resolve s r).evaluate ask o

/-- **A reference to one of these checks has a verdict, and it follows the table**: a pass and a
violation say what has been observed, and all other verdicts are inconclusive. Without an exit code,
checkpoints and variables nothing passes. -/
theorem verdict_follows {s : CheckSettings} {r : Reference} {check : Check}
    (hresolve : resolve s r = .ok check) (htabled : check.strategy ∈ tabled)
    (ask : Probe → ProbeAnswer) (o : Observation) : ∃ v, verdict s ask r o = .ok v ∧
      v.Follows (Kept o check) (Broken o check) ∧
      (o.exitCode = none → o.checkpointsSeen = [] → o.state.toList = [] → v ≠ .pass) := by
  have hfollows : (check.evaluate ask o).Follows (Kept o check) (Broken o check) :=
    evaluate_follows htabled
  refine ⟨check.evaluate ask o, ?_, hfollows, fun hcode hseen hstate hpass => ?_⟩
  · unfold verdict
    rw [hresolve]
    rfl
  · rcases (hfollows.pass_iff.1 hpass).evidence with ⟨code, h⟩ | h | h
    · simp [hcode] at h
    · exact h hseen
    · exact h hstate

/-- Two nodes that both report to be the leader, and a variable that belongs to no node. -/
def twoLeaders : Observation where
  state := .ofList [(".role", "leader"), ("a.b.role", "leader"), ("c.role", "leader")]

/-- An exclusive value that two nodes hold. -/
theorem verdict_follows_exclusive : ∃ v,
    verdict {} (fun _ => .expired) ⟨"one", .exclusive, "role  leader"⟩ twoLeaders = .ok v ∧
      ∃ evidence, v = .violation evidence := by
  have hresolve : resolve {} ⟨"one", .exclusive, "role  leader"⟩ =
      .ok (.exclusive "role" "leader") := by decide +kernel
  obtain ⟨v, hv, hfollows, -⟩ :=
    verdict_follows hresolve (by decide) (fun _ => .expired) twoLeaders
  have ha : twoLeaders.ReportedBy "role" "a.b" "leader" := ⟨by decide, by decide +kernel⟩
  have hc : twoLeaders.ReportedBy "role" "c" "leader" := ⟨by decide, by decide +kernel⟩
  exact ⟨v, hv, hfollows.violation_iff.2 (.exclusive (by decide) ha hc)⟩

end Check

end FaultDrill
