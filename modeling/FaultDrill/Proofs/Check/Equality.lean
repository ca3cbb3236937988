import FaultDrill.Check.Evaluate
import FaultDrill.Proofs.Collections.SortedMap
import FaultDrill.Proofs.Text.Pieces

/-!
# FaultDrill.Proofs.Check.Equality

**When the order of two variables that are compared matters** (`Check.equality_swap`). A name finds
the variable of just that name, or else the first one that it asks for (`Check.Finds`). What has
been found is compared without regard to order (`equalityVerdict_comm`), so the order can only
matter by what is found; and a name that comes second finds what it would find first, unless that
is taken already (`lookup?_of_ne`). So the one case in which the order matters is that both names
find the same variable. Then the name that comes second has to look for another one, and the two
names need not come to the same.

A name that is reported itself does not look for another one, even if it comes second and is taken.
Then a variable is compared with itself, which is why two nodes that differ may pass
(`equality_order_matters`).
-/

namespace FaultDrill.Check

open FaultDrill.Text

/-! ### What a name finds -/

/-- What a name asks for besides the variable of just that name: a path that goes on from it or that
it goes on from; and if the name stands for any node, the variable of some node. -/
inductive AsksFor (wanted reported : String) : Prop
  | longer (rest : String) (h : reported = wanted ++ "." ++ rest)
  | shorter (rest : String) (h : wanted = reported ++ "." ++ rest)
  | anyNode (node var : List Char)
      (hwanted : nodeOfVariable? wanted.toList = some (['n', 'd'], var))
      (hreported : nodeOfVariable? reported.toList = some (node, var))

/-- What a name finds where one variable is taken: the variable of just that name, and otherwise the
first one that it asks for and that is not taken. -/
inductive Finds (state : SortedMap String String) (wanted : String) (taken : Option String)
    (name value : String) : Prop
  | exact (hname : name = wanted) (hmem : (wanted, value) ∈ state.toList)
  | first (hunreported : ∀ v, (wanted, v) ∉ state.toList) (hasks : AsksFor wanted name)
      (hfree : some name ≠ taken)
      (hfirst : ∃ earlier later, state.toList = earlier ++ (name, value) :: later ∧
        ∀ e ∈ earlier, AsksFor wanted e.1 → some e.1 = taken)

theorem goesOnFrom_iff {long short : String} :
    goesOnFrom long.toList short.toList = true ↔ ∃ rest, long = short ++ "." ++ rest := by
  have hcut : ∀ rest : List Char, afterStart? short.toList long.toList = some ('.' :: rest) ↔
      long = short ++ "." ++ String.ofList rest := by
    intro rest
    rw [afterStart?_eq_some_iff, ← String.toList_inj]
    simp
  unfold goesOnFrom
  constructor
  · intro h
    split at h
    · next rest hrest => exact ⟨String.ofList rest, (hcut rest).mp hrest⟩
    · cases h
  · rintro ⟨rest, rfl⟩
    have hrest := (hcut rest.toList).mpr (by simp)
    rw [hrest]
    rfl

theorem matchesName_iff {wanted reported : String} :
    matchesName wanted reported = true ↔ AsksFor wanted reported := by
  unfold matchesName
  simp only [Bool.or_eq_true, goesOnFrom_iff]
  constructor
  · rintro ((⟨rest, h⟩ | ⟨rest, h⟩) | h)
    · exact .shorter rest h
    · exact .longer rest h
    · split at h
      · next node var _ other hwanted hreported =>
        rw [Bool.and_eq_true, beq_iff_eq, beq_iff_eq] at h
        obtain ⟨rfl, rfl⟩ := h
        exact .anyNode _ _ hwanted hreported
      · cases h
  · intro h
    cases h with
    | longer rest h => exact .inl (.inr ⟨rest, h⟩)
    | shorter rest h => exact .inl (.inl ⟨rest, h⟩)
    | anyNode node var hwanted hreported =>
        refine .inr ?_
        simp [hwanted, hreported]

variable {state : SortedMap String String} {wanted name value other : String}
  {taken : Option String}

theorem Finds.mem (h : Finds state wanted taken name value) : (name, value) ∈ state.toList := by
  cases h with
  | exact hname hmem => rwa [hname]
  | first _ _ _ hfirst =>
      obtain ⟨earlier, later, hstate, -⟩ := hfirst
      simp [hstate]

theorem lookup?_of_mem (h : (wanted, value) ∈ state.toList) :
    lookup? state wanted taken = some (wanted, value) := by
  rw [lookup?, SortedMap.get?_eq_some_iff.mpr h]

theorem lookup?_of_unreported (h : ∀ v, (wanted, v) ∉ state.toList) :
    lookup? state wanted taken = state.toList.find? fun e =>
      some e.1 ≠ taken ∧ matchesName wanted e.1 := by
  have hnone : state.get? wanted = none := by
    rw [Option.eq_none_iff_forall_not_mem]
    intro v hv
    exact h v (SortedMap.get?_eq_some_iff.mp hv)
  rw [lookup?, hnone]

theorem lookup?_eq_some_iff :
    lookup? state wanted taken = some (name, value) ↔ Finds state wanted taken name value := by
  by_cases hreported : ∃ v, (wanted, v) ∈ state.toList
  · obtain ⟨v, hv⟩ := hreported
    rw [lookup?_of_mem hv]
    constructor
    · rintro ⟨⟩
      exact .exact rfl hv
    · intro h
      cases h with
      | exact hname hmem =>
          rw [← SortedMap.get?_eq_some_iff] at hv hmem
          rw [hname, Option.some.inj (hv.symm.trans hmem)]
      | first hunreported _ _ _ => exact absurd hv (hunreported v)
  · rw [not_exists] at hreported
    have hwanted : ∀ k : String, decide (some k ≠ taken ∧ matchesName wanted k = true) = true ↔
        some k ≠ taken ∧ AsksFor wanted k := by
      simp [matchesName_iff]
    rw [lookup?_of_unreported hreported, List.find?_eq_some_iff_append, hwanted]
    constructor
    · rintro ⟨⟨hfree, hasks⟩, earlier, later, hstate, hearlier⟩
      refine .first hreported hasks hfree ⟨earlier, later, hstate, ?_⟩
      intro e he hasked
      by_contra hother
      have hpassed := hearlier e he
      rw [(hwanted e.1).mpr ⟨hother, hasked⟩] at hpassed
      cases hpassed
    · intro h
      cases h with
      | exact hname hmem => exact absurd hmem (hreported value)
      | first _ hasks hfree hfirst =>
          obtain ⟨earlier, later, hstate, hearlier⟩ := hfirst
          refine ⟨⟨hfree, hasks⟩, earlier, later, hstate, ?_⟩
          intro e he
          rw [Bool.not_eq_true', ← Bool.not_eq_true, hwanted]
          rintro ⟨hother, hasked⟩
          exact hother (hearlier e he hasked)

/-! ### The other variable -/

/-- A name that has nothing to find finds nothing. -/
theorem lookup?_eq_none (h : lookup? state wanted none = none) :
    lookup? state wanted taken = none := by
  have hunreported : ∀ v, (wanted, v) ∉ state.toList := by
    intro v hv
    rw [lookup?_of_mem hv] at h
    cases h
  rw [lookup?_of_unreported hunreported, List.find?_eq_none] at h ⊢
  intro e he hfound
  refine h e he ?_
  simpa using (of_decide_eq_true hfound).2

/-- A name finds what it finds first, unless just that is taken. -/
theorem lookup?_of_ne (h : lookup? state wanted none = some (name, value)) (hne : name ≠ other) :
    lookup? state wanted (some other) = some (name, value) := by
  rw [lookup?_eq_some_iff] at h ⊢
  cases h with
  | exact hname hmem => exact .exact hname hmem
  | first hunreported hasks _ hfirst =>
      obtain ⟨earlier, later, hstate, hearlier⟩ := hfirst
      refine .first hunreported hasks (by simpa using hne) ⟨earlier, later, hstate, ?_⟩
      intro e he hasked
      cases hearlier e he hasked

/-! ### The comparison -/

variable {left right : String} {l r : Option (String × String)}

theorem equalityVerdict_cases (left right : String) (l r : Option (String × String)) :
    equalityVerdict left right l r = .pass ∨
      ∃ evidence, equalityVerdict left right l r = .violation evidence := by
  unfold equalityVerdict
  dsimp only
  split
  · exact .inl rfl
  · split
    · exact .inl rfl
    · exact .inr ⟨_, rfl⟩
  · exact .inr ⟨_, rfl⟩

theorem equalityVerdict_eq_pass_iff : equalityVerdict left right l r = .pass ↔
    (l = none ∧ r = none) ∨ ∃ ln rn value, l = some (ln, value) ∧ r = some (rn, value) ∧
      ((ln = left ∧ rn = right) ∨ withoutNode ln = withoutNode rn) := by
  unfold equalityVerdict
  cases l with
  | none =>
      cases r with
      | none => simp
      | some right => simp
  | some found =>
      cases r with
      | none => simp
      | some other =>
          obtain ⟨ln, lv⟩ := found
          obtain ⟨rn, rv⟩ := other
          dsimp only
          split
          · next hagree =>
            obtain ⟨rfl, hnames⟩ := hagree
            exact iff_of_true rfl (.inr ⟨ln, rn, lv, rfl, rfl, hnames⟩)
          · next hapart =>
            refine iff_of_false nofun ?_
            rintro (⟨hnone, -⟩ | ⟨_, _, _, hl, hr, hnames⟩)
            · cases hnone
            · cases hl
              cases hr
              exact hapart ⟨rfl, hnames⟩

/-- Two variables agree in one order if they do in the other. -/
theorem equalityVerdict_comm :
    equalityVerdict left right l r = .pass ↔ equalityVerdict right left r l = .pass := by
  rw [equalityVerdict_eq_pass_iff, equalityVerdict_eq_pass_iff]
  constructor
  · rintro (⟨hl, hr⟩ | ⟨ln, rn, value, hl, hr, hnames⟩)
    · exact .inl ⟨hr, hl⟩
    · exact .inr ⟨rn, ln, value, hr, hl, hnames.imp And.symm Eq.symm⟩
  · rintro (⟨hr, hl⟩ | ⟨rn, ln, value, hr, hl, hnames⟩)
    · exact .inl ⟨hl, hr⟩
    · exact .inr ⟨ln, rn, value, hl, hr, hnames.imp And.symm Eq.symm⟩

/-! ### The order of the names -/

/-- With one variable taken, a name finds one of the same value whose name is the same but for the
node. That may be the one that is taken, if it goes by just this name. -/
def AgreesBeside (state : SortedMap String String) (wanted other value : String) : Prop :=
  ∃ name, Finds state wanted (some other) name value ∧ withoutNode name = withoutNode other

/-- The verdict on the variables that two names find, one after the other. -/
def compared (state : SortedMap String String) (left right : String) : Verdict :=
  equalityVerdict left right (lookup? state left none)
    (lookup? state right ((lookup? state left none).map (·.1)))

theorem compared_cases (state : SortedMap String String) (left right : String) :
    compared state left right = .pass ∨
      ∃ evidence, compared state left right = .violation evidence :=
  equalityVerdict_cases left right _ _

/-- Where both names find the same variable first, the verdict is up to what the second one finds
with that variable taken. -/
theorem compared_of_same (hleft : lookup? state left none = some (name, value))
    (hright : lookup? state right none = some (name, value)) :
    compared state left right = .pass ↔ AgreesBeside state right name value := by
  unfold compared
  rw [hleft, equalityVerdict_eq_pass_iff]
  rw [Option.map_some]
  constructor
  · rintro (⟨hnone, -⟩ | ⟨ln, rn, v, hl, hr, hnames⟩)
    · cases hnone
    · cases hl
      have hfinds := lookup?_eq_some_iff.mp hr
      refine ⟨rn, hfinds, ?_⟩
      rcases hnames with ⟨-, rfl⟩ | hnode
      · -- the second name is reported, so that is also what it finds first
        rw [lookup?_of_mem hfinds.mem] at hright
        cases hright
        rfl
      · exact hnode.symm
  · rintro ⟨rn, hfinds, hnode⟩
    exact .inr ⟨name, rn, value, rfl, lookup?_eq_some_iff.mpr hfinds, .inr hnode.symm⟩

/-- Where they find different ones, or one of them finds none, the order does not matter. -/
theorem compared_comm (h : ∀ k v, lookup? state left none = some (k, v) →
    lookup? state right none ≠ some (k, v)) :
    compared state left right = .pass ↔ compared state right left = .pass := by
  unfold compared
  cases hleft : lookup? state left none with
  | none =>
      rw [Option.map_none, lookup?_eq_none hleft]
      exact equalityVerdict_comm
  | some found =>
      obtain ⟨k, v⟩ := found
      cases hright : lookup? state right none with
      | none =>
          rw [Option.map_none, lookup?_eq_none hright, hleft]
          exact equalityVerdict_comm
      | some other =>
          obtain ⟨k', v'⟩ := other
          have hne : k ≠ k' := by
            rintro rfl
            -- a map has one value for a name
            have hv := SortedMap.get?_eq_some_iff.mpr (lookup?_eq_some_iff.mp hleft).mem
            have hv' := SortedMap.get?_eq_some_iff.mpr (lookup?_eq_some_iff.mp hright).mem
            rw [hv] at hv'
            cases hv'
            exact h k v hleft hright
          rw [Option.map_some, Option.map_some, lookup?_of_ne hleft hne,
            lookup?_of_ne hright hne.symm]
          exact equalityVerdict_comm

/-- Two verdicts of comparisons are of one kind exactly if both are passes or none is. -/
theorem kind_compared_eq_iff {left' right' : String} :
    (compared state left right).kind = (compared state left' right').kind ↔
      (compared state left right = .pass ↔ compared state left' right' = .pass) := by
  rcases compared_cases state left right with h | ⟨_, h⟩
  · rcases compared_cases state left' right' with h' | ⟨_, h'⟩
    · simp [h, h']
    · simp [h, h', Verdict.kind]
  · rcases compared_cases state left' right' with h' | ⟨_, h'⟩
    · simp [h, h', Verdict.kind]
    · simp [h, h', Verdict.kind]

/-- **When the order of two variables that are compared matters.** The verdict is a pass or a
violation, and it is of the same kind in both orders unless the two names find the same variable
first. In that case it is so exactly if each of the names, besides this variable, finds one that
agrees with it, or none of them does. -/
theorem equality_swap (ask : Probe → ProbeAnswer) (o : Observation) (a b : String) :
    (evaluate ask o (.equality a b) = .pass ∨
      ∃ evidence, evaluate ask o (.equality a b) = .violation evidence) ∧
    ((evaluate ask o (.equality a b)).kind = (evaluate ask o (.equality b a)).kind ↔
      ∀ k v, Finds o.state a none k v → Finds o.state b none k v →
        (AgreesBeside o.state a k v ↔ AgreesBeside o.state b k v)) := by
  refine ⟨compared_cases o.state a b, ?_⟩
  show (compared o.state a b).kind = (compared o.state b a).kind ↔ _
  rw [kind_compared_eq_iff]
  simp only [← lookup?_eq_some_iff]
  by_cases hsame : ∃ k v,
      lookup? o.state a none = some (k, v) ∧ lookup? o.state b none = some (k, v)
  · obtain ⟨k, v, ha, hb⟩ := hsame
    rw [compared_of_same ha hb, compared_of_same hb ha]
    constructor
    · intro hiff k' v' ha' _
      cases ha.symm.trans ha'
      exact hiff.symm
    · intro hall
      exact (hall k v ha hb).symm
  · have hapart : ∀ k v, lookup? o.state a none = some (k, v) →
        lookup? o.state b none ≠ some (k, v) := fun k v ha hb => hsame ⟨k, v, ha, hb⟩
    exact iff_of_true (compared_comm hapart) fun k v ha hb => absurd hb (hapart k v ha)

/-- Two nodes that have seen different numbers. -/
def twoNodes : Observation where
  state := .ofList [("nd1-Gossiper.live", "3"), ("nd2-Gossiper.live", "2")]

/-- The numbers differ, which is found out in one order only: in the other one the number of the
first node is compared with itself. -/
theorem equality_order_matters :
    (∃ evidence, evaluate (fun _ => .expired) twoNodes
      (.equality "nd1-Gossiper.live" "nd.Gossiper.live") = .violation evidence) ∧
    evaluate (fun _ => .expired) twoNodes
      (.equality "nd.Gossiper.live" "nd1-Gossiper.live") = .pass := by
  refine ⟨⟨"nd1-Gossiper.live = '3', nd2-Gossiper.live = '2'", ?_⟩, ?_⟩
  · decide +kernel
  · decide +kernel

end FaultDrill.Check
