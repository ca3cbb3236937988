import FaultDrill.Campaign.Report
import FaultDrill.Proofs.Collections.SortedMap
import Mathlib.Data.List.Sort

/-!
# FaultDrill.Proofs.Campaign.Reached

Which checkpoints a campaign is said to have reached. There is an entry for each name of an
invariant that has a result, and it lists what the trials of that name have seen, each checkpoint
where it came first (`CampaignReport.reachable_firsts`). One more result puts its checkpoints behind
those of its name and leaves the other names alone (`CampaignReport.Tracks.reach`); the whole report
follows by going through the results. A list of first occurrences is determined by what it is the
list of (`Firsts.unique`), so the results of other names make no difference.
-/

namespace FaultDrill

/-! ### First occurrences -/

/-- The second list holds what occurs in the first one, in the order in which it first does. -/
structure Firsts {α : Type} [DecidableEq α] (l firsts : List α) : Prop where
  mem_iff : ∀ a, a ∈ firsts ↔ a ∈ l
  inOrder : firsts.Pairwise fun a b => l.idxOf a < l.idxOf b

namespace Firsts

variable {α : Type} [DecidableEq α] {l firsts firsts' : List α}

theorem nil : Firsts ([] : List α) [] where
  mem_iff _ := Iff.rfl
  inOrder := .nil

/-- Nothing is listed twice. -/
theorem nodup (h : Firsts l firsts) : firsts.Nodup := by
  refine h.inOrder.imp fun {a b} hlt heq => ?_
  rw [heq] at hlt
  exact Nat.lt_irrefl _ hlt

/-- The order is that of the first occurrences, so there is only one such list. -/
theorem unique (h : Firsts l firsts) (h' : Firsts l firsts') : firsts = firsts' := by
  have hperm : firsts.Perm firsts' :=
    (List.perm_ext_iff_of_nodup h.nodup h'.nodup).2 fun a => (h.mem_iff a).trans (h'.mem_iff a).symm
  refine hperm.eq_of_pairwise (fun a b _ _ hab hba => ?_) h.inOrder h'.inOrder
  exact absurd hab (Nat.lt_asymm hba)

/-- What occurs in a list first occurs at the same place when the list gets longer. -/
theorem inOrder_append (h : Firsts l firsts) (more : List α) :
    firsts.Pairwise fun a b => (l ++ more).idxOf a < (l ++ more).idxOf b := by
  refine h.inOrder.imp_of_mem fun ha hb hlt => ?_
  rwa [List.idxOf_append_of_mem ((h.mem_iff _).1 ha),
    List.idxOf_append_of_mem ((h.mem_iff _).1 hb)]

/-- One more occurrence is listed if it is the first. -/
theorem concat (h : Firsts l firsts) (a : α) :
    Firsts (l ++ [a]) (if firsts.contains a then firsts else firsts ++ [a]) := by
  by_cases hold : a ∈ firsts
  · rw [if_pos (List.contains_iff_mem.2 hold)]
    refine ⟨fun b => ?_, h.inOrder_append [a]⟩
    rw [List.mem_append, List.mem_singleton, h.mem_iff, iff_self_or]
    rintro rfl
    exact (h.mem_iff b).1 hold
  · rw [if_neg fun hmem => hold (List.contains_iff_mem.1 hmem)]
    have hnew : a ∉ l := fun hmem => hold ((h.mem_iff a).2 hmem)
    refine ⟨fun b => ?_, ?_⟩
    · rw [List.mem_append, List.mem_append, h.mem_iff]
    · rw [List.pairwise_append]
      refine ⟨h.inOrder_append [a], List.pairwise_singleton _ _, fun b hb c hc => ?_⟩
      obtain rfl := List.mem_singleton.1 hc
      -- the new one comes behind the whole list, and the old one stands in it
      rw [List.idxOf_append_of_mem ((h.mem_iff b).1 hb), List.idxOf_append_of_notMem hnew]
      exact Nat.lt_add_right _ (List.idxOf_lt_length_of_mem ((h.mem_iff b).1 hb))

theorem addNew {l seen : List Checkpoint} (h : Firsts l seen) (more : List Checkpoint) :
    Firsts (l ++ more) (CampaignReport.addNew seen more) := by
  induction more generalizing l seen with
  | nil => rwa [List.append_nil]
  | cons c more ih =>
      rw [List.append_cons]
      exact ih (h.concat c)

end Firsts

namespace CampaignReport

/-! ### One result after the other -/

/-- What the trials of an invariant have seen, one after the other. -/
def seenUnder (name : String) (results : List TrialResult) : List Checkpoint :=
  (results.filter (·.invariant = name)).flatMap (·.diagnostics.checkpointsSeen)

variable {results : List TrialResult} {m : SortedMap String (List Checkpoint)} {name : String}

theorem seenUnder_concat_self (results : List TrialResult) (t : TrialResult) :
    seenUnder t.invariant (results ++ [t]) =
      seenUnder t.invariant results ++ t.diagnostics.checkpointsSeen := by
  simp [seenUnder]

theorem seenUnder_concat_of_ne {t : TrialResult} (h : t.invariant ≠ name) :
    seenUnder name (results ++ [t]) = seenUnder name results := by
  simp [seenUnder, h]

/-- The map has the checkpoints of the results so far. -/
structure Tracks (results : List TrialResult) (m : SortedMap String (List Checkpoint)) : Prop where
  contains_iff : ∀ name, m.contains name = true ↔ ∃ t ∈ results, t.invariant = name
  firsts : ∀ name, Firsts (seenUnder name results) ((m.get? name).getD [])

theorem tracks_empty : Tracks [] .empty where
  contains_iff name := by simp [SortedMap.contains]
  firsts name := by simpa [seenUnder] using Firsts.nil

theorem get?_reach_self (m : SortedMap String (List Checkpoint)) (t : TrialResult) :
    (reach m t).get? t.invariant =
      some (addNew ((m.get? t.invariant).getD []) t.diagnostics.checkpointsSeen) :=
  SortedMap.get?_insert_self _ _ _

theorem get?_reach_of_ne {t : TrialResult} (h : t.invariant ≠ name) :
    (reach m t).get? name = m.get? name :=
  SortedMap.get?_insert_of_ne _ _ fun heq => h (Std.LawfulEqOrd.eq_of_compare heq).symm

/-- One more result puts its checkpoints behind those of its name. -/
theorem Tracks.reach (h : Tracks results m) (t : TrialResult) :
    Tracks (results ++ [t]) (reach m t) := by
  refine ⟨fun name => ?_, fun name => ?_⟩ <;> by_cases hname : t.invariant = name
  · subst hname
    simp [SortedMap.contains, get?_reach_self]
  · rw [SortedMap.contains, get?_reach_of_ne hname, ← SortedMap.contains, h.contains_iff]
    simp [hname]
  · subst hname
    rw [get?_reach_self, seenUnder_concat_self]
    exact (h.firsts t.invariant).addNew t.diagnostics.checkpointsSeen
  · rw [get?_reach_of_ne hname, seenUnder_concat_of_ne hname]
    exact h.firsts name

theorem Tracks.foldl_reach (h : Tracks results m) (more : List TrialResult) :
    Tracks (results ++ more) (more.foldl CampaignReport.reach m) := by
  induction more generalizing results m with
  | nil => rwa [List.append_nil]
  | cons t more ih =>
      rw [List.append_cons]
      exact ih (h.reach t)

/-! ### The whole report -/

variable {r r' : CampaignReport} {seen : List Checkpoint}

theorem tracks_reachable (r : CampaignReport) : Tracks r.results r.reachable :=
  tracks_empty.foldl_reach r.results

/-- What is listed under a name, and when something is. -/
theorem get?_reachable_eq_some_iff : r.reachable.get? name = some seen ↔
    (∃ t ∈ r.results, t.invariant = name) ∧ Firsts (seenUnder name r.results) seen := by
  have hfirsts := r.tracks_reachable.firsts name
  rw [← r.tracks_reachable.contains_iff, SortedMap.contains, Option.isSome_iff_exists]
  constructor
  · intro hget
    rw [hget] at hfirsts
    exact ⟨⟨seen, hget⟩, hfirsts⟩
  · rintro ⟨⟨listed, hget⟩, hseen⟩
    rw [hget] at hfirsts ⊢
    exact congrArg some (hfirsts.unique hseen)

theorem exists_iff_filter_ne_nil {results : List TrialResult} :
    (∃ t ∈ results, t.invariant = name) ↔ results.filter (·.invariant = name) ≠ [] := by
  simp

/-- The results of a name decide what is listed under it. -/
theorem get?_reachable_congr
    (h : r'.results.filter (·.invariant = name) = r.results.filter (·.invariant = name)) :
    r'.reachable.get? name = r.reachable.get? name := by
  have hseen : seenUnder name r'.results = seenUnder name r.results := by
    unfold seenUnder
    rw [h]
  refine Option.ext fun seen => ?_
  rw [get?_reachable_eq_some_iff, get?_reachable_eq_some_iff, exists_iff_filter_ne_nil,
    exists_iff_filter_ne_nil, h, hseen]

/-- **The reached checkpoints are complete, and each is there once.** A report has one key for each
name of an invariant among its results. What is listed under it is what the results of that name
have seen, in the order in which it was first seen when they are gone through one after the other.
The results of other names make no difference to it. -/
theorem reachable_firsts (r : CampaignReport) :
    r.reachable.keys.Nodup ∧
    (∀ name, name ∈ r.reachable.keys ↔ ∃ t ∈ r.results, t.invariant = name) ∧
    (∀ name seen, r.reachable.get? name = some seen →
      seen.Nodup ∧ Firsts (seenUnder name r.results) seen) ∧
    ∀ (r' : CampaignReport) name,
      r'.results.filter (·.invariant = name) = r.results.filter (·.invariant = name) →
      r'.reachable.get? name = r.reachable.get? name := by
  refine ⟨r.reachable.nodup_keys, fun name => ?_, fun name seen hget => ?_,
    fun r' name => get?_reachable_congr⟩
  · exact SortedMap.mem_keys_iff.trans (r.tracks_reachable.contains_iff name)
  · have hfirsts := (get?_reachable_eq_some_iff.1 hget).2
    exact ⟨hfirsts.nodup, hfirsts⟩

/-- The result of a passed trial that has seen some checkpoints. -/
def visit (name : String) (checkpointsSeen : List Checkpoint) : TrialResult where
  id := ⟨List.replicate 32 'a', by decide, by decide⟩
  invariant := name
  planId := "selection"
  outcome := .pass
  diagnostics := { checkpointsSeen }
  cleanupWarning := none
  startedAtMs := 0
  durationMs := 0

/-- Two trials of one invariant with two others between them, one of which has seen nothing. -/
def interleaved : CampaignReport where
  stage := .selection
  results := [visit "rows" ["3", "1", "3"], visit "votes" ["9", "1"], visit "idle" [],
    visit "rows" ["2", "1"]]
  startedAtMs := 0

/-- The trials of the one invariant alone. -/
def onlyRows : CampaignReport :=
  { interleaved with results := [visit "rows" ["3", "1", "3"], visit "rows" ["2", "1"]] }

theorem reachable_firsts_interleaved :
    interleaved.reachable.get? "rows" = some ["3", "1", "2"] ∧
    Firsts ["3", "1", "3", "2", "1"] ["3", "1", "2"] ∧
    "idle" ∈ interleaved.reachable.keys ∧
    onlyRows.reachable.get? "rows" = interleaved.reachable.get? "rows" := by
  obtain ⟨-, hkeys, hseen, hothers⟩ := reachable_firsts interleaved
  have hget : interleaved.reachable.get? "rows" = some ["3", "1", "2"] := by decide +kernel
  refine ⟨hget, (hseen "rows" _ hget).2, (hkeys "idle").2 ⟨visit "idle" [], ?_, rfl⟩,
    hothers onlyRows "rows" (by decide +kernel)⟩
  simp [interleaved]

end CampaignReport

end FaultDrill
