import FaultDrill.Proofs.Collections.SortedMap
import FaultDrill.Trial.Capture
import Mathlib.Data.List.Induction

/-!
# FaultDrill.Proofs.Trial.Capture

What is kept of the output of a driver, for any number of lines: the last ones of them
(`Capture.tail_pushAll`), how many there have been (`Capture.total_pushAll`), and for each watched
marker the first line with it (`Capture.get?_hits_pushAll`). Each of these is proved with one more
line at the end, since lines are only ever added there.
-/

namespace FaultDrill.Capture

open FaultDrill.Text

theorem pushAll_concat (c : Capture) (lines : List String) (line : String) :
    c.pushAll (lines ++ [line]) = (c.pushAll lines).push line :=
  List.foldl_append

theorem limit_pushAll (c : Capture) (lines : List String) : (c.pushAll lines).limit = c.limit := by
  induction lines using List.reverseRecOn with
  | nil => rfl
  | append_singleton lines line ih => rw [pushAll_concat]; exact ih

theorem watched_pushAll (c : Capture) (lines : List String) :
    (c.pushAll lines).watched = c.watched := by
  induction lines using List.reverseRecOn with
  | nil => rfl
  | append_singleton lines line ih => rw [pushAll_concat]; exact ih

/-- Every line counts. -/
theorem total_pushAll (c : Capture) (lines : List String) :
    (c.pushAll lines).total = c.total + lines.length := by
  induction lines using List.reverseRecOn with
  | nil => rfl
  | append_singleton lines line ih =>
      rw [pushAll_concat, List.length_append, List.length_singleton]
      simp only [push, ih]
      omega

/-! ### The last lines -/

/-- If the last lines have been kept, they are after one more line, which pushes the first of them
out when there is no more room. -/
theorem tail_push {c : Capture} {lines : List String} (hlimit : 1 ≤ c.limit)
    (htail : c.tail = lines.drop (lines.length - c.limit)) (line : String) :
    (c.push line).tail = (lines ++ [line]).drop ((lines ++ [line]).length - c.limit) := by
  have hlength : (lines ++ [line]).length = lines.length + 1 := by simp
  simp only [push]
  rw [htail, List.length_drop, hlength]
  by_cases hfull : c.limit ≤ lines.length
  -- with as many lines as are kept, one is dropped in front for the one that comes
  · have hone : lines.length - c.limit + 1 = lines.length + 1 - c.limit := by omega
    rw [if_pos (by omega), List.drop_drop, hone, List.drop_append_of_le_length (by omega)]
  · have hnone : lines.length - c.limit = 0 := by omega
    have hnone' : lines.length + 1 - c.limit = 0 := by omega
    rw [if_neg (by omega), hnone, hnone', List.drop_zero, List.drop_zero]

/-- **The last lines are kept**, at least one of them. -/
theorem tail_pushAll (limit : Nat) (watched lines : List String) :
    ((new limit watched).pushAll lines).tail = lines.drop (lines.length - max 1 limit) := by
  induction lines using List.reverseRecOn with
  | nil => exact List.drop_nil.symm
  | append_singleton lines line ih =>
      have hlimit : ((new limit watched).pushAll lines).limit = max 1 limit :=
        limit_pushAll (new limit watched) lines
      rw [← hlimit] at ih
      rw [pushAll_concat, tail_push (hlimit ▸ Nat.le_max_left 1 limit) ih, hlimit]

/-! ### The first line with a marker -/

theorem get?_hitsAfter (c : Capture) (line marker : String) :
    (c.hitsAfter line).get? marker = (c.hits.get? marker).or
      (if marker ∈ c.watched ∧ contains line marker = true then some line else none) := by
  unfold hitsAfter
  generalize c.hits = hits
  induction c.watched generalizing hits with
  | nil => simp
  | cons first rest ih =>
      rw [List.foldl_cons, ih]
      by_cases hfirst : contains line first = true
      · rw [if_pos hfirst, SortedMap.get?_insertIfNew_or, Option.or_assoc]
        by_cases heq : marker = first
        · simp [heq, hfirst]
        · simp [heq]
      · rw [if_neg hfirst]
        by_cases heq : marker = first
        · simp [heq, hfirst]
        · simp [heq]

/-- **Under a watched marker stands the first line with it**, whether or not it has been kept. -/
theorem get?_hits_pushAll {limit : Nat} {watched : List String} {marker : String}
    (h : marker ∈ watched) (lines : List String) :
    ((new limit watched).pushAll lines).hits.get? marker = lines.find? (contains · marker) := by
  induction lines using List.reverseRecOn with
  | nil => rfl
  | append_singleton lines line ih =>
      have hwatched : marker ∈ ((new limit watched).pushAll lines).watched := by
        rw [watched_pushAll]
        exact h
      rw [pushAll_concat, List.find?_append, ← ih]
      refine (get?_hitsAfter _ line marker).trans ?_
      by_cases hline : contains line marker = true
      · simp [hwatched, hline]
      · simp [hline]

end FaultDrill.Capture
