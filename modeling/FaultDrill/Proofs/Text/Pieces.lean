import FaultDrill.Proofs.Text.Blank
import FaultDrill.Text.Pieces
import Mathlib.Data.List.Infix

/-!
# FaultDrill.Proofs.Text.Pieces

Cuts and lines. A cut at a character gives back the two parts that were put around it, provided that
the character does not occur in the part that is searched (`cut?_append`, `cutLast?_append`); and
whatever is cut is put together again (`cut?_eq_some`, `cutLast?_eq_some`). A cut at a blank takes a
word off the text and leaves the gap behind it to trimming (`cutWhere?_gap`, `gap_of_cutWhere?`). A
word that is taken from the end of a text stands there (`beforeEnd?_eq_some_iff`). A word that is
searched for occurs where lists say it does (`occursIn_iff`), the text is cut where it occurs first
(`cutText?_append`), and across a character that it does not have it cannot occur
(`infix_append_cons`). Lines without a line feed that are each ended by one are read back one by one
(`lines_cons`), and a text can be cut off behind any of its lines (`lines_firstLines`).
-/

namespace FaultDrill.Text

/-! ### Cuts -/

theorem cutWhere?_append {p : Char → Bool} {a : List Char} {c : Char} (ha : ∀ x ∈ a, p x = false)
    (hc : p c = true) (b : List Char) : cutWhere? p (a ++ c :: b) = some (a, b) := by
  have hpos : ∀ x ∈ a, (!p x) = true := by simpa using ha
  unfold cutWhere?
  rw [List.dropWhile_append_of_pos hpos, List.takeWhile_append_of_pos hpos]
  simp [hc]

theorem cut?_append {sep : Char} {a : List Char} (ha : sep ∉ a) (b : List Char) :
    cut? sep (a ++ sep :: b) = some (a, b) :=
  cutWhere?_append (fun x hx => by simpa using fun h : x = sep => ha (h ▸ hx)) (by simp) b

theorem cutLast?_append {sep : Char} {b : List Char} (hb : sep ∉ b) (a : List Char) :
    cutLast? sep (a ++ sep :: b) = some (a, b) := by
  have hcut : cut? sep (b.reverse ++ sep :: a.reverse) = some (b.reverse, a.reverse) :=
    cut?_append (by simpa using hb) _
  have hrev : (a ++ sep :: b).reverse = b.reverse ++ sep :: a.reverse := by simp
  unfold cutLast?
  rw [hrev, hcut]
  simp

theorem cutWhere?_eq_some {p : Char → Bool} {s a b : List Char} (h : cutWhere? p s = some (a, b)) :
    ∃ c, p c = true ∧ s = a ++ c :: b ∧ ∀ x ∈ a, p x = false := by
  unfold cutWhere? at h
  have happ := List.takeWhile_append_dropWhile (p := fun c => !p c) (l := s)
  have hhead := List.head?_dropWhile_not (fun c => !p c) s
  cases hd : s.dropWhile (fun c => !p c) with
  | nil => rw [hd] at h; exact absurd h (by simp)
  | cons c rest =>
      rw [hd] at h happ hhead
      obtain ⟨rfl, rfl⟩ : s.takeWhile (fun c => !p c) = a ∧ rest = b := by simpa using h
      refine ⟨c, by simpa using hhead, happ.symm, fun x hx => ?_⟩
      simpa using List.mem_takeWhile_imp hx

theorem cut?_eq_some {sep : Char} {s a b : List Char} (h : cut? sep s = some (a, b)) :
    s = a ++ sep :: b ∧ sep ∉ a := by
  obtain ⟨c, hc, hs, ha⟩ := cutWhere?_eq_some h
  obtain rfl : c = sep := by simpa using hc
  exact ⟨hs, fun hmem => by simpa using ha c hmem⟩

theorem cutLast?_eq_some {sep : Char} {s a b : List Char} (h : cutLast? sep s = some (a, b)) :
    s = a ++ sep :: b ∧ sep ∉ b := by
  unfold cutLast? at h
  obtain ⟨⟨after, before⟩, hcut, heq⟩ := Option.map_eq_some_iff.1 h
  obtain ⟨rfl, rfl⟩ : before.reverse = a ∧ after.reverse = b := by simpa using heq
  obtain ⟨hs, hsep⟩ := cut?_eq_some hcut
  refine ⟨?_, by simpa using hsep⟩
  rw [← List.reverse_reverse s, hs]
  simp

theorem exists_cutWhere? {p : Char → Bool} {s : List Char} (h : s.any p = true) :
    ∃ a b, cutWhere? p s = some (a, b) := by
  unfold cutWhere?
  cases hd : s.dropWhile (!p ·) with
  | cons c rest => exact ⟨_, rest, rfl⟩
  | nil =>
      obtain ⟨c, hc, hp⟩ := List.any_eq_true.1 h
      have hnot := List.dropWhile_eq_nil_iff.1 hd c hc
      rw [hp] at hnot
      cases hnot

theorem cut?_eq_none_iff {sep : Char} {s : List Char} : cut? sep s = none ↔ sep ∉ s := by
  constructor
  · intro h hmem
    have hany : s.any (· == sep) = true := List.any_eq_true.2 ⟨sep, hmem, by simp⟩
    obtain ⟨a, b, hcut⟩ := exists_cutWhere? hany
    rw [cut?, hcut] at h
    cases h
  · intro h
    unfold cut? cutWhere?
    rw [List.dropWhile_eq_nil_iff.2 fun c hc => by simpa using fun heq : c = sep => h (heq ▸ hc)]

theorem hasBlank_lower (s : List Char) : hasBlank (lower s) = hasBlank s := by
  simp [hasBlank, lower, List.any_map, Function.comp_def, isBlank_toLower]

/-- A text is cut in the gap after its first word. -/
theorem cutWhere?_gap {w gap rest : List Char} (hw : hasBlank w = false) (hgap : IsGap gap)
    (hrest : trim rest = rest) :
    ∃ after, cutWhere? isBlank (w ++ (gap ++ rest)) = some (w, after) ∧ trim after = rest := by
  obtain ⟨hne, hblank⟩ := hgap
  cases gap with
  | nil => exact absurd rfl hne
  | cons c gap =>
      refine ⟨gap ++ rest, cutWhere?_append (by simpa [hasBlank] using hw)
        (hblank c List.mem_cons_self) _, ?_⟩
      rw [trim_append_of_blank_left fun d hd => hblank d (List.mem_cons_of_mem c hd), hrest]

/-- What is cut at a blank and has none at its ends is a word, a gap, and something solid. -/
theorem gap_of_cutWhere? {s w after : List Char} (hs : IsTrimmed s)
    (h : cutWhere? isBlank s = some (w, after)) :
    ∃ gap, s = w ++ (gap ++ trim after) ∧ IsWord w ∧ IsGap gap ∧ IsSolid (trim after) := by
  obtain ⟨c, hc, rfl, hw⟩ := cutWhere?_eq_some h
  have hne : w ≠ [] := by
    rintro rfl
    simpa [hc] using hs.head c rfl
  have hlast : ∀ d ∈ after.getLast?, isBlank d = false := by
    intro d hd
    refine hs.last d ?_
    rw [List.getLast?_append, List.getLast?_cons, Option.mem_def.1 hd]
    rfl
  have hafter : after ≠ [] := by
    rintro rfl
    simpa [hc] using hs.last c (by simp)
  have hsplit : after.takeWhile isBlank ++ trimStart after = after :=
    List.takeWhile_append_dropWhile
  have htrim : trim after = trimStart after := by
    refine trimEnd_eq_self fun d hd => hlast d ?_
    rw [← hsplit, List.getLast?_append, Option.mem_def.1 hd]
    rfl
  refine ⟨c :: after.takeWhile isBlank, ?_, ⟨hne, by simpa [hasBlank] using hw⟩, ⟨by simp, ?_⟩,
    ?_, trim_trim after⟩
  · rw [htrim, List.cons_append, hsplit]
  · exact List.forall_mem_cons.2 ⟨hc, fun _ hd => List.mem_takeWhile_imp hd⟩
  · exact trim_ne_nil (List.getLast_mem hafter)
      (hlast _ (List.getLast?_eq_getLast_of_ne_nil hafter))

/-- A text with a blank inside has more than one word. -/
theorem one_lt_length_words {s : List Char} (hs : IsTrimmed s) (hblank : hasBlank s = true) :
    1 < (words s).length := by
  obtain ⟨a, b, hcut⟩ := exists_cutWhere? hblank
  obtain ⟨c, hc, rfl, ha⟩ := cutWhere?_eq_some hcut
  have hane : a ≠ [] := by
    rintro rfl
    simpa [hc] using hs.head c rfl
  have hbne : b ≠ [] := by
    rintro rfl
    simpa [hc] using hs.last c (by simp)
  have hlast : b.getLast hbne ∈ (a ++ c :: b).getLast? := by
    simp [List.getLast?_append, List.getLast?_cons, List.getLast?_eq_getLast_of_ne_nil hbne]
  have hwords := words_ne_nil (List.getLast_mem hbne) (hs.last _ hlast)
  rw [words_append_blank hane (by simpa [hasBlank] using ha) hc]
  simpa using List.length_pos_iff.2 hwords

/-! ### Occurrences -/

theorem isSome_indexFrom {pat s : List Char} {start : Nat} :
    (indexFrom pat start s).isSome = true ↔ pat <:+: s := by
  induction s generalizing start with
  | nil =>
      unfold indexFrom
      split
      · next h => simp [List.isEmpty_iff.1 h]
      · next h => simpa using h
  | cons c rest ih =>
      unfold indexFrom
      split
      · next h => simpa using (List.isPrefixOf_iff_prefix.1 h).isInfix
      · next h =>
        rw [ih, List.infix_cons_iff]
        exact (or_iff_right fun hp => h (List.isPrefixOf_iff_prefix.2 hp)).symm

theorem occursIn_iff {pat s : List Char} : occursIn pat s = true ↔ pat <:+: s :=
  isSome_indexFrom

theorem contains_iff {s pat : String} : contains s pat = true ↔ pat.toList <:+: s.toList :=
  occursIn_iff

theorem indexFrom_of_prefix {pat s : List Char} (hpat : pat ≠ []) (h : pat <+: s) (start : Nat) :
    indexFrom pat start s = some start := by
  cases s with
  | nil => exact absurd (List.prefix_nil.1 h) hpat
  | cons c rest => rw [indexFrom, if_pos (List.isPrefixOf_iff_prefix.2 h)]

theorem indexFrom_append {pat a : List Char} (hpat : pat ≠ [])
    (hfirst : ¬ pat <:+: a ++ pat.dropLast) (b : List Char) (start : Nat) :
    indexFrom pat start (a ++ (pat ++ b)) = some (start + a.length) := by
  induction a generalizing start with
  | nil => exact indexFrom_of_prefix hpat (List.prefix_append pat b) start
  | cons c a ih =>
      have hlength := List.length_pos_iff.2 hpat
      have hnot : ¬ pat <+: c :: (a ++ (pat ++ b)) := by
        intro hp
        -- an occurrence here would end before the last character of the one that is there
        have hlonger : c :: a ++ pat.dropLast <+: c :: (a ++ (pat ++ b)) := by
          rw [List.cons_append, List.prefix_cons_inj, List.prefix_append_right_inj]
          exact (List.dropLast_prefix pat).trans (List.prefix_append pat b)
        refine hfirst (List.prefix_of_prefix_length_le hp hlonger ?_).isInfix
        rw [List.length_append, List.length_cons, List.length_dropLast]
        omega
      have hrest : ¬ pat <:+: a ++ pat.dropLast := fun hin =>
        hfirst (hin.trans (List.suffix_cons c _).isInfix)
      rw [List.cons_append, indexFrom, if_neg fun hp => hnot (List.isPrefixOf_iff_prefix.1 hp),
        ih hrest, List.length_cons]
      congr 1
      omega

/-- A text is cut at the first place where the word occurs. -/
theorem cutText?_append {pat a : List Char} (hpat : pat ≠ [])
    (hfirst : ¬ pat <:+: a ++ pat.dropLast) (b : List Char) :
    cutText? pat (a ++ (pat ++ b)) = some (a, b) := by
  unfold cutText? indexOf?
  rw [indexFrom_append hpat hfirst]
  simp

theorem cutText?_eq_none_iff {pat s : List Char} : cutText? pat s = none ↔ ¬ pat <:+: s := by
  unfold cutText?
  rw [Option.map_eq_none_iff, ← occursIn_iff, occursIn, Option.not_isSome_iff_eq_none]

/-- What occurs in a text occurs on one side of any character that it does not have. -/
theorem infix_append_cons {pat a b : List Char} {c : Char} (hc : c ∉ pat)
    (h : pat <:+: a ++ c :: b) : pat <:+: a ∨ pat <:+: b := by
  have hnil : ∀ {part : List Char}, part ⊆ pat → part <+: c :: b → part = [] := by
    intro part hsub hprefix
    rcases List.prefix_cons_iff.1 hprefix with rfl | ⟨more, rfl, -⟩
    · rfl
    · exact absurd (hsub List.mem_cons_self) hc
  rcases List.infix_append_iff.1 h with ha | hb | ⟨front, back, rfl, hfront, hback⟩
  · exact .inl ha
  · rcases List.infix_cons_iff.1 hb with hprefix | hb
    · obtain rfl := hnil (List.Subset.refl pat) hprefix
      exact .inl List.nil_infix
    · exact .inr hb
  · obtain rfl := hnil (List.subset_append_right front back) hback
    exact .inl (by simpa using hfront.isInfix)

/-! ### Ends -/

theorem afterStart?_eq_some_iff {pat s rest : List Char} :
    afterStart? pat s = some rest ↔ s = pat ++ rest := by
  unfold afterStart?
  constructor
  · intro h
    split at h
    · next hp =>
      obtain ⟨more, rfl⟩ := List.isPrefixOf_iff_prefix.1 hp
      obtain rfl : more = rest := by simpa using h
      rfl
    · cases h
  · rintro rfl
    simp

theorem beforeEnd?_eq_some_iff {pat s rest : List Char} :
    beforeEnd? pat s = some rest ↔ s = rest ++ pat := by
  unfold beforeEnd?
  rw [Option.map_eq_some_iff]
  constructor
  · rintro ⟨back, hback, rfl⟩
    rw [← List.reverse_reverse s, afterStart?_eq_some_iff.1 hback]
    simp
  · rintro rfl
    exact ⟨rest.reverse, afterStart?_eq_some_iff.2 (by simp), List.reverse_reverse rest⟩

/-! ### Lines -/

theorem dropReturn_cases (l : List Char) : dropReturn l = l ∨ l = dropReturn l ++ ['\r'] := by
  unfold dropReturn
  split
  · next rest hrev => exact .inr (by rw [← List.reverse_reverse l, hrev]; simp)
  · exact .inl rfl

/-- The carriage return that a line may lose is a blank, so trimming does not see it. -/
@[simp] theorem trim_dropReturn (l : List Char) : trim (dropReturn l) = trim l := by
  rcases dropReturn_cases l with h | h
  · rw [h]
  · conv_rhs => rw [h, trim_append_blank (by decide)]

theorem exists_splitOn_eq (sep : Char) (s : List Char) :
    ∃ ended last, s.splitOn sep = ended ++ [last] :=
  ⟨_, _, (List.dropLast_append_getLast (List.splitOn_ne_nil sep s)).symm⟩

/-- What stands behind the last line feed is a line unless it is empty. -/
theorem lines_of_splitOn {s last : List Char} {ended : List (List Char)}
    (h : s.splitOn '\n' = ended ++ [last]) :
    lines s = ended.map dropReturn ++ if last = [] then [] else [last] := by
  unfold lines
  simp only [h, List.getLast?_concat, List.dropLast_concat]
  cases last with
  | nil => simp
  | cons c rest => simp

/-- A line that is ended by a line feed is read first. -/
theorem lines_cons {l : List Char} (hl : '\n' ∉ l) (rest : List Char) :
    lines (l ++ '\n' :: rest) = dropReturn l :: lines rest := by
  have hsplit : (l ++ '\n' :: rest).splitOn '\n' = l :: rest.splitOn '\n' :=
    List.splitOn_append_cons_self_of_not_mem hl rest
  unfold lines
  rw [hsplit]
  cases hs : rest.splitOn '\n' with
  | nil => exact absurd hs (List.splitOn_ne_nil _ _)
  | cons first more =>
      simp only [List.dropLast_cons_cons, List.map_cons, List.getLast?_cons_cons]
      split <;> rfl

@[simp] theorem lines_nil : lines [] = [] := rfl

theorem lines_flatMap {ls : List (List Char)} (hls : ∀ l ∈ ls, '\n' ∉ l) (rest : List Char) :
    lines (ls.flatMap (· ++ ['\n']) ++ rest) = ls.map dropReturn ++ lines rest := by
  induction ls with
  | nil => rfl
  | cons l more ih =>
      have hmore : ∀ k ∈ more, '\n' ∉ k := fun k hk => hls k (List.mem_cons_of_mem l hk)
      rw [List.flatMap_cons, List.append_assoc, List.append_assoc, List.singleton_append,
        lines_cons (hls l List.mem_cons_self), ih hmore]
      rfl

/-- The first lines of a text, each with its line feed if it has one. -/
def firstLines : Nat → List Char → List Char
  | 0, _ => []
  | _, [] => []
  | n + 1, c :: rest => c :: firstLines (if c = '\n' then n else n + 1) rest

theorem firstLines_of_not_mem {s : List Char} (hs : '\n' ∉ s) (n : Nat) :
    firstLines (n + 1) s = s := by
  induction s with
  | nil => rfl
  | cons c rest ih =>
      rw [firstLines, if_neg (List.ne_of_not_mem_cons hs).symm,
        ih (List.not_mem_of_not_mem_cons hs)]

theorem firstLines_append {l : List Char} (hl : '\n' ∉ l) (n : Nat) (rest : List Char) :
    firstLines (n + 1) (l ++ '\n' :: rest) = l ++ '\n' :: firstLines n rest := by
  induction l with
  | nil => rw [List.nil_append, firstLines, if_pos rfl, List.nil_append]
  | cons c l ih =>
      rw [List.cons_append, firstLines, if_neg (List.ne_of_not_mem_cons hl).symm,
        ih (List.not_mem_of_not_mem_cons hl), List.cons_append]

theorem length_lines_of_not_mem {s : List Char} (hs : '\n' ∉ s) : (lines s).length ≤ 1 := by
  have hsplit : s.splitOn '\n' = [] ++ [s] := List.splitOn_eq_singleton hs
  rw [lines_of_splitOn hsplit]
  split
  · simp
  · simp

/-- The first lines of a text are its first lines. -/
theorem lines_firstLines (n : Nat) (s : List Char) : lines (firstLines n s) = (lines s).take n := by
  induction n generalizing s with
  | zero => simp [firstLines]
  | succ n ih =>
      cases hcut : cut? '\n' s with
      | none =>
          have hs := cut?_eq_none_iff.1 hcut
          have hlength := length_lines_of_not_mem hs
          rw [firstLines_of_not_mem hs, List.take_of_length_le (by omega)]
      | some parts =>
          obtain ⟨l, rest⟩ := parts
          obtain ⟨rfl, hl⟩ := cut?_eq_some hcut
          rw [firstLines_append hl, lines_cons hl, lines_cons hl, ih, List.take_succ_cons]

/-- A line holds no line feed. -/
theorem newline_not_mem_of_mem_lines {s l : List Char} (h : l ∈ lines s) : '\n' ∉ l := by
  have hpiece : ∀ piece ∈ s.splitOn '\n', '\n' ∉ piece := fun piece hp => (mem_splitOn hp).2
  obtain ⟨ended, last, hrows⟩ := exists_splitOn_eq '\n' s
  rw [hrows] at hpiece
  rw [lines_of_splitOn hrows] at h
  rcases List.mem_append.1 h with h | h
  · obtain ⟨piece, hp, rfl⟩ := List.mem_map.1 h
    have hfree := hpiece piece (List.mem_append_left _ hp)
    rcases dropReturn_cases piece with heq | heq
    · rwa [heq]
    · rw [heq] at hfree
      exact fun hmem => hfree (List.mem_append_left _ hmem)
  · split at h
    · cases h
    · obtain rfl := List.mem_singleton.1 h
      exact hpiece l (by simp)

end FaultDrill.Text
