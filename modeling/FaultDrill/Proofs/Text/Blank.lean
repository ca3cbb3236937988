import FaultDrill.Text.Blank
import Mathlib.Data.List.DropRight
import Mathlib.Data.List.TakeWhile

/-!
# FaultDrill.Proofs.Text.Blank

Trimming and words. A text is left alone by `trim` exactly if no blank stands at either of its ends
(`trim_eq_self_iff`); with this, a line that is put together from solid fields is solid
(`IsSolid.append`), and a field with blanks around it is found again (`trim_cons_blank`,
`trim_append_blank`). Words that are written with blanks between them are read back
(`words_append_blank`, `words_append_gap`). No letter becomes a blank when it is written in lower
case (`isBlank_toLower`).
-/

namespace FaultDrill.Text

/-! ### Single characters -/

/-- No character between the space and the end of ASCII is blank. -/
theorem isBlank_of_ascii {c : Char} (hlow : 0x20 < c.toNat) (hhigh : c.toNat < 0x80) :
    isBlank c = false := by
  simp only [isBlank, Bool.or_eq_false_iff, Bool.and_eq_false_iff, decide_eq_false_iff_not,
    beq_eq_false_iff_ne]
  omega

@[simp] theorem isBlank_toLower (c : Char) : isBlank c.toLower = isBlank c := by
  unfold Char.toLower
  split
  · next h =>
    have hlow : 65 ≤ c.toNat := UInt32.le_iff_toNat_le.1 h.1
    have hhigh : c.toNat ≤ 90 := UInt32.le_iff_toNat_le.1 h.2
    have hsum : (c.val + ('a'.val - 'A'.val)).toNat = c.toNat + 32 := by
      have hdiff : ('a'.val - 'A'.val).toNat = 32 := by decide
      rw [UInt32.toNat_add, hdiff]
      exact Nat.mod_eq_of_lt (by show c.toNat + 32 < _; omega)
    rw [isBlank_of_ascii (c := c) (by omega) (by omega), isBlank_of_ascii]
    · show 32 < (c.val + ('a'.val - 'A'.val)).toNat
      omega
    · show (c.val + ('a'.val - 'A'.val)).toNat < 128
      omega
  · rfl

/-! ### Texts without blanks at the ends -/

/-- No blank stands at either end of a text. -/
structure IsTrimmed (s : List Char) : Prop where
  head : ∀ c ∈ s.head?, isBlank c = false
  last : ∀ c ∈ s.getLast?, isBlank c = false

theorem trimEnd_isPrefixOf (s : List Char) : trimEnd s <+: s :=
  List.rdropWhile_prefix isBlank s

theorem trim_sublist (s : List Char) : (trim s).Sublist s :=
  (trimEnd_isPrefixOf _).sublist.trans (List.dropWhile_sublist isBlank)

theorem trim_isInfix (s : List Char) : trim s <:+: s :=
  (trimEnd_isPrefixOf _).isInfix.trans (List.dropWhile_suffix isBlank).isInfix

/-- Trimming brings no new characters. -/
theorem mem_of_mem_trim {s : List Char} {c : Char} (h : c ∈ trim s) : c ∈ s :=
  (trim_sublist s).subset h

theorem head?_trimStart {s : List Char} {c : Char} (h : c ∈ (trimStart s).head?) :
    isBlank c = false := by
  have hd := List.head?_dropWhile_not isBlank s
  unfold trimStart at h
  cases hs : (s.dropWhile isBlank).head? with
  | none => rw [hs] at h; exact absurd h (by simp)
  | some d =>
      rw [hs] at h hd
      obtain rfl : d = c := by simpa using h
      simpa using hd

theorem getLast?_trimEnd {s : List Char} {c : Char} (h : c ∈ (trimEnd s).getLast?) :
    isBlank c = false := by
  unfold trimEnd at h
  rw [List.getLast?_reverse] at h
  exact head?_trimStart h

/-- What is left after trimming has no blank at its ends. -/
theorem isTrimmed_trim (s : List Char) : IsTrimmed (trim s) where
  head c hc := by
    obtain ⟨rest, hrest⟩ := trimEnd_isPrefixOf (trimStart s)
    refine head?_trimStart (s := s) ?_
    unfold trim at hc
    rw [← hrest, List.head?_append, Option.mem_def.1 hc]
    rfl
  last _ hc := getLast?_trimEnd hc

theorem trimStart_eq_self {s : List Char} (h : ∀ c ∈ s.head?, isBlank c = false) :
    trimStart s = s := by
  cases s with
  | nil => rfl
  | cons c rest => exact List.dropWhile_cons_of_neg (by simpa using h c rfl)

theorem trimEnd_eq_self {s : List Char} (h : ∀ c ∈ s.getLast?, isBlank c = false) :
    trimEnd s = s := by
  have hr : s.reverse.dropWhile isBlank = s.reverse :=
    trimStart_eq_self (by rw [List.head?_reverse]; exact h)
  unfold trimEnd
  rw [hr, List.reverse_reverse]

theorem IsTrimmed.trim_eq {s : List Char} (h : IsTrimmed s) : trim s = s := by
  unfold trim
  rw [trimStart_eq_self h.head, trimEnd_eq_self h.last]

theorem trim_eq_self_iff {s : List Char} : trim s = s ↔ IsTrimmed s :=
  ⟨fun h => h ▸ isTrimmed_trim s, IsTrimmed.trim_eq⟩

@[simp] theorem trim_trim (s : List Char) : trim (trim s) = trim s :=
  (isTrimmed_trim s).trim_eq

/-- Trimming what starts with no blank keeps the start, unless nothing is left. -/
theorem head?_trim {s : List Char} (hs : ∀ c ∈ s.head?, isBlank c = false) (hne : trim s ≠ []) :
    (trim s).head? = s.head? := by
  obtain ⟨rest, hrest⟩ := trimEnd_isPrefixOf s
  have htrim : trim s = trimEnd s := by
    unfold trim
    rw [trimStart_eq_self hs]
  rw [htrim] at hne ⊢
  conv_rhs => rw [← hrest, List.head?_append_of_ne_nil _ hne]

theorem trim_ne_nil {s : List Char} {c : Char} (hc : c ∈ s) (hblank : isBlank c = false) :
    trim s ≠ [] := by
  have hmem : c ∈ trimStart s := by
    rw [← List.takeWhile_append_dropWhile (p := isBlank) (l := s)] at hc
    refine (List.mem_append.1 hc).resolve_left fun h => ?_
    rw [List.mem_takeWhile_imp h] at hblank
    cases hblank
  intro h
  have hall := List.rdropWhile_eq_nil_iff.1 h c hmem
  rw [hblank] at hall
  cases hall

/-- A text that is not empty and has no blank at its ends. -/
structure IsSolid (s : List Char) : Prop where
  ne_nil : s ≠ []
  trimmed : trim s = s

theorem IsSolid.head {s : List Char} (h : IsSolid s) : ∀ c ∈ s.head?, isBlank c = false :=
  (trim_eq_self_iff.1 h.trimmed).head

/-- Whatever stands between two solid texts, the whole is solid. -/
theorem IsSolid.append {a b : List Char} (ha : IsSolid a) (m : List Char) (hb : IsSolid b) :
    IsSolid (a ++ m ++ b) := by
  refine ⟨by simp [ha.ne_nil], trim_eq_self_iff.2 ⟨fun c hc => ha.head c ?_, fun c hc => ?_⟩⟩
  · rwa [List.append_assoc, List.head?_append_of_ne_nil _ ha.ne_nil] at hc
  · rw [List.getLast?_append_of_ne_nil _ hb.ne_nil] at hc
    exact (trim_eq_self_iff.1 hb.trimmed).last c hc

/-- A text without blanks needs no trimming. -/
theorem trim_of_hasBlank {s : List Char} (h : hasBlank s = false) : trim s = s := by
  have hs : ∀ c ∈ s, isBlank c = false := by simpa [hasBlank] using h
  exact IsTrimmed.trim_eq ⟨fun c hc => hs c (List.mem_of_mem_head? hc),
    fun c hc => hs c (List.mem_of_mem_getLast? hc)⟩

/-- One character or more and no blank. -/
structure IsWord (w : List Char) : Prop where
  ne_nil : w ≠ []
  noBlank : hasBlank w = false

instance (w : List Char) : Decidable (IsWord w) :=
  decidable_of_iff (w ≠ [] ∧ hasBlank w = false) ⟨fun h => ⟨h.1, h.2⟩, fun h => ⟨h.1, h.2⟩⟩

theorem IsWord.solid {w : List Char} (h : IsWord w) : IsSolid w :=
  ⟨h.ne_nil, trim_of_hasBlank h.noBlank⟩

/-! ### Blanks around a text -/

/-- One blank or more, such as stands between two words. -/
structure IsGap (s : List Char) : Prop where
  ne_nil : s ≠ []
  blank : ∀ c ∈ s, isBlank c = true

theorem trim_cons_blank {c : Char} (hc : isBlank c = true) (s : List Char) :
    trim (c :: s) = trim s := by
  unfold trim trimStart
  rw [List.dropWhile_cons_of_pos hc]

theorem trimEnd_append_blank {c : Char} (hc : isBlank c = true) (s : List Char) :
    trimEnd (s ++ [c]) = trimEnd s :=
  List.rdropWhile_concat_pos isBlank s c hc

theorem trim_append_blank {c : Char} (hc : isBlank c = true) (s : List Char) :
    trim (s ++ [c]) = trim s := by
  unfold trim trimStart
  rw [List.dropWhile_append]
  cases hs : s.dropWhile isBlank with
  | nil => simp [hc]
  | cons d rest => exact trimEnd_append_blank hc (d :: rest)

/-- Only blanks are trimmed away altogether. -/
theorem trim_eq_nil_iff {s : List Char} : trim s = [] ↔ ∀ c ∈ s, isBlank c = true := by
  constructor
  · intro h c hc
    by_contra hblank
    exact trim_ne_nil hc (by simpa using hblank) h
  · intro h
    have hstart : trimStart s = [] := List.dropWhile_eq_nil_iff.2 (by simpa using h)
    unfold trim
    rw [hstart]
    rfl

theorem trim_append_of_blank (s : List Char) {m : List Char} (hm : ∀ c ∈ m, isBlank c = true) :
    trim (s ++ m) = trim s := by
  induction m using List.reverseRecOn with
  | nil => rw [List.append_nil]
  | append_singleton m c ih =>
      rw [← List.append_assoc, trim_append_blank (hm c (by simp)),
        ih fun d hd => hm d (by simp [hd])]

theorem trim_append_of_blank_left {m : List Char} (hm : ∀ c ∈ m, isBlank c = true) (s : List Char) :
    trim (m ++ s) = trim s := by
  unfold trim trimStart
  rw [List.dropWhile_append_of_pos hm]

/-- Only blanks stand in front of what `trimStart` leaves. -/
theorem exists_append_trimStart (s : List Char) :
    ∃ m, (∀ c ∈ m, isBlank c = true) ∧ s = m ++ trimStart s :=
  ⟨s.takeWhile isBlank, fun _ hc => List.mem_takeWhile_imp hc,
    List.takeWhile_append_dropWhile.symm⟩

/-- Only blanks stand behind what `trimEnd` leaves. -/
theorem exists_trimEnd_append (s : List Char) :
    ∃ m, (∀ c ∈ m, isBlank c = true) ∧ s = trimEnd s ++ m := by
  refine ⟨s.rtakeWhile isBlank, fun _ hc => List.mem_rtakeWhile_imp hc, ?_⟩
  unfold trimEnd List.rtakeWhile
  rw [← List.reverse_append, List.takeWhile_append_dropWhile, List.reverse_reverse]

@[simp] theorem trim_trimStart (s : List Char) : trim (trimStart s) = trim s := by
  obtain ⟨m, hm, hs⟩ := exists_append_trimStart s
  conv_rhs => rw [hs, trim_append_of_blank_left hm]

@[simp] theorem trim_trimEnd (s : List Char) : trim (trimEnd s) = trim s := by
  obtain ⟨m, hm, hs⟩ := exists_trimEnd_append s
  conv_rhs => rw [hs, trim_append_of_blank _ hm]

/-- Trimmed, a text starts with its first character that is not blank. -/
theorem head?_trim_append {c : Char} (hc : isBlank c = false) (a b : List Char) :
    (trim (a ++ c :: b)).head? = some ((trimStart a).head?.getD c) := by
  have hne : trim (trimStart (a ++ c :: b)) ≠ [] := by
    rw [trim_trimStart]
    exact trim_ne_nil (by simp) hc
  rw [← trim_trimStart, head?_trim (fun d hd => head?_trimStart hd) hne]
  unfold trimStart
  rw [List.dropWhile_append]
  cases a.dropWhile isBlank with
  | nil => simp [hc]
  | cons d rest => rfl

theorem head?_trimStart_append_of_blank (s : List Char) {m : List Char}
    (hm : ∀ c ∈ m, isBlank c = true) : (trimStart (s ++ m)).head? = (trimStart s).head? := by
  unfold trimStart
  rw [List.dropWhile_append, List.dropWhile_eq_nil_iff.2 hm]
  cases s.dropWhile isBlank with
  | nil => rfl
  | cons d rest => rfl

/-- Trimming the end of a text does not reach its first part, unless the second one is blank. -/
theorem trimEnd_append (a b : List Char) :
    trimEnd (a ++ b) = if trimEnd b = [] then trimEnd a else a ++ trimEnd b := by
  unfold trimEnd
  rw [List.reverse_append, List.dropWhile_append]
  by_cases h : b.reverse.dropWhile isBlank = []
  · simp [h]
  · simp [h]

/-! ### Words -/

theorem mem_splitOnP {p : Char → Bool} {s w : List Char} (h : w ∈ s.splitOnP p) :
    w ⊆ s ∧ ∀ c ∈ w, p c = false := by
  induction s generalizing w with
  | nil => simp_all
  | cons c rest ih =>
      rw [List.splitOnP_cons_eq_if_modifyHead] at h
      split at h
      · rcases List.mem_cons.1 h with rfl | h
        · simp
        · exact ⟨List.subset_cons_of_subset c (ih h).1, (ih h).2⟩
      · next hc =>
        cases hs : rest.splitOnP p with
        | nil => exact absurd hs (List.splitOnP_ne_nil p rest)
        | cons first more =>
            rw [hs] at h ih
            rcases List.mem_cons.1 h with rfl | h
            · obtain ⟨hsub, hp⟩ := ih List.mem_cons_self
              exact ⟨List.cons_subset_cons c hsub, by simpa [hc] using hp⟩
            · obtain ⟨hsub, hp⟩ := ih (List.mem_cons_of_mem _ h)
              exact ⟨List.subset_cons_of_subset c hsub, hp⟩

/-- A piece between separators is part of the text and holds no separator. -/
theorem mem_splitOn {sep : Char} {s w : List Char} (h : w ∈ s.splitOn sep) :
    w ⊆ s ∧ sep ∉ w := by
  rw [List.splitOn_eq_splitOnP] at h
  obtain ⟨hsub, hp⟩ := mem_splitOnP h
  exact ⟨hsub, fun hc => by simpa using hp sep hc⟩

/-- A word is part of the text, is not empty, and holds no blank. -/
theorem mem_words {s w : List Char} (h : w ∈ words s) : w ⊆ s ∧ w ≠ [] ∧ hasBlank w = false := by
  obtain ⟨hmem, hne⟩ := List.mem_filter.1 h
  obtain ⟨hsub, hp⟩ := mem_splitOnP hmem
  exact ⟨hsub, by simpa using hne, by simpa [hasBlank] using hp⟩

theorem words_of_hasBlank {w : List Char} (hne : w ≠ []) (hw : hasBlank w = false) :
    words w = [w] := by
  have hp : ∀ c ∈ w, isBlank c = false := by simpa [hasBlank] using hw
  unfold words
  rw [List.splitOnP_eq_singleton hp]
  simp [hne]

theorem words_append_blank {w : List Char} (hne : w ≠ []) (hw : hasBlank w = false)
    {c : Char} (hc : isBlank c = true) (rest : List Char) :
    words (w ++ c :: rest) = w :: words rest := by
  have hp : ∀ c ∈ w, isBlank c = false := by simpa [hasBlank] using hw
  unfold words
  rw [List.splitOnP_append_cons w rest hc, List.splitOnP_eq_singleton hp]
  simp [hne]

theorem words_cons_blank {c : Char} (hc : isBlank c = true) (s : List Char) :
    words (c :: s) = words s := by
  unfold words
  rw [List.splitOnP_cons_eq_if_modifyHead, if_pos hc]
  rfl

theorem words_append_of_blank_left {m : List Char} (hm : ∀ c ∈ m, isBlank c = true)
    (s : List Char) : words (m ++ s) = words s := by
  induction m with
  | nil => rfl
  | cons c m ih =>
      rw [List.cons_append, words_cons_blank (hm c List.mem_cons_self),
        ih fun d hd => hm d (List.mem_cons_of_mem c hd)]

theorem words_append_gap {w gap : List Char} (hw : IsWord w) (hgap : IsGap gap)
    (rest : List Char) : words (w ++ (gap ++ rest)) = w :: words rest := by
  obtain ⟨hne, hblank⟩ := hgap
  cases gap with
  | nil => exact absurd rfl hne
  | cons c gap =>
      rw [List.cons_append, words_append_blank hw.ne_nil hw.noBlank (hblank c List.mem_cons_self),
        words_append_of_blank_left fun d hd => hblank d (List.mem_cons_of_mem c hd)]

theorem words_ne_nil {s : List Char} {c : Char} (hc : c ∈ s) (hblank : isBlank c = false) :
    words s ≠ [] := by
  induction s with
  | nil => cases hc
  | cons d rest ih =>
      unfold words at ih ⊢
      rw [List.splitOnP_cons_eq_if_modifyHead]
      split
      · next hd =>
        have hne : c ≠ d := fun h => by rw [h, hd] at hblank; cases hblank
        simpa using ih ((List.mem_cons.1 hc).resolve_left hne)
      · cases hs : rest.splitOnP isBlank with
        | nil => exact absurd hs (List.splitOnP_ne_nil _ rest)
        | cons first more => simp

/-- Words that are written each after one space are read back. -/
theorem words_flatMap_space {w : List Char} {more : List (List Char)} (hne : w ≠ [])
    (hw : hasBlank w = false) (hmore : ∀ v ∈ more, v ≠ [] ∧ hasBlank v = false) :
    words (w ++ more.flatMap (' ' :: ·)) = w :: more := by
  induction more generalizing w with
  | nil => simpa using words_of_hasBlank hne hw
  | cons v rest ih =>
      obtain ⟨hv, hvb⟩ := hmore v List.mem_cons_self
      rw [List.flatMap_cons, List.cons_append, words_append_blank hne hw (by decide),
        ih hv hvb fun u hu => hmore u (List.mem_cons_of_mem v hu)]

end FaultDrill.Text
