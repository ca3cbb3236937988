import FaultDrill.Proofs.Text.Pieces

/-!
# FaultDrill.Proofs.Plan.Field

Fields of a line. A line is cut at its bars and the pieces are trimmed; what is left of a piece, if
anything, is a field (`IsField.of_mem_splitOn`). Fields that are written with a spaced bar between
them are found again (`fields_append`, `fields_eq_singleton`), and the line they make is itself free
of line feeds and of blanks at its ends.
-/

namespace FaultDrill.Text

/-- A text that can stand in one field of a line: not empty, without blanks at its ends, and without
the characters that end a field or a line. -/
structure IsField (s : List Char) : Prop where
  solid : IsSolid s
  bar : '|' ∉ s
  newline : '\n' ∉ s

/-- The pieces of a line between bars, trimmed. -/
def fields (line : List Char) : List (List Char) :=
  (line.splitOn '|').map trim

/-- What is put between two fields does not matter as long as it ends neither field nor line. -/
theorem IsField.append {a b : List Char} (ha : IsField a) {m : List Char}
    (hm : '|' ∉ m ∧ '\n' ∉ m) (hb : IsField b) : IsField (a ++ m ++ b) where
  solid := ha.solid.append m hb.solid
  bar := by simp [ha.bar, hm.1, hb.bar]
  newline := by simp [ha.newline, hm.2, hb.newline]

/-- A list of fields with commas between them is a field. -/
theorem isField_intercalate {s : List Char} {more : List (List Char)}
    (h : ∀ t ∈ s :: more, IsField t) : IsField ([','].intercalate (s :: more)) := by
  induction more generalizing s with
  | nil => simpa using h s List.mem_cons_self
  | cons t rest ih =>
      have hrest := ih fun u hu => h u (List.mem_cons_of_mem s hu)
      have hcons : [','].intercalate (s :: t :: rest) = s ++ [','] ++ [','].intercalate (t :: rest) :=
        by simp
      rw [hcons]
      exact (h s List.mem_cons_self).append (by decide) hrest

/-! ### Fields that are read -/

/-- A solid part of a field could stand in the field's place. -/
theorem IsField.of_subset {s t : List Char} (hs : IsField s) (ht : IsSolid t) (hsub : t ⊆ s) :
    IsField t :=
  ⟨ht, fun h => hs.bar (hsub h), fun h => hs.newline (hsub h)⟩

theorem isField_of_mem_fields {line s : List Char} (hline : '\n' ∉ line) (h : s ∈ fields line)
    (hne : s ≠ []) : IsField s := by
  obtain ⟨piece, hpiece, rfl⟩ := List.mem_map.1 h
  obtain ⟨hsub, hbar⟩ := mem_splitOn hpiece
  exact ⟨⟨hne, trim_trim piece⟩, fun hmem => hbar (mem_of_mem_trim hmem),
    fun hmem => hline (hsub (mem_of_mem_trim hmem))⟩

/-- The first field starts with the first character of its line. -/
theorem head?_of_fields {line first : List Char} {rest : List (List Char)}
    (hline : ∀ c ∈ line.head?, isBlank c = false) (h : fields line = first :: rest)
    (hne : first ≠ []) : first.head? = line.head? := by
  obtain ⟨piece, pieces, hsplit, rfl, -⟩ := List.map_eq_cons_iff.1 h
  have hpiece : piece ≠ [] := fun hnil => hne (by rw [hnil, trim_nil])
  have hhead : line.head? = piece.head? := by
    have hjoin : ['|'].intercalate (line.splitOn '|') = line := List.intercalate_splitOn '|'
    rw [hsplit] at hjoin
    cases pieces with
    | nil => rw [← hjoin]; simp
    | cons next more =>
        rw [← hjoin]
        simp [List.head?_append_of_ne_nil _ hpiece]
  rw [head?_trim (hhead ▸ hline) hne, hhead]

/-! ### Bars and blanks -/

theorem fields_bar (a b : List Char) : fields (a ++ '|' :: b) = fields a ++ fields b := by
  unfold fields
  rw [List.splitOn_append_cons_self, List.map_append]

theorem fields_of_not_mem {s : List Char} (h : '|' ∉ s) : fields s = [trim s] := by
  unfold fields
  rw [List.splitOn_eq_singleton h]
  rfl

theorem bar_not_mem_of_blank {m : List Char} (hm : ∀ c ∈ m, isBlank c = true) : '|' ∉ m :=
  fun h => absurd (hm '|' h) (by decide)

/-- Blanks in front of a line are blanks in front of its first field. -/
theorem fields_append_of_blank_left {m : List Char} (hm : ∀ c ∈ m, isBlank c = true)
    (s : List Char) : fields (m ++ s) = fields s := by
  have hbar := bar_not_mem_of_blank hm
  by_cases hs : '|' ∈ s
  · obtain ⟨a, b, rfl, ha⟩ := List.eq_append_cons_of_mem hs
    rw [← List.append_assoc, fields_bar, fields_bar, fields_of_not_mem (by simp [hbar, ha]),
      fields_of_not_mem ha, trim_append_of_blank_left hm]
  · rw [fields_of_not_mem (by simp [hbar, hs]), fields_of_not_mem hs,
      trim_append_of_blank_left hm]

/-- Blanks behind a line are blanks behind its last field. -/
theorem fields_append_of_blank (s : List Char) {m : List Char} (hm : ∀ c ∈ m, isBlank c = true) :
    fields (s ++ m) = fields s := by
  have hbar := bar_not_mem_of_blank hm
  by_cases hs : '|' ∈ s
  · -- the last bar is the first one from behind
    obtain ⟨b, a, hrev, hb⟩ := List.eq_append_cons_of_mem (List.mem_reverse.2 hs)
    obtain rfl : s = a.reverse ++ '|' :: b.reverse := by
      rw [← List.reverse_reverse s, hrev]
      simp
    rw [List.append_assoc, List.cons_append, fields_bar, fields_bar,
      fields_of_not_mem (s := b.reverse ++ m) (by simp [hbar, hb]),
      fields_of_not_mem (s := b.reverse) (by simpa using hb), trim_append_of_blank _ hm]
  · rw [fields_of_not_mem (by simp [hbar, hs]), fields_of_not_mem hs, trim_append_of_blank _ hm]

@[simp] theorem fields_trim (s : List Char) : fields (trim s) = fields s := by
  obtain ⟨front, hfront, hstart⟩ := exists_append_trimStart s
  obtain ⟨back, hback, hend⟩ := exists_trimEnd_append (trimStart s)
  conv_rhs => rw [hstart, fields_append_of_blank_left hfront, hend,
    fields_append_of_blank _ hback]
  rfl

/-! ### Fields that are written -/

theorem fields_cons_space (rest : List Char) : fields (' ' :: rest) = fields rest := by
  unfold fields
  rw [List.splitOn_cons_eq_if_modifyHead, if_neg (by decide)]
  cases hs : rest.splitOn '|' with
  | nil => exact absurd hs (List.splitOn_ne_nil _ _)
  | cons piece pieces =>
      rw [List.modifyHead_cons, List.map_cons, trim_cons_blank (by decide), List.map_cons]

theorem fields_append {s : List Char} (h : IsField s) (rest : List Char) :
    fields (s ++ ' ' :: '|' :: ' ' :: rest) = s :: fields rest := by
  have hs : '|' ∉ s ++ [' '] := by
    rw [List.mem_append, List.mem_singleton]
    exact fun hmem => hmem.elim h.bar (by decide)
  have hsplit := List.splitOn_append_cons_self_of_not_mem hs (' ' :: rest)
  rw [List.append_assoc, List.singleton_append] at hsplit
  rw [← fields_cons_space rest]
  unfold fields
  rw [hsplit, List.map_cons, trim_append_blank (by decide), h.solid.trimmed]

theorem fields_eq_singleton {s : List Char} (h : IsField s) : fields s = [s] := by
  unfold fields
  rw [List.splitOn_eq_singleton h.bar]
  simp [h.solid.trimmed]

end FaultDrill.Text
