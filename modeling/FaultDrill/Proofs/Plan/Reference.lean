import FaultDrill.Plan.Reference
import FaultDrill.Proofs.Outcome
import FaultDrill.Proofs.Text.Decimal
import FaultDrill.Proofs.Text.Pieces

/-!
# FaultDrill.Proofs.Plan.Reference

The text of a reference as a line. A reference that is read from a line is written in one line again,
and the line starts as the one that was read (`text_of_parse`), so it is taken neither for a comment
nor for a blank line. Whether the text is read as the same reference is another matter: a name may
hold what the text form uses itself.
-/

namespace FaultDrill

open FaultDrill.Text

theorem Strategy.newline_not_mem_token (s : Strategy) : '\n' ∉ s.token.toList := by
  cases s <;> decide

namespace Reference

/-! ### The name and the text -/

/-- The text of a reference is its name, possibly with more after it. -/
theorem toList_text (r : Reference) : ∃ more, r.text.toList = r.name.toList ++ more ∧
    ('\n' ∉ r.argument.toList → '\n' ∉ more) := by
  have htoken := r.strategy.newline_not_mem_token
  unfold text
  split
  · exact ⟨[], by simp, by simp⟩
  · split
    · exact ⟨[], by simp, by simp⟩
    · split
      · refine ⟨": ".toList ++ r.strategy.token.toList, by simp, fun _ => ?_⟩
        simpa using htoken
      · refine ⟨": ".toList ++ r.strategy.token.toList ++ " ".toList ++ r.argument.toList,
          by simp, fun h => ?_⟩
        simpa using ⟨htoken, h⟩

/-- A name that holds a comparison is the whole text. -/
theorem text_of_contains {r : Reference} (h : contains r.name "==" = true) : r.text = r.name :=
  if_pos h

/-! ### References that are read -/

/-- Blanks around a reference are passed over. -/
theorem parse_trim (s : List Char) : parse (trim s) = parse s := by
  unfold parse
  rw [trim_trim]

theorem ofComparison_eq_ok {whole left right : List Char} {r : Reference}
    (h : ofComparison whole left right = .ok r) :
    r.name = String.ofList whole ∧ r.strategy ≠ .default := by
  unfold ofComparison at h
  dsimp only at h
  split at h
  · cases h
  · split at h <;> (obtain rfl := Except.ok.inj h; exact ⟨rfl, nofun⟩)

theorem firstWord_isInfix (s : List Char) : (firstWord s).2 <:+: s ∧ IsTrimmed (firstWord s).2 := by
  unfold firstWord
  split
  · next word rest hcut =>
    obtain ⟨c, -, rfl, -⟩ := cutWhere?_eq_some hcut
    have hrest : rest <:+: word ++ c :: rest := ⟨word ++ [c], [], by simp⟩
    exact ⟨(trim_isInfix rest).trans hrest, isTrimmed_trim rest⟩
  · exact ⟨List.nil_infix, isTrimmed_trim []⟩

theorem ofStrategy_eq_ok {whole name rest : List Char} {r : Reference}
    (h : ofStrategy whole name rest = .ok r) :
    name ≠ [] ∧ r.name.toList = name ∧ r.argument.toList = (firstWord rest).2 := by
  unfold ofStrategy at h
  dsimp only at h
  split at h
  · cases h
  · next hname =>
    split at h
    · cases h
    · split at h
      · obtain rfl := Except.ok.inj h
        exact ⟨hname, String.toList_ofList, String.toList_ofList⟩
      · cases h

theorem contains_of_cutText? {s : List Char} {cut : List Char × List Char}
    (h : cutText? ['=', '='] s = some cut) : contains (String.ofList s) "==" = true := by
  unfold cutText? at h
  obtain ⟨i, hi, -⟩ := Option.map_eq_some_iff.1 h
  unfold contains occursIn
  rw [String.toList_ofList, String.toList_ofList, hi]
  rfl

/-- A reference that is read from a line is written in one line, which starts as the line that was
read. -/
theorem text_of_parse {s : List Char} {r : Reference} (h : parse s = .ok r) (hs : '\n' ∉ s) :
    '\n' ∉ r.text.toList ∧ r.text.toList.head? = (trim s).head? ∧ trim s ≠ [] := by
  have htrim : '\n' ∉ trim s := fun hmem => hs (mem_of_mem_trim hmem)
  obtain ⟨more, htext, hmore⟩ := r.toList_text
  unfold parse at h
  dsimp only at h
  split at h
  · cases h
  · next hne =>
    split at h
    · next left right hcut =>
      obtain ⟨hname, -⟩ := ofComparison_eq_ok h
      rw [text_of_contains (hname ▸ contains_of_cutText? hcut), hname, String.toList_ofList]
      exact ⟨htrim, rfl, hne⟩
    · split at h
      · next name rest hcut =>
        obtain ⟨hname, heq, hargument⟩ := ofStrategy_eq_ok h
        obtain ⟨hwhole, -⟩ := cut?_eq_some hcut
        have hblank : ∀ c ∈ (trim s).head?, isBlank c = false := (isTrimmed_trim s).head
        rw [hwhole] at htrim hblank ⊢
        have hnil : name ≠ [] := fun hnil => hname (by rw [hnil, trim_nil])
        rw [List.head?_append_of_ne_nil _ hnil] at hblank ⊢
        rw [htext, heq]
        refine ⟨?_, ?_, by simp⟩
        · rw [List.mem_append]
          rintro (hmem | hmem)
          · exact htrim (List.mem_append_left _ (mem_of_mem_trim hmem))
          · refine hmore (fun harg => htrim (List.mem_append_right _ ?_)) hmem
            rw [hargument] at harg
            exact List.mem_cons_of_mem _ (mem_of_mem_trim ((firstWord_isInfix _).1.subset harg))
        · rw [List.head?_append_of_ne_nil _ hname, head?_trim hblank hname]
      · split at h
        · cases h
        · obtain rfl := Except.ok.inj h
          have hnamed : (named (String.ofList (trim s))).text = String.ofList (trim s) := by
            unfold text
            split <;> rfl
          rw [hnamed, String.toList_ofList]
          exact ⟨htrim, rfl, hne⟩

end Reference

end FaultDrill
