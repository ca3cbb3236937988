import FaultDrill.Proofs.Plan.Reference

/-!
# FaultDrill.Proofs.Plan.Canonical

**The text of a reference is read as the reference, unless it leaves the strategy to the settings
and says more than one word** (`parse_text_iff`). A comparison is its own name and its own text, so
there is nothing to show. Every other accepted reference is plain (`comparison_or_plain`): its name
has neither a colon nor a comparison in it, and its argument has no comparison either, wherever the
two stood in the text that was read. So the text that is put together from them is cut at the same
colon again and not taken for a comparison (`Plain.parse_text`).

The text of a reference whose strategy is the default one is its bare name, also where the default
was asked for by its word. Then an argument is lost, and a name of several words is refused
(`Plain.parse_name`).
-/

namespace FaultDrill

open FaultDrill.Text

/-! ### The words of strategies -/

namespace Strategy

@[simp] theorem ofToken?_token (s : Strategy) : ofToken? s.token = some s := by
  cases s <;> decide

theorem token_ne_nil (s : Strategy) : s.token.toList ≠ [] := by
  cases s <;> decide

theorem hasBlank_token (s : Strategy) : hasBlank s.token.toList = false := by
  cases s <;> decide

theorem equals_not_mem_token (s : Strategy) : '=' ∉ s.token.toList := by
  cases s <;> decide

end Strategy

namespace Reference

/-! ### Plain references -/

/-- A reference that is no comparison: its name ends before the first colon, and what is read of it
has no blanks at its ends. -/
structure Plain (r : Reference) : Prop where
  name : IsSolid r.name.toList
  noColon : ':' ∉ r.name.toList
  argument : IsTrimmed r.argument.toList
  noComparison : ¬ ['=', '='] <:+: r.name.toList ∧ ¬ ['=', '='] <:+: r.argument.toList

/-- The word of a strategy is the first word of what follows the colon. -/
theorem firstWord_token (s : Strategy) {argument : List Char} (h : IsTrimmed argument) :
    firstWord (s.token.toList ++ ' ' :: argument) = (s.token.toList, argument) := by
  have hword : ∀ c ∈ s.token.toList, isBlank c = false := by
    simpa [hasBlank] using s.hasBlank_token
  unfold firstWord
  rw [cutWhere?_append hword (by decide)]
  simp [h.trim_eq]

theorem firstWord_token_nil (s : Strategy) : firstWord s.token.toList = (s.token.toList, []) := by
  cases s <;> decide

/-! ### What is read -/

/-- A comparison is read from its own name, and every other reference is plain. -/
theorem comparison_or_plain {s : List Char} {r : Reference} (h : parse s = .ok r) :
    (r.strategy ≠ .default ∧ contains r.name "==" = true ∧ parse r.name.toList = .ok r) ∨
      r.Plain := by
  have htrim := parse_trim s
  rw [h] at htrim
  unfold parse at h
  dsimp only at h
  split at h
  · cases h
  · next hne =>
    split at h
    · next left right hcut =>
      obtain ⟨hname, hs⟩ := ofComparison_eq_ok h
      refine .inl ⟨hs, hname ▸ contains_of_cutText? hcut, ?_⟩
      rw [hname, String.toList_ofList, htrim]
    · next hnone =>
      rw [cutText?_eq_none_iff] at hnone
      split at h
      · next name rest hcut =>
        obtain ⟨hname, heq, hfirst⟩ := ofStrategy_eq_ok h
        obtain ⟨hwhole, hcolon⟩ := cut?_eq_some hcut
        obtain ⟨hargument, htrimmed⟩ := firstWord_isInfix (trim rest)
        rw [← hfirst] at hargument htrimmed
        rw [hwhole] at hnone
        have hbefore : r.name.toList <:+: name ++ ':' :: rest :=
          heq ▸ (trim_isInfix name).trans (List.prefix_append name _).isInfix
        have hafter : r.argument.toList <:+: name ++ ':' :: rest :=
          (hargument.trans (trim_isInfix rest)).trans ⟨name ++ [':'], [], by simp⟩
        refine .inr ⟨⟨heq ▸ hname, ?_⟩, ?_, htrimmed, ?_, ?_⟩
        · rw [heq, trim_trim]
        · exact heq ▸ fun hmem => hcolon (mem_of_mem_trim hmem)
        · exact fun hin => hnone (hin.trans hbefore)
        · exact fun hin => hnone (hin.trans hafter)
      · next hcut =>
        split at h
        · cases h
        · obtain rfl := Except.ok.inj h
          refine .inr ⟨⟨by simpa [named] using hne, by simp [named]⟩, ?_, isTrimmed_trim [], ?_⟩
          · simpa [named] using cut?_eq_none_iff.1 hcut
          · exact ⟨by simpa [named] using hnone, by simp [named]⟩


/-! ### What is written -/

/-- What is written after the colon: the word of the strategy, and the argument if there is one. -/
theorem Plain.toList_text {r : Reference} (h : r.Plain) (hs : r.strategy ≠ .default) :
    ∃ after, r.text.toList = r.name.toList ++ ':' :: ' ' :: after ∧ IsSolid after ∧
      firstWord after = (r.strategy.token.toList, r.argument.toList) ∧
      ¬ ['=', '='] <:+: after := by
  have hname : ¬ contains r.name "==" = true := fun hc => h.noComparison.1 (occursIn_iff.1 hc)
  have htoken : IsSolid r.strategy.token.toList :=
    ⟨r.strategy.token_ne_nil, trim_of_hasBlank r.strategy.hasBlank_token⟩
  have hnone : ¬ ['=', '='] <:+: r.strategy.token.toList := fun hin =>
    r.strategy.equals_not_mem_token (hin.subset List.mem_cons_self)
  unfold text
  rw [if_neg hname, if_neg hs]
  by_cases hargument : r.argument = ""
  · refine ⟨r.strategy.token.toList, by simp [hargument], htoken, ?_, hnone⟩
    rw [firstWord_token_nil, hargument]
    rfl
  · have hsolid : IsSolid r.argument.toList :=
      ⟨by simpa using hargument, h.argument.trim_eq⟩
    refine ⟨r.strategy.token.toList ++ ' ' :: r.argument.toList, by simp [hargument], ?_,
      firstWord_token _ h.argument, fun hin => ?_⟩
    · simpa using htoken.append [' '] hsolid
    · exact (infix_append_cons (by decide) hin).elim hnone h.noComparison.2

/-- A reference that names its strategy is read back from its text. -/
theorem Plain.parse_text {r : Reference} (h : r.Plain) (hs : r.strategy ≠ .default) :
    parse r.text.toList = .ok r := by
  obtain ⟨after, htext, hafter, hfirst, hnone⟩ := h.toList_text hs
  have hsolid : IsSolid (r.name.toList ++ ':' :: ' ' :: after) := by
    simpa using h.name.append [':', ' '] hafter
  have hcut : cutText? ['=', '='] (r.name.toList ++ ':' :: ' ' :: after) = none := by
    refine cutText?_eq_none_iff.2 fun hin => ?_
    rcases infix_append_cons (by decide) hin with hname | hrest
    · exact h.noComparison.1 hname
    · exact hnone ((infix_append_cons (a := []) (by decide) hrest).resolve_left (by simp))
  rw [htext]
  unfold parse
  simp only [hsolid.trimmed, if_neg hsolid.ne_nil, hcut, cut?_append h.noColon, h.name.trimmed,
    trim_cons_blank (show isBlank ' ' = true by decide), hafter.trimmed]
  unfold ofStrategy
  simp [h.name.ne_nil, hfirst, r.strategy.token_ne_nil]

/-- A name by itself is read as a bare name, if it is one word. -/
theorem Plain.parse_name {r : Reference} (h : r.Plain) :
    parse r.name.toList = if hasBlank r.name.toList then .error (.manyWords r.name)
      else .ok (named r.name) := by
  unfold parse
  simp only [h.name.trimmed, if_neg h.name.ne_nil, cutText?_eq_none_iff.2 h.noComparison.1,
    cut?_eq_none_iff.2 h.noColon, String.ofList_toList]
  split
  · next hwords =>
    rw [if_pos]
    by_contra hblank
    rw [words_of_hasBlank h.name.ne_nil (by simpa using hblank)] at hwords
    exact absurd hwords (by simp)
  · next hwords =>
    rw [if_neg]
    exact fun hblank => hwords (one_lt_length_words (trim_eq_self_iff.1 h.name.trimmed) hblank)

/-- **What the text of an accepted reference is read as.** -/
theorem parse_text {s : List Char} {r : Reference} (h : parse s = .ok r) :
    parse r.text.toList =
      if r.strategy ≠ .default then .ok r
      else if hasBlank r.name.toList then .error (.manyWords r.name)
      else .ok (named r.name) := by
  rcases comparison_or_plain h with ⟨hs, hname, hparse⟩ | hplain
  · rw [text_of_contains hname, hparse, if_pos hs]
  · by_cases hs : r.strategy = .default
    · have htext : r.text = r.name := by
        unfold text
        rw [if_pos hs, ite_self]
      rw [htext, hplain.parse_name, if_neg (not_not.2 hs)]
    · rw [hplain.parse_text hs, if_pos hs]

/-- A reference that has a text form: one that leaves the strategy to the settings is written as its
bare name, so it has no argument, and its name is one word. -/
def HasText (r : Reference) : Prop :=
  r.strategy = .default → r.argument = "" ∧ hasBlank r.name.toList = false

instance (r : Reference) : Decidable r.HasText :=
  inferInstanceAs (Decidable (_ → _))

/-- **An accepted reference is read back from its text exactly if it has a text form.** Any other
one is read as its bare name, or refused if that has several words. -/
theorem parse_text_iff {s : List Char} {r : Reference} (h : parse s = .ok r) :
    (parse r.text.toList = .ok r ↔ r.HasText) ∧
      (¬ r.HasText → parse r.text.toList =
        if hasBlank r.name.toList then .error (.manyWords r.name) else .ok (named r.name)) := by
  have htext := parse_text h
  unfold HasText
  by_cases hs : r.strategy = .default
  · rw [if_neg (not_not.2 hs)] at htext
    refine ⟨?_, fun _ => htext⟩
    rw [htext]
    cases hblank : hasBlank r.name.toList with
    | true => simp [hs]
    | false =>
        have hself : named r.name = r ↔ r.argument = "" := by
          constructor
          · intro heq
            rw [← heq]
            rfl
          · intro hargument
            rw [named, ← hs, ← hargument]
        simpa [hs] using hself
  · rw [if_pos hs] at htext
    exact ⟨by simp [htext, hs], fun hnot => absurd (fun heq => absurd heq hs) hnot⟩

/-- An alias of a strategy, and blanks that the text does not repeat. -/
theorem parse_text_alias : ∃ r, parse " rows :  Constant  count 100 ".toList = .ok r ∧
    r.text = "rows: const count 100" ∧ parse r.text.toList = .ok r := by
  refine ⟨⟨"rows", .constant, "count 100"⟩, by decide +kernel, by decide +kernel, ?_⟩
  exact (parse_text_iff (s := " rows :  Constant  count 100 ".toList) (by decide +kernel)).1.2
    (by decide)

/-- Where the default strategy is asked for by its word, the text loses the argument, and a name of
several words is no reference by itself. -/
theorem default_not_reparsed :
    (∃ r, parse "rows: default foo".toList = .ok r ∧ r.argument = "foo" ∧
      parse r.text.toList = .ok (named "rows") ∧ parse r.text.toList ≠ .ok r) ∧
    ∃ r, parse "my rows: default".toList = .ok r ∧
      parse r.text.toList = .error (.manyWords "my rows") := by
  refine ⟨⟨⟨"rows", .default, "foo"⟩, ?_⟩, ⟨⟨"my rows", .default, ""⟩, ?_⟩⟩ <;> decide +kernel

end Reference

end FaultDrill
