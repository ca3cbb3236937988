import FaultDrill.Check.Basic
import FaultDrill.Proofs.Plan.Reference

/-!
# FaultDrill.Proofs.Check.Comparison

**A comparison checks what it says** (`Check.resolve_comparison`). The two sides of a comparison are
joined into one argument when the reference is read, and the argument is cut again when the
reference becomes a check. What is cut is what was joined: the left side has no blank in it, so the
argument is cut right after it, and the right side is either a word, or a value that may have
anything in it. So the check compares the left side with the right one and with nothing else,
whatever quotation marks, colons, equals signs or names of nodes the text holds; or there is no
check, because the right side is a variable with a blank in it or a value without anything in it.
-/

namespace FaultDrill.Check

open FaultDrill.Text

/-! ### The sides of a comparison -/

/-- A text that compares two sides: they stand before and after its first `==`. -/
inductive Compares : List Char → List Char → List Char → Prop
  | intro (before after : List Char) (hfirst : ¬ ['=', '='] <:+: before ++ ['=']) :
      Compares (before ++ ['=', '='] ++ after) (trim before) (trim after)

/-- The value that a text stands for: the text without the quotation marks around it, if it has
one at each end. -/
inductive Unquotes : List Char → List Char → Prop
  | quoted (inner : List Char) : Unquotes ('"' :: (inner ++ ['"'])) inner
  | plain {s : List Char} (h : ∀ inner, s ≠ '"' :: (inner ++ ['"'])) : Unquotes s s

/-- What a comparison of two sides asks for, or why it asks for nothing. -/
inductive Asks (name : String) (left right : List Char) : Except CheckError Check → Prop
  | equality (hnode : (nodeOfVariable? right).isSome = true) (hword : hasBlank right = false) :
      Asks name left right (.ok (.equality (String.ofList left) (String.ofList right)))
  | severalWords (hnode : (nodeOfVariable? right).isSome = true) (hblank : hasBlank right = true) :
      Asks name left right (.error (.invalidArgument name
        (.argumentCount "equal" "<var1> <var2>" (1 + (words right).length))))
  | constant {value : List Char} (hnode : nodeOfVariable? right = none)
      (hvalue : Unquotes right value) (hne : trim value ≠ []) :
      Asks name left right (.ok (.constant (String.ofList left) (String.ofList (trim value))))
  | noValue {value : List Char} (hnode : nodeOfVariable? right = none)
      (hvalue : Unquotes right value) (hempty : trim value = []) :
      Asks name left right (.error (.invalidArgument name (.variableAndValue "const")))

theorem unquoted_of_quoted (inner : List Char) :
    Reference.unquoted ('"' :: (inner ++ ['"'])) = inner := by
  have hstart : afterStart? ['"'] ('"' :: (inner ++ ['"'])) = some (inner ++ ['"']) :=
    afterStart?_eq_some_iff.2 rfl
  have hend : beforeEnd? ['"'] (inner ++ ['"']) = some inner := beforeEnd?_eq_some_iff.2 rfl
  unfold Reference.unquoted
  rw [hstart, Option.bind_some, hend, Option.getD_some]

theorem unquoted_of_plain {s : List Char} (h : ∀ inner, s ≠ '"' :: (inner ++ ['"'])) :
    Reference.unquoted s = s := by
  unfold Reference.unquoted
  cases hcut : (afterStart? ['"'] s).bind (beforeEnd? ['"']) with
  | none => rfl
  | some inner =>
      obtain ⟨rest, hstart, hend⟩ := Option.bind_eq_some_iff.1 hcut
      rw [afterStart?_eq_some_iff] at hstart
      rw [beforeEnd?_eq_some_iff] at hend
      exact absurd (by rw [hstart, hend]; rfl) (h inner)

theorem unquotes_iff {s value : List Char} :
    Unquotes s value ↔ Reference.unquoted s = value := by
  constructor
  · intro h
    cases h with
    | quoted inner => exact unquoted_of_quoted _
    | plain h => exact unquoted_of_plain h
  · rintro rfl
    by_cases h : ∃ inner, s = '"' :: (inner ++ ['"'])
    · obtain ⟨inner, rfl⟩ := h
      rw [unquoted_of_quoted]
      exact .quoted inner
    · rw [not_exists] at h
      rw [unquoted_of_plain h]
      exact .plain h

/-- Every comparison asks for something, or there is a reason why it does not. -/
theorem exists_asks (name : String) (left right : List Char) :
    ∃ outcome, Asks name left right outcome := by
  cases hnode : nodeOfVariable? right with
  | some node =>
      cases hblank : hasBlank right with
      | true => exact ⟨_, .severalWords (by simp [hnode]) hblank⟩
      | false => exact ⟨_, .equality (by simp [hnode]) hblank⟩
  | none =>
      have hvalue := unquotes_iff.2 (rfl : Reference.unquoted right = _)
      by_cases hempty : trim (Reference.unquoted right) = []
      · exact ⟨_, .noValue hnode hvalue hempty⟩
      · exact ⟨_, .constant hnode hvalue hempty⟩

/-! ### How a comparison is read -/

/-- Trimming a comparison leaves its sign where it is. -/
theorem trim_comparison (before after : List Char) :
    trim (before ++ ['=', '='] ++ after) = trimStart before ++ (['=', '='] ++ trimEnd after) := by
  have hstart : trimStart (before ++ ['=', '='] ++ after) =
      trimStart before ++ (['=', '='] ++ after) := by
    unfold trimStart
    rw [List.append_assoc, List.dropWhile_append]
    by_cases h : before.dropWhile isBlank = []
    · rw [h]
      rfl
    · simp [h]
  have hend : trimEnd (['=', '='] ++ after) = ['=', '='] ++ trimEnd after := by
    rw [trimEnd_append]
    split
    · next h =>
      rw [h]
      rfl
    · rfl
  unfold trim
  rw [hstart, trimEnd_append, hend, if_neg (by simp)]

theorem Compares.parse {text left right : List Char} (h : Compares text left right) :
    Reference.parse text = Reference.ofComparison (trim text) left right := by
  obtain ⟨before, after, hfirst⟩ := h
  have hfree : ¬ ['=', '='] <:+: trimStart before ++ ['='] := by
    have hsuffix : trimStart before <:+ before := List.dropWhile_suffix isBlank
    exact fun hin => hfirst (hin.trans (List.suffix_append_self_iff.2 hsuffix).isInfix)
  have hcut : cutText? ['=', '='] (trim (before ++ ['=', '='] ++ after)) =
      some (trimStart before, trimEnd after) := by
    rw [trim_comparison]
    exact cutText?_append (by simp) hfree _
  have hne : trim (before ++ ['=', '='] ++ after) ≠ [] := by
    rw [trim_comparison]
    simp
  unfold Reference.parse
  dsimp only
  rw [if_neg hne, hcut]
  simp

/-- What a comparison that is accepted is made of. -/
theorem ofComparison_sides {whole left right : List Char} {r : Reference}
    (h : Reference.ofComparison whole left right = .ok r) :
    left ≠ [] ∧ hasBlank left = false ∧
      r = if (nodeOfVariable? right).isSome then
          ⟨String.ofList whole, .equality, String.ofList (left ++ ' ' :: right)⟩
        else ⟨String.ofList whole, .constant,
          String.ofList (left ++ ' ' :: Reference.unquoted right)⟩ := by
  unfold Reference.ofComparison at h
  dsimp only at h
  split at h
  · cases h
  · next hsides =>
    rw [not_or, not_or, Bool.not_eq_true] at hsides
    refine ⟨hsides.1, hsides.2.2, ?_⟩
    split at h
    · next hnode => rw [if_pos hnode, Except.ok.inj h]
    · next hnode => rw [if_neg hnode, Except.ok.inj h]

/-! ### How its argument is cut again -/

/-- The argument is cut after the variable, and what follows is the value. -/
theorem variableAndValue_argument {name : String} {strategy : Strategy} {left : List Char}
    (hne : left ≠ []) (hleft : hasBlank left = false) (value : List Char) :
    variableAndValue ⟨name, strategy, String.ofList (left ++ ' ' :: value)⟩ =
      if trim value = [] then .error (.invalidArgument name (.variableAndValue strategy.token))
      else .ok (String.ofList left, String.ofList (trim value)) := by
  have hsolid : IsSolid left := ⟨hne, trim_of_hasBlank hleft⟩
  have hfree : ∀ c ∈ left, isBlank c = false := by simpa [hasBlank] using hleft
  unfold variableAndValue
  rw [String.toList_ofList]
  by_cases hempty : trim value = []
  · have hblank : ∀ c ∈ ' ' :: value, isBlank c = true :=
      List.forall_mem_cons.2 ⟨by decide, trim_eq_nil_iff.1 hempty⟩
    have hcut : cutWhere? isBlank left = none := by
      unfold cutWhere?
      rw [List.dropWhile_eq_nil_iff.2 (by simpa using hfree)]
    rw [trim_append_of_blank left hblank, hsolid.trimmed, hcut, if_pos hempty]
  · have hend : trimEnd value ≠ [] := fun h => hempty (by rw [← trim_trimEnd, h, trim_nil])
    have hcons : trimEnd (' ' :: value) = ' ' :: trimEnd value := by
      rw [← List.singleton_append, trimEnd_append, if_neg hend]
      rfl
    have hwhole : trim (left ++ ' ' :: value) = left ++ ' ' :: trimEnd value := by
      have hstart : trimStart (left ++ ' ' :: value) = left ++ ' ' :: value :=
        trimStart_eq_self fun c hc => hsolid.head c (by
          rwa [List.head?_append_of_ne_nil _ hne] at hc)
      unfold trim
      rw [hstart, trimEnd_append, hcons, if_neg (by simp)]
    rw [hwhole, cutWhere?_append hfree (by decide)]
    simp only [trim_trimEnd, if_neg hempty]

theorem resolve_constant (s : CheckSettings) (name : String) {left : List Char} (hne : left ≠ [])
    (hleft : hasBlank left = false) (value : List Char) :
    resolve s ⟨name, .constant, String.ofList (left ++ ' ' :: value)⟩ =
      if trim value = [] then .error (.invalidArgument name (.variableAndValue "const"))
      else .ok (.constant (String.ofList left) (String.ofList (trim value))) := by
  unfold resolve
  dsimp only
  rw [variableAndValue_argument hne hleft value]
  by_cases hempty : trim value = []
  · rw [if_pos hempty, if_pos hempty]
    rfl
  · rw [if_neg hempty, if_neg hempty]
    rfl

theorem resolve_equality (s : CheckSettings) (name : String) {left right : List Char}
    (hne : left ≠ []) (hleft : hasBlank left = false) (hright : IsSolid right) :
    resolve s ⟨name, .equality, String.ofList (left ++ ' ' :: right)⟩ =
      if hasBlank right then .error (.invalidArgument name
        (.argumentCount "equal" "<var1> <var2>" (1 + (words right).length)))
      else .ok (.equality (String.ofList left) (String.ofList right)) := by
  have hargs : Reference.args ⟨name, .equality, String.ofList (left ++ ' ' :: right)⟩ =
      String.ofList left :: (words right).map String.ofList := by
    rw [Reference.args, String.toList_ofList, words_append_blank hne hleft (by decide),
      List.map_cons]
  unfold resolve wrongCount
  dsimp only
  rw [hargs, List.length_cons, List.length_map, Nat.add_comm _ 1]
  cases hblank : hasBlank right with
  | false =>
      rw [words_of_hasBlank hright.ne_nil hblank]
      rfl
  | true =>
      -- with the left side there are at least three words
      have hmany := one_lt_length_words (trim_eq_self_iff.1 hright.trimmed) hblank
      match hwords : words right, hmany with
      | first :: second :: more, _ => rfl

theorem resolve_of_asks (s : CheckSettings) {text left right : List Char} {r : Reference}
    (hsides : Compares text left right) (hread : Reference.parse text = .ok r)
    {outcome : Except CheckError Check} (h : Asks r.name left right outcome) :
    resolve s r = outcome := by
  have htrimmed : trim right = right := by
    obtain ⟨before, after, -⟩ := hsides
    exact trim_trim after
  rw [hsides.parse] at hread
  obtain ⟨hne, hleft, hr⟩ := ofComparison_sides hread
  have hright : (nodeOfVariable? right).isSome = true → IsSolid right := by
    refine fun hnode => ⟨?_, htrimmed⟩
    rintro rfl
    cases hnode
  cases h with
  | equality hnode hword =>
      rw [hr, if_pos hnode, resolve_equality s _ hne hleft (hright hnode), hword]
      rfl
  | severalWords hnode hblank =>
      rw [hr, if_pos hnode, resolve_equality s _ hne hleft (hright hnode), if_pos hblank]
  | constant hnode hvalue hne' =>
      rw [hr, hnode, if_neg (by simp), unquotes_iff.1 hvalue, resolve_constant s _ hne hleft,
        if_neg hne']
  | noValue hnode hvalue hempty =>
      rw [hr, hnode, if_neg (by simp), unquotes_iff.1 hvalue, resolve_constant s _ hne hleft,
        if_pos hempty]

/-- **A comparison is resolved to the check of its two sides**, whatever the settings are. -/
theorem resolve_comparison (s : CheckSettings) {text left right : List Char} {r : Reference}
    (hsides : Compares text left right) (hread : Reference.parse text = .ok r)
    (outcome : Except CheckError Check) :
    resolve s r = outcome ↔ Asks r.name left right outcome := by
  refine ⟨?_, resolve_of_asks s hsides hread⟩
  rintro rfl
  obtain ⟨outcome, houtcome⟩ := exists_asks r.name left right
  rwa [resolve_of_asks s hsides hread houtcome]

/-- A value in quotation marks, with a second comparison, a colon and the name of a node in it. -/
theorem resolve_comparison_quoted :
    ∃ r, Compares " rows==\" nd.x: 1 == 2 \" ".toList "rows".toList "\" nd.x: 1 == 2 \"".toList ∧
      Reference.parse " rows==\" nd.x: 1 == 2 \" ".toList = .ok r ∧
      resolve {} r = .ok (.constant "rows" "nd.x: 1 == 2") := by
  have hsides : Compares " rows==\" nd.x: 1 == 2 \" ".toList "rows".toList
      "\" nd.x: 1 == 2 \"".toList :=
    .intro " rows".toList "\" nd.x: 1 == 2 \" ".toList (by decide)
  refine ⟨⟨"rows==\" nd.x: 1 == 2 \"", .constant, "rows  nd.x: 1 == 2 "⟩, hsides, ?_, ?_⟩
  · decide +kernel
  · exact (resolve_comparison {} hsides (by decide +kernel) _).2
      (.constant (by decide) (.quoted " nd.x: 1 == 2 ".toList) (by decide))

end FaultDrill.Check
