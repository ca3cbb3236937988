import FaultDrill.Proofs.Plan.Outline
import Mathlib.Logic.Relation

/-!
# FaultDrill.Proofs.Plan.Layout

**Layout has no part in a plan.** Comments anywhere, blank lines before the event lines, blanks at
the ends of lines and around the bars of event lines, and carriage returns before the line feeds can
be added to a text, and it still holds the same plan (`parse_of_relaid`). Behind an event line a
blank line is no layout: it ends the plan.

What a text says is its outline, a list of trimmed lines without numbers. Texts whose outlines have
the same first two lines, and behind them lines with the same fields, hold the same plan
(`Alike.parse_eq_ok`); and each change keeps this (`Relaid.alike`). A change is made among the rows
of a text, so that a line without its line feed is not a case of its own.
-/

namespace FaultDrill.Plan

open FaultDrill.Text

/-! ### Numbers of lines

The number of a line shows in errors only. -/

theorem readFault_of_number {number : Nat} {kind target : String} {parameter : List Char}
    {fault : Fault} (h : readFault number kind target parameter = .ok fault) (other : Nat) :
    readFault other kind target parameter = .ok fault := by
  unfold readFault at h ⊢
  cases hsimple : withoutParameter? kind with
  | some simple =>
      simp only [hsimple] at h ⊢
      split at h
      · next hempty => rwa [if_pos hempty]
      · cases h
  | none =>
      simp only [hsimple] at h ⊢
      split at h
      · cases h
      · next hne =>
        rw [if_neg hne]
        cases hresult : withParameter? kind target parameter with
        | none =>
            simp only [hresult] at h
            cases h
        | some result =>
            simp only [hresult, Outcome.mapError_eq_ok] at h ⊢
            exact h

theorem readFields_of_number {number : Nat} {checkpoint target kind parameter : List Char}
    {e : Event} (h : readFields number checkpoint target kind parameter = .ok e) (other : Nat) :
    readFields other checkpoint target kind parameter = .ok e := by
  unfold readFields at h ⊢
  split at h
  · cases h
  · next hcheckpoint =>
    split at h
    · cases h
    · next htarget =>
      obtain ⟨fault, hfault, hok⟩ := Outcome.bind_eq_ok.1 h
      rw [if_neg hcheckpoint, if_neg htarget]
      exact Outcome.bind_eq_ok.2 ⟨fault, readFault_of_number hfault other, hok⟩

/-- An event is made of the fields of its line. -/
theorem readEvent_of_fields {line other : Line} (hfields : fields line.text = fields other.text)
    {e : Event} (h : readEvent line = .ok e) : readEvent other = .ok e := by
  have hsplit : (line.text.splitOn '|').map trim = (other.text.splitOn '|').map trim := hfields
  unfold readEvent at h ⊢
  rw [← hsplit]
  split at h
  · exact readFields_of_number h other.number
  · exact readFields_of_number h other.number
  · cases h

theorem readHeader_of_text {line other : Line} (htext : line.text = other.text)
    {header : String × SortedMap String String} (h : readHeader line = .ok header) :
    readHeader other = .ok header := by
  have hnote : ∀ token note, readNote line.number token = .ok note →
      readNote other.number token = .ok note := by
    intro token note hread
    unfold readNote at hread ⊢
    split at hread
    · exact hread
    · cases hread
  unfold readHeader at h ⊢
  rw [← htext]
  split at h
  · split at h
    · next hword =>
      obtain ⟨notes, hnotes, hok⟩ := Outcome.bind_eq_ok.1 h
      rw [if_pos hword]
      exact Outcome.bind_eq_ok.2 ⟨notes, Outcome.mapM_eq_ok_of_imp hnote hnotes, hok⟩
    · cases h
  · cases h

/-! ### Outlines -/

/-- What the lines of a text say. -/
def outline (s : List Char) : List (List Char) :=
  (said Line.text 0 (numberedLines s)).map Line.text

/-- Two texts have the same header, the same reference, and event lines with the same fields. -/
structure Alike (s t : List Char) : Prop where
  start : (outline s).take 2 = (outline t).take 2
  events : ((outline s).drop 2).map fields = ((outline t).drop 2).map fields

theorem alike_of_outline {s t : List Char} (h : outline s = outline t) : Alike s t :=
  ⟨by rw [h], by rw [h]⟩

/-- Event lines with the same fields hold the same events. -/
theorem readEvents_of_fields {seen : List (Checkpoint × String)} {count : Nat}
    {ls others : List Line} {events : List (Nat × Event)}
    (hfields : ls.map (fields ∘ Line.text) = others.map (fields ∘ Line.text))
    (hls : ∀ line ∈ ls, isSkippable line.text = false)
    (hothers : ∀ line ∈ others, isSkippable line.text = false)
    (h : readEvents seen count ls = .ok events) :
    ∃ same, readEvents seen count others = .ok same ∧ same.map (·.2) = events.map (·.2) := by
  induction ls generalizing seen count others events with
  | nil =>
      obtain rfl := List.map_eq_nil_iff.1 hfields.symm
      exact ⟨events, h, rfl⟩
  | cons line rest ih =>
      obtain ⟨other, more, rfl, hother, hmore⟩ := List.map_eq_cons_iff.1 hfields.symm
      rw [readEvents_cons_said (hls line List.mem_cons_self)] at h
      rw [readEvents_cons_said (hothers other List.mem_cons_self)]
      split at h
      · cases h
      · next event hevent =>
        simp only [readEvent_of_fields hother.symm hevent]
        split at h
        · cases h
        · next hseen =>
          split at h
          · cases h
          · next hcount =>
            split at h
            · cases h
            · next later hlater =>
              obtain ⟨same, hsame, heq⟩ := ih hmore.symm
                (fun l hl => hls l (List.mem_cons_of_mem line hl))
                (fun l hl => hothers l (List.mem_cons_of_mem other hl)) hlater
              obtain rfl := Except.ok.inj h
              refine ⟨(other.number, event) :: same, ?_, by simp [heq]⟩
              simp only [if_neg hseen, if_neg hcount, hsame]

/-- Texts that are alike hold the same plan. -/
theorem Alike.parse_eq_ok {s t : List Char} (hsame : Alike s t) {p : Plan}
    (h : parse s = .ok p) : parse t = .ok p := by
  obtain ⟨header, reference, body, events, hsaid, hid, hinvariant, hevents, hne, horder, heq⟩ :=
    readLines_eq_ok_iff.1 h
  obtain ⟨hstart, hfields⟩ := hsame
  unfold outline at hstart hfields
  rw [hsaid] at hstart hfields
  have hkept : ∀ line ∈ header :: reference :: body, isSkippable line.text = false := by
    intro line hline
    exact isSkippable_of_mem_said (hsaid ▸ hline)
  have hkept' : ∀ line ∈ said Line.text 0 (numberedLines t), isSkippable line.text = false :=
    fun line hline => isSkippable_of_mem_said hline
  rcases hother : said Line.text 0 (numberedLines t) with _ | ⟨header', _ | ⟨reference', body'⟩⟩
  · simp [hother] at hstart
  · simp [hother] at hstart
  · rw [hother] at hstart hfields hkept'
    obtain ⟨hheader, hreference⟩ : header.text = header'.text ∧
        reference.text = reference'.text := by simpa using hstart
    obtain ⟨same, hread, hmap⟩ := readEvents_of_fields (by simpa using hfields)
      (fun line hline => hkept line (by simp [hline]))
      (fun line hline => hkept' line (by simp [hline])) hevents
    refine readLines_eq_ok_iff.2 ⟨header', reference', body', same, hother,
      readHeader_of_text hheader hid, hreference ▸ hinvariant, hread, ?_, ?_, by rw [heq, hmap]⟩
    · intro hnil
      rw [hnil] at hmap
      exact hne (List.map_eq_nil_iff.1 hmap.symm)
    · rw [disorder?_eq_none_iff, hmap]
      exact disorder?_eq_none_iff.1 horder

/-! ### Rows -/

/-- What stands between the line feeds of a text. -/
def rows (s : List Char) : List (List Char) :=
  s.splitOn '\n'

/-- The text of some rows. -/
def ofRows (ls : List (List Char)) : List Char :=
  ['\n'].intercalate ls

theorem rows_ofRows {ls : List (List Char)} (hne : ls ≠ []) (hls : ∀ l ∈ ls, '\n' ∉ l) :
    rows (ofRows ls) = ls :=
  List.splitOn_intercalate '\n' hls hne

theorem newline_not_mem_of_mem_rows {s l : List Char} (h : l ∈ rows s) : '\n' ∉ l :=
  (mem_splitOn h).2

theorem number_map_trim (k : Nat) (ls : List (List Char)) :
    number k (ls.map trim) = number k ls := by
  induction ls generalizing k with
  | nil => rfl
  | cons l rest ih => rw [List.map_cons, number_cons, number_cons, ih, trim_trim]

/-- What is said does not depend on the numbers of the lines. -/
theorem map_said_number (k n : Nat) (ls : List (List Char)) :
    (said Line.text n (number k ls)).map Line.text = (said trim n ls).map trim := by
  induction ls generalizing k n with
  | nil => rfl
  | cons l rest ih =>
      rw [number_cons, said, said]
      split
      · split
        · exact ih (k + 1) n
        · rfl
      · split
        · exact ih (k + 1) n
        · rw [List.map_cons, List.map_cons, ih]

/-- Behind the last line feed nothing is said, unless there is a line. -/
theorem said_number_rows (s : List Char) :
    said Line.text 0 (number 0 (rows s)) = said Line.text 0 (numberedLines s) := by
  obtain ⟨front, last, hrows⟩ := exists_splitOn_eq '\n' s
  have hfront : number 0 (front.map dropReturn) = number 0 front := by
    rw [← number_map_trim, List.map_map, ← number_map_trim 0 front]
    congr 2
    exact funext trim_dropReturn
  have hblank : ∀ n k, said Line.text n (number k [[]]) = [] := by
    intro n k
    simp [said, number]
  unfold rows
  rw [numberedLines_eq, lines_of_splitOn hrows, hrows, number_append, number_append, hfront,
    List.length_map]
  cases last with
  | nil =>
      rcases said_append_cases Line.text 0 (number 0 front) with hended | hgoes
      · rw [hended, hended]
      · rw [hgoes, hgoes, hblank]
        rfl
  | cons c rest => rfl

theorem outline_eq (s : List Char) : outline s = (said trim 0 (rows s)).map trim := by
  rw [← map_said_number 0, said_number_rows]
  rfl

/-! ### What is said before and behind a place -/

/-- A comment says nothing, wherever it stands. -/
theorem said_insert_comment {line : List Char} (h : isComment (trim line) = true)
    (before after : List (List Char)) :
    said trim 0 (before ++ line :: after) = said trim 0 (before ++ after) := by
  rcases said_append_cases trim 0 before with hended | hgoes
  · rw [hended, hended]
  · rw [hgoes, hgoes, said_cons_comment h]

/-- A blank line says nothing before the event lines. -/
theorem said_insert_blank {line : List Char} (h : trim line = []) {before : List (List Char)}
    (hbefore : (said trim 0 before).length ≤ 2) (after : List (List Char)) :
    said trim 0 (before ++ line :: after) = said trim 0 (before ++ after) := by
  rcases said_append_cases trim 0 before with hended | hgoes
  · rw [hended, hended]
  · rw [hgoes, hgoes, said_cons_blank h (by omega)]

theorem eventLines_eq (s : List Char) :
    eventLines (numberedLines s) = (said Line.text 0 (number 0 (rows s))).drop 2 := by
  rw [said_number_rows]
  rfl

/-- Before the first event line at most two lines say something. -/
theorem length_said_le {s : List Char} {before after : List (List Char)}
    (hrows : rows s = before ++ after)
    (hevents : ∀ line ∈ eventLines (numberedLines s), before.length < line.number) :
    (said trim 0 before).length ≤ 2 := by
  by_contra hlong
  have hlength : (said trim 0 before).length = (said Line.text 0 (number 0 before)).length := by
    simpa using congrArg List.length (map_said_number 0 0 before).symm
  have hfront := said_isPrefix_append Line.text 0 (number 0 before)
    (number (0 + before.length) after)
  rw [← number_append, ← hrows] at hfront
  obtain ⟨line, hline⟩ : ∃ line, line ∈ (said Line.text 0 (number 0 before)).drop 2 := by
    refine List.exists_mem_of_ne_nil _ fun hnil => ?_
    have hshort := List.drop_eq_nil_iff.1 hnil
    omega
  have hevent : line ∈ eventLines (numberedLines s) := by
    rw [eventLines_eq]
    exact (hfront.drop 2).subset hline
  have hnumber := number_of_mem ((said_sublist 0 _).subset (List.mem_of_mem_drop hline))
  have hbehind := hevents line hevent
  omega

/-- The row of an event line says something behind two others, and what is said before and behind
it does not depend on it. -/
theorem outline_of_eventLine {s row : List Char} {before after : List (List Char)}
    (hrows : rows s = before ++ row :: after)
    (hevent : ∃ line ∈ eventLines (numberedLines s), line.number = before.length + 1) :
    isSkippable (trim row) = false ∧ ∃ start rest, 2 ≤ start.length ∧
      ∀ t other, rows t = before ++ other :: after → isSkippable (trim other) = false →
        outline t = start ++ trim other :: rest := by
  obtain ⟨line, hline, hnumber⟩ := hevent
  rw [eventLines_eq, hrows, number_append, number_cons] at hline
  have hsaid := List.mem_of_mem_drop hline
  have hskip := isSkippable_of_mem_said hsaid
  have hbefore : line ∉ number 0 before := by
    intro hmem
    have hrange := number_of_mem hmem
    omega
  have hafter : line ∉ number (0 + before.length + 1) after := by
    intro hmem
    have hrange := number_of_mem hmem
    omega
  obtain rfl : line = ⟨0 + before.length + 1, trim row⟩ := by
    rcases List.mem_append.1 ((said_sublist 0 _).subset hsaid) with hmem | hmem
    · exact absurd hmem hbefore
    · exact (List.mem_cons.1 hmem).resolve_right hafter
  rcases said_append_cases Line.text 0 (number 0 before) with hended | hgoes
  · rw [hended] at hsaid
    exact absurd ((said_sublist 0 _).subset hsaid) hbefore
  · refine ⟨hskip, (said Line.text 0 (number 0 before)).map Line.text,
      (said Line.text (0 + (said Line.text 0 (number 0 before)).length + 1)
        (number (0 + before.length + 1) after)).map Line.text, ?_, ?_⟩
    · rw [hgoes, said_cons hskip, List.append_cons, List.drop_append] at hline
      rw [List.length_map]
      -- with fewer lines before it the row would be the header or the reference
      by_contra hshort
      rcases List.mem_append.1 hline with hmem | hmem
      · rw [List.drop_eq_nil_of_le (by simp; omega)] at hmem
        cases hmem
      · exact hafter ((said_sublist _ _).subset (List.mem_of_mem_drop hmem))
    · intro t other hother hkept
      have hline : isSkippable (Line.text ⟨0 + before.length + 1, trim other⟩) = false := hkept
      unfold outline
      rw [← said_number_rows, hother, number_append, number_cons, hgoes, said_cons hline,
        List.map_append, List.map_cons]

/-! ### Changes of the layout -/

/-- Blanks within a line. -/
def IsSpace (s : List Char) : Prop :=
  ∀ c ∈ s, isBlank c = true ∧ c ≠ '\n'

-- decided over the characters of the text, not over all characters there are
instance (s : List Char) : Decidable (IsSpace s) :=
  List.decidableBAll (fun c => isBlank c = true ∧ c ≠ '\n') s

/-- A text with one change of its layout. -/
inductive Relaid (s : List Char) : List Char → Prop
  /-- There is one more comment. -/
  | comment {before after : List (List Char)} {space note : List Char}
      (hrows : rows s = before ++ after) (hspace : IsSpace space) (hnote : '\n' ∉ note) :
      Relaid s (ofRows (before ++ (space ++ '#' :: note) :: after))
  /-- There is one more blank line before the event lines. -/
  | blank {before after : List (List Char)} {space : List Char} (hrows : rows s = before ++ after)
      (hspace : IsSpace space)
      (hevents : ∀ line ∈ eventLines (numberedLines s), before.length < line.number) :
      Relaid s (ofRows (before ++ space :: after))
  /-- There are more blanks at the start or at the end of a line. -/
  | margin {before after : List (List Char)} {left space right : List Char}
      (hrows : rows s = before ++ (left ++ right) :: after) (hspace : IsSpace space)
      (hedge : (∀ c ∈ left, isBlank c = true) ∨ ∀ c ∈ right, isBlank c = true) :
      Relaid s (ofRows (before ++ (left ++ (space ++ right)) :: after))
  /-- There are more blanks around a bar of an event line. -/
  | bar {before after : List (List Char)} {left front back right : List Char}
      (hrows : rows s = before ++ (left ++ '|' :: right) :: after)
      (hevent : ∃ line ∈ eventLines (numberedLines s), line.number = before.length + 1)
      (hfront : IsSpace front) (hback : IsSpace back) :
      Relaid s (ofRows (before ++ (left ++ front ++ '|' :: (back ++ right)) :: after))
  /-- Every line is ended by a carriage return and a line feed. -/
  | returns {ended : List (List Char)} {last : List Char} (hrows : rows s = ended ++ [last]) :
      Relaid s (ofRows (ended.map (dropReturn · ++ ['\r']) ++ [last]))

namespace IsSpace

variable {s : List Char}

theorem blank (h : IsSpace s) : ∀ c ∈ s, isBlank c = true :=
  fun c hc => (h c hc).1

theorem newline (h : IsSpace s) : '\n' ∉ s :=
  fun hmem => (h '\n' hmem).2 rfl

end IsSpace

/-- Texts whose rows differ in the blanks at their ends. -/
theorem outline_congr {s t : List Char} (h : (rows s).map trim = (rows t).map trim) :
    outline s = outline t := by
  unfold outline
  rw [← said_number_rows, ← said_number_rows, ← number_map_trim, h, number_map_trim]

/-- A line among rows of a text is a row. -/
theorem rows_ofRows_put {s line : List Char} {before after : List (List Char)}
    (hrows : before ++ after ⊆ rows s) (hline : '\n' ∉ line) :
    rows (ofRows (before ++ line :: after)) = before ++ line :: after := by
  refine rows_ofRows (by simp) ?_
  intro l hl
  rcases List.mem_append.1 hl with hl | hl
  · exact newline_not_mem_of_mem_rows (hrows (List.mem_append_left _ hl))
  · rcases List.mem_cons.1 hl with rfl | hl
    · exact hline
    · exact newline_not_mem_of_mem_rows (hrows (List.mem_append_right _ hl))

theorem newline_not_mem_dropReturn {l : List Char} (h : '\n' ∉ l) :
    '\n' ∉ dropReturn l ++ ['\r'] := by
  rcases dropReturn_cases l with heq | heq
  · rw [heq]
    simpa using h
  · rwa [← heq]

theorem trim_insert {left space right : List Char} (hspace : ∀ c ∈ space, isBlank c = true)
    (hedge : (∀ c ∈ left, isBlank c = true) ∨ ∀ c ∈ right, isBlank c = true) :
    trim (left ++ (space ++ right)) = trim (left ++ right) := by
  rcases hedge with hleft | hright
  · rw [trim_append_of_blank_left hleft, trim_append_of_blank_left hspace,
      trim_append_of_blank_left hleft]
  · have hmore : ∀ c ∈ space ++ right, isBlank c = true := by
      simpa [or_imp, forall_and] using ⟨hspace, hright⟩
    rw [trim_append_of_blank _ hmore, trim_append_of_blank _ hright]

/-- Blanks around a bar change neither where a line starts nor its fields. -/
theorem head?_trim_bar {left front back right : List Char}
    (hfront : ∀ c ∈ front, isBlank c = true) :
    (trim (left ++ front ++ '|' :: (back ++ right))).head? =
      (trim (left ++ '|' :: right)).head? := by
  rw [head?_trim_append (by decide), head?_trim_append (by decide),
    head?_trimStart_append_of_blank _ hfront]

theorem isSkippable_congr {a b : List Char} (h : a.head? = b.head?) :
    isSkippable a = isSkippable b := by
  cases a with
  | nil =>
      cases b with
      | nil => rfl
      | cons d more => cases h
  | cons c rest =>
      cases b with
      | nil => cases h
      | cons d more =>
          obtain rfl : c = d := by simpa using h
          rfl

theorem fields_insert {left front back right : List Char}
    (hfront : ∀ c ∈ front, isBlank c = true) (hback : ∀ c ∈ back, isBlank c = true) :
    fields (left ++ front ++ '|' :: (back ++ right)) = fields (left ++ '|' :: right) := by
  rw [fields_bar, fields_bar, fields_append_of_blank _ hfront, fields_append_of_blank_left hback]

/-- Carriage returns at the ends of rows leave them rows. -/
theorem rows_ofRows_returns {s : List Char} {ended : List (List Char)} {last : List Char}
    (hrows : rows s = ended ++ [last]) :
    rows (ofRows (ended.map (dropReturn · ++ ['\r']) ++ [last])) =
      ended.map (dropReturn · ++ ['\r']) ++ [last] := by
  have hline : ∀ row ∈ ended ++ [last], '\n' ∉ row := fun row hrow =>
    newline_not_mem_of_mem_rows (hrows ▸ hrow)
  refine rows_ofRows (by simp) (List.forall_mem_append.2 ⟨List.forall_mem_map.2 fun row hrow => ?_,
    List.forall_mem_singleton.2 (hline last (by simp))⟩)
  exact newline_not_mem_dropReturn (hline row (by simp [hrow]))

/-- A change of the layout does not change what is said. -/
theorem Relaid.alike {s t : List Char} (h : Relaid s t) : Alike s t := by
  cases h with
  | @comment before after space note hrows hspace hnote =>
      have hline : isComment (trim (space ++ '#' :: note)) = true := by
        have hstart := head?_trimStart_append_of_blank [] hspace.blank
        rw [List.nil_append] at hstart
        unfold isComment
        rw [head?_trim_append (by decide), hstart]
        rfl
      have hnew : '\n' ∉ space ++ '#' :: note := by simp [hspace.newline, hnote]
      refine alike_of_outline ?_
      rw [outline_eq, outline_eq, rows_ofRows_put (by rw [hrows]; simp) hnew, hrows,
        said_insert_comment hline]
  | @blank before after space hrows hspace hevents =>
      refine alike_of_outline ?_
      rw [outline_eq, outline_eq, rows_ofRows_put (by rw [hrows]; simp) hspace.newline, hrows,
        said_insert_blank (trim_eq_nil_iff.2 hspace.blank) (length_said_le hrows hevents)]
  | @margin before after left space right hrows hspace hedge =>
      have hnew : '\n' ∉ left ++ (space ++ right) := by
        have hold : '\n' ∉ left ++ right := newline_not_mem_of_mem_rows (by rw [hrows]; simp)
        simpa [hspace.newline] using hold
      refine alike_of_outline (outline_congr ?_)
      rw [rows_ofRows_put (by rw [hrows]; simp) hnew, hrows]
      simp [trim_insert hspace.blank hedge]
  | @bar before after left front back right hrows hevent hfront hback =>
      have hnew : '\n' ∉ left ++ front ++ '|' :: (back ++ right) := by
        have hold : '\n' ∉ left ++ '|' :: right :=
          newline_not_mem_of_mem_rows (by rw [hrows]; simp)
        simpa [hfront.newline, hback.newline] using hold
      obtain ⟨hskip, start, rest, hstart, hsaid⟩ := outline_of_eventLine hrows hevent
      have hskip' : isSkippable (trim (left ++ front ++ '|' :: (back ++ right))) = false := by
        rw [isSkippable_congr (head?_trim_bar hfront.blank)]
        exact hskip
      have hs := hsaid s _ hrows hskip
      have ht := hsaid _ _ (rows_ofRows_put (by rw [hrows]; simp) hnew) hskip'
      constructor
      · rw [hs, ht, List.take_append_of_le_length hstart, List.take_append_of_le_length hstart]
      · rw [hs, ht, List.drop_append_of_le_length hstart, List.drop_append_of_le_length hstart]
        rw [List.map_append, List.map_append, List.map_cons, List.map_cons, fields_trim,
          fields_trim, fields_insert hfront.blank hback.blank]
  | @returns ended last hrows =>
      have hrow : ∀ row, trim (dropReturn row ++ ['\r']) = trim row := by
        intro row
        rw [trim_append_blank (by decide), trim_dropReturn]
      refine alike_of_outline (outline_congr ?_)
      rw [rows_ofRows_returns hrows, hrows]
      simp [hrow]

/-- **Layout has no part in a plan.** A text that holds a plan holds the same plan after any changes
of its layout. -/
theorem parse_of_relaid {s t : List Char} (h : Relation.ReflTransGen Relaid s t) {p : Plan}
    (hp : parse s = .ok p) : parse t = .ok p := by
  induction h with
  | refl => exact hp
  | tail _ hlast ih => exact hlast.alike.parse_eq_ok ih

/-- A blank in front of a bar, and a comment between two events, where a blank line would end the
plan. -/
theorem parse_of_relaid_comment :
    parse "faultline-plan p\nrows: const n 3\n1|a|kill\n # so\n2 |b|kill".toList =
      .ok ⟨"p", ⟨"rows", .constant, "n 3"⟩, [⟨"1", "a", .kill⟩, ⟨"2", "b", .kill⟩],
        .ofList []⟩ := by
  have hplan : parse "faultline-plan p\nrows: const n 3\n1|a|kill\n2|b|kill".toList =
      .ok ⟨"p", ⟨"rows", .constant, "n 3"⟩, [⟨"1", "a", .kill⟩, ⟨"2", "b", .kill⟩],
        .ofList []⟩ := by
    decide +kernel
  have hevent : ∃ line ∈ eventLines (numberedLines
      "faultline-plan p\nrows: const n 3\n1|a|kill\n2|b|kill".toList), line.number = 3 + 1 :=
    ⟨⟨4, "2|b|kill".toList⟩, List.mem_cons_of_mem _ List.mem_cons_self, rfl⟩
  have hbar := @Relaid.bar "faultline-plan p\nrows: const n 3\n1|a|kill\n2|b|kill".toList
    ["faultline-plan p".toList, "rows: const n 3".toList, "1|a|kill".toList] [] "2".toList
    " ".toList [] "b|kill".toList (by decide +kernel) hevent (by decide) (by decide)
  have hcomment := @Relaid.comment
    "faultline-plan p\nrows: const n 3\n1|a|kill\n2 |b|kill".toList
    ["faultline-plan p".toList, "rows: const n 3".toList, "1|a|kill".toList]
    ["2 |b|kill".toList] " ".toList " so".toList (by decide +kernel) (by decide) (by decide)
  exact parse_of_relaid ((Relation.ReflTransGen.single hbar).tail hcomment) hplan

end FaultDrill.Plan
