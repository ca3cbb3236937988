import FaultDrill.Proofs.Plan.RoundTrip

/-!
# FaultDrill.Proofs.Plan.Outline

**What a plan is read from.** Of the lines of a text only those count that say something: the first
one is the header, the second the reference, and the others, up to the first blank line behind one
of them, are the event lines. Nothing else is looked at (`readLines_said`): not the comments, not
the blank lines, and not the notes. From each event line one event is read
(`forall₂_of_readEvents`). `Reads` says how a plan or an error comes about, and for plans alone
`readLines_eq_ok_iff` does.

The lines that say something in a part of a text depend on how many there have been before and on
whether the event lines have ended, and on nothing else (`said_append_cases`).
-/

namespace FaultDrill.Plan

open FaultDrill.Text

/-! ### Lines that say something -/

/-- A line is blank, a comment, or it says something. -/
theorem text_cases (s : List Char) : s = [] ∨ isComment s = true ∨ isSkippable s = false := by
  by_cases hblank : s = []
  · exact .inl hblank
  · cases hcomment : isComment s with
    | true => exact .inr (.inl rfl)
    | false => exact .inr (.inr (by simp [isSkippable, hblank, hcomment]))

section Said

variable {α β : Type} (text : α → List Char)

/-- The lines that say something, where `n` such lines have been before, up to the end of the event
lines. -/
def said (n : Nat) : List α → List α
  | [] => []
  | line :: rest =>
    if text line = [] then if n ≤ 2 then said n rest else []
    else if isComment (text line) then said n rest
    else line :: said (n + 1) rest

variable {text}

theorem said_cons_blank {n : Nat} {line : α} (h : text line = []) (hn : n ≤ 2) (rest : List α) :
    said text n (line :: rest) = said text n rest := by
  rw [said, if_pos h, if_pos hn]

theorem said_cons_end {n : Nat} {line : α} (h : text line = []) (hn : 2 < n) (rest : List α) :
    said text n (line :: rest) = [] := by
  rw [said, if_pos h, if_neg (Nat.not_le.2 hn)]

theorem said_cons_comment {n : Nat} {line : α} (h : isComment (text line) = true)
    (rest : List α) : said text n (line :: rest) = said text n rest := by
  have hne : text line ≠ [] := fun hnil => by rw [hnil] at h; cases h
  rw [said, if_neg hne, if_pos h]

theorem said_cons {n : Nat} {line : α} (h : isSkippable (text line) = false) (rest : List α) :
    said text n (line :: rest) = line :: said text (n + 1) rest := by
  obtain ⟨hne, hcomment⟩ : text line ≠ [] ∧ isComment (text line) = false := by
    simpa [isSkippable] using h
  rw [said, if_neg hne, hcomment]
  rfl

theorem said_sublist (n : Nat) (ls : List α) : (said text n ls).Sublist ls := by
  induction ls generalizing n with
  | nil => exact List.Sublist.refl _
  | cons line rest ih =>
      rw [said]
      split
      · split
        · exact (ih n).cons line
        · exact List.nil_sublist _
      · split
        · exact (ih n).cons line
        · exact (ih (n + 1)).cons_cons line

theorem isSkippable_of_mem_said {n : Nat} {ls : List α} {line : α} (h : line ∈ said text n ls) :
    isSkippable (text line) = false := by
  induction ls generalizing n with
  | nil => cases h
  | cons first rest ih =>
      rw [said] at h
      split at h
      · split at h
        · exact ih h
        · cases h
      · next hne =>
        split at h
        · exact ih h
        · next hcomment =>
          rcases List.mem_cons.1 h with rfl | h
          · simp [isSkippable, hne, hcomment]
          · exact ih h

variable (text) in
/-- The event lines end within the first part of a text, or the second part goes on after as many
lines as the first one has. -/
theorem said_append_cases (n : Nat) (a : List α) :
    (∀ b, said text n (a ++ b) = said text n a) ∨
    ∀ b, said text n (a ++ b) = said text n a ++ said text (n + (said text n a).length) b := by
  induction a generalizing n with
  | nil => exact .inr fun b => rfl
  | cons line rest ih =>
      rcases text_cases (text line) with hblank | hcomment | hskip
      · by_cases hn : n ≤ 2
        · simp only [List.cons_append, said_cons_blank hblank hn]
          exact ih n
        · simp only [List.cons_append, said_cons_end hblank (Nat.not_le.1 hn)]
          exact .inl fun _ => trivial
      · simp only [List.cons_append, said_cons_comment hcomment]
        exact ih n
      · simp only [List.cons_append, said_cons hskip, List.cons.injEq, true_and,
          List.length_cons, ← Nat.add_assoc, Nat.add_right_comm n _ 1]
        exact ih (n + 1)

variable (text) in
theorem said_isPrefix_append (n : Nat) (a b : List α) :
    said text n a <+: said text n (a ++ b) := by
  rcases said_append_cases text n a with hended | hgoes
  · rw [hended]
  · rw [hgoes]
    exact List.prefix_append _ _

end Said

/-- The event lines among the lines of a text. -/
def eventLines (ls : List Line) : List Line :=
  (said Line.text 0 ls).drop 2

/-! ### Numbered lines -/

/-- Numbers lines, where `k` lines have been before. -/
def number (k : Nat) (ls : List (List Char)) : List Line :=
  (ls.zipIdx k).map fun (line, i) => ⟨i + 1, trim line⟩

theorem numberedLines_eq (s : List Char) : numberedLines s = number 0 (lines s) := rfl

theorem number_cons (k : Nat) (line : List Char) (rest : List (List Char)) :
    number k (line :: rest) = ⟨k + 1, trim line⟩ :: number (k + 1) rest := rfl

theorem number_append (k : Nat) (a b : List (List Char)) :
    number k (a ++ b) = number k a ++ number (k + a.length) b := by
  unfold number
  rw [List.zipIdx_append, List.map_append]

@[simp] theorem length_number (k : Nat) (ls : List (List Char)) :
    (number k ls).length = ls.length := by
  unfold number
  rw [List.length_map, List.length_zipIdx]

theorem take_number (k n : Nat) (ls : List (List Char)) :
    (number k ls).take n = number k (ls.take n) := by
  rcases Nat.le_total n ls.length with hle | hle
  · have hlength : (number k (ls.take n)).length = n := by simp [hle]
    conv_lhs => rw [← List.take_append_drop n ls, number_append]
    rw [List.take_left' hlength]
  · rw [List.take_of_length_le hle, List.take_of_length_le (by simpa using hle)]

theorem number_of_mem {k : Nat} {ls : List (List Char)} {line : Line} (h : line ∈ number k ls) :
    k < line.number ∧ line.number ≤ k + ls.length := by
  obtain ⟨⟨text, i⟩, hmem, rfl⟩ := List.mem_map.1 h
  obtain ⟨hlow, hhigh, -⟩ := List.mem_zipIdx hmem
  dsimp only
  omega

/-- Lines are numbered by their places. -/
theorem number_eq_of_append {k : Nat} {ls : List (List Char)} {before after : List Line}
    {line : Line} (h : number k ls = before ++ line :: after) :
    line.number = k + before.length + 1 := by
  have hget : (number k ls)[before.length]? = some line := by
    rw [h]
    simp
  unfold number at hget
  rw [List.getElem?_map, List.getElem?_zipIdx, Option.map_map, Option.map_eq_some_iff] at hget
  obtain ⟨text, -, rfl⟩ := hget
  rfl

/-! ### Reading them -/

/-- Reads a plan from its lines. -/
def readLines (ls : List Line) : Except PlanError Plan :=
  match nextLine? ls with
  | none => .error .missingHeader
  | some (header, rest) =>
    match readHeader header with
    | .error e => .error e
    | .ok (id, metadata) =>
      match nextLine? rest with
      | none => .error .missingInvariant
      | some (reference, rest) =>
        match readReference reference.text with
        | .error e => .error e
        | .ok invariant =>
          match readEvents [] 0 rest with
          | .error e => .error e
          | .ok [] => .error .noEvents
          | .ok events =>
            match disorder? events with
            | some line => .error (.outOfOrder line)
            | none => .ok ⟨id, invariant, events.map (·.2), metadata⟩

theorem parse_eq_readLines (s : List Char) : parse s = readLines (numberedLines s) := rfl

/-- Reads the event lines, where the rest of the plan has been read. -/
def readBody (id : String) (metadata : SortedMap String String) (invariant : Reference)
    (ls : List Line) : Except PlanError Plan :=
  match readEvents [] 0 ls with
  | .error e => .error e
  | .ok [] => .error .noEvents
  | .ok events =>
    match disorder? events with
    | some line => .error (.outOfOrder line)
    | none => .ok ⟨id, invariant, events.map (·.2), metadata⟩

/-- The next line that says something, with the lines before it and behind it. -/
structure Next (ls front : List Line) (line : Line) (rest : List Line) : Prop where
  eq : ls = front ++ line :: rest
  skipped : ∀ l ∈ front, isSkippable l.text = true
  kept : isSkippable line.text = false

theorem Next.nextLine?_eq {ls front rest : List Line} {line : Line}
    (h : Next ls front line rest) : nextLine? ls = some (line, rest) := by
  have hdrop : (front ++ line :: rest).dropWhile (isSkippable ·.text) =
      (line :: rest).dropWhile (isSkippable ·.text) := List.dropWhile_append_of_pos h.skipped
  rw [h.eq]
  unfold nextLine?
  rw [hdrop]
  exact nextLine?_cons h.kept rest

theorem exists_next {ls rest : List Line} {line : Line} (h : nextLine? ls = some (line, rest)) :
    ∃ front, Next ls front line rest := by
  have hsplit := List.takeWhile_append_dropWhile (p := (isSkippable ·.text)) (l := ls)
  refine ⟨ls.takeWhile (isSkippable ·.text), ?_,
    fun l hl => List.mem_takeWhile_imp (p := fun l : Line => isSkippable l.text) hl,
    (nextLine?_eq_some h).1⟩
  unfold nextLine? at h
  split at h
  · cases h
  · next first more hdrop =>
    obtain ⟨rfl, rfl⟩ := Prod.mk.inj (Option.some.inj h)
    rw [← hdrop, hsplit]

theorem nextLine?_eq_none_iff {ls : List Line} :
    nextLine? ls = none ↔ ∀ line ∈ ls, isSkippable line.text = true := by
  rw [← List.dropWhile_eq_nil_iff]
  unfold nextLine?
  split
  · next hdrop => simp [hdrop]
  · next hdrop => simp [hdrop]

/-- How some lines are read. -/
inductive Reads (ls : List Line) : Except PlanError Plan → Prop
  | noHeader (h : ∀ line ∈ ls, isSkippable line.text = true) : Reads ls (.error .missingHeader)
  | badHeader {front rest : List Line} {header : Line} {e : PlanError}
      (hheader : Next ls front header rest) (h : readHeader header = .error e) :
      Reads ls (.error e)
  | noReference {front rest : List Line} {header : Line} {id : String}
      {metadata : SortedMap String String} (hheader : Next ls front header rest)
      (hid : readHeader header = .ok (id, metadata))
      (h : ∀ line ∈ rest, isSkippable line.text = true) : Reads ls (.error .missingInvariant)
  | badReference {front rest middle body : List Line} {header reference : Line} {id : String}
      {metadata : SortedMap String String} {e : PlanError} (hheader : Next ls front header rest)
      (hid : readHeader header = .ok (id, metadata)) (hreference : Next rest middle reference body)
      (h : readReference reference.text = .error e) : Reads ls (.error e)
  | body {front rest middle body : List Line} {header reference : Line} {id : String}
      {metadata : SortedMap String String} {invariant : Reference}
      (hheader : Next ls front header rest) (hid : readHeader header = .ok (id, metadata))
      (hreference : Next rest middle reference body)
      (hinvariant : readReference reference.text = .ok invariant) :
      Reads ls (readBody id metadata invariant body)

theorem reads (ls : List Line) : Reads ls (readLines ls) := by
  unfold readLines
  split
  · next hheader => exact .noHeader (nextLine?_eq_none_iff.1 hheader)
  · next header rest hheader =>
    obtain ⟨front, hheader⟩ := exists_next hheader
    split
    · next e herror => exact .badHeader hheader herror
    · next id metadata hid =>
      split
      · next hreference => exact .noReference hheader hid (nextLine?_eq_none_iff.1 hreference)
      · next reference body hreference =>
        obtain ⟨middle, hreference⟩ := exists_next hreference
        split
        · next e herror => exact .badReference hheader hid hreference herror
        · next invariant hinvariant => exact .body hheader hid hreference hinvariant

theorem Reads.eq {ls : List Line} {result : Except PlanError Plan} (h : Reads ls result) :
    readLines ls = result := by
  unfold readLines
  cases h with
  | noHeader h => rw [nextLine?_eq_none_iff.2 h]
  | badHeader hheader h => simp only [hheader.nextLine?_eq, h]
  | noReference hheader hid h =>
      simp only [hheader.nextLine?_eq, hid, nextLine?_eq_none_iff.2 h]
  | badReference hheader hid hreference h =>
      simp only [hheader.nextLine?_eq, hid, hreference.nextLine?_eq, h]
  | body hheader hid hreference hinvariant =>
      simp only [hheader.nextLine?_eq, hid, hreference.nextLine?_eq, hinvariant]
      rfl

theorem nextLine?_cons_of_skippable {line : Line} (h : isSkippable line.text = true)
    (rest : List Line) : nextLine? (line :: rest) = nextLine? rest := by
  have hdrop : (line :: rest).dropWhile (isSkippable ·.text) =
      rest.dropWhile (isSkippable ·.text) := List.dropWhile_cons_of_pos h
  unfold nextLine?
  rw [hdrop]

/-- Before the event lines, the next line that says something is the next one that is read. -/
theorem said_eq {n : Nat} (hn : n < 2) (ls : List Line) :
    said Line.text n ls =
      match nextLine? ls with
      | none => []
      | some (line, rest) => line :: said Line.text (n + 1) rest := by
  induction ls with
  | nil => rfl
  | cons line rest ih =>
      cases hskip : isSkippable line.text with
      | true =>
          rw [nextLine?_cons_of_skippable hskip, ← ih]
          rcases Bool.or_eq_true_iff.1 hskip with hblank | hcomment
          · exact said_cons_blank (List.isEmpty_iff.1 hblank) (Nat.le_of_lt hn) rest
          · exact said_cons_comment hcomment rest
      | false =>
          rw [nextLine?_cons hskip]
          exact said_cons hskip rest

theorem nextLine?_said {n : Nat} (hn : n < 2) (ls : List Line) :
    nextLine? (said Line.text n ls) =
      (nextLine? ls).map fun (line, rest) => (line, said Line.text (n + 1) rest) := by
  rw [said_eq hn]
  cases hnext : nextLine? ls with
  | none => rfl
  | some next => exact nextLine?_cons (nextLine?_eq_some hnext).1 _

section Events

variable {seen : List (Checkpoint × String)} {count : Nat} {line : Line}

theorem readEvents_cons_blank (h : line.text = []) (rest : List Line) :
    readEvents seen count (line :: rest) =
      if count = 0 then readEvents seen count rest else .ok [] := by
  rw [readEvents, if_pos h]

theorem readEvents_cons_comment (h : isComment line.text = true) (rest : List Line) :
    readEvents seen count (line :: rest) = readEvents seen count rest := by
  have hne : line.text ≠ [] := fun hnil => by rw [hnil] at h; cases h
  rw [readEvents, if_neg hne, if_pos h]

/-- A line that says something has to hold an event. -/
theorem readEvents_cons_said (h : isSkippable line.text = false) (rest : List Line) :
    readEvents seen count (line :: rest) =
      match readEvent line with
      | .error e => .error e
      | .ok event =>
        if event.key ∈ seen then .error (.duplicate line.number event.checkpoint event.target)
        else if maxEvents ≤ count then .error (.invalidEvent line.number (.tooMany maxEvents))
        else
          match readEvents (event.key :: seen) (count + 1) rest with
          | .error e => .error e
          | .ok events => .ok ((line.number, event) :: events) := by
  obtain ⟨hne, hcomment⟩ : line.text ≠ [] ∧ isComment line.text = false := by
    simpa [isSkippable] using h
  rw [readEvents, if_neg hne, hcomment]
  rfl

theorem readEvents_said (seen : List (Checkpoint × String)) (count : Nat) (ls : List Line) :
    readEvents seen count (said Line.text (count + 2) ls) = readEvents seen count ls := by
  induction ls generalizing seen count with
  | nil => rfl
  | cons line rest ih =>
      rcases text_cases line.text with hblank | hcomment | hskip
      · rw [readEvents_cons_blank hblank]
        by_cases hcount : count = 0
        · rw [said_cons_blank hblank (by omega), ih, if_pos hcount]
        · rw [said_cons_end hblank (by omega), if_neg hcount]
          rfl
      · rw [said_cons_comment hcomment, ih, readEvents_cons_comment hcomment]
      · have hnext := fun seen => ih seen (count + 1)
        rw [Nat.add_right_comm] at hnext
        rw [said_cons hskip, readEvents_cons_said hskip, readEvents_cons_said hskip]
        simp only [hnext]

/-- Each event is read from one event line, and it comes with the number of this line. -/
theorem forall₂_of_readEvents {ls : List Line} {events : List (Nat × Event)}
    (h : readEvents seen count ls = .ok events) :
    List.Forall₂ (fun line x => x.1 = line.number ∧ readEvent line = .ok x.2)
      (said Line.text (count + 2) ls) events := by
  induction ls generalizing seen count events with
  | nil =>
      obtain rfl := Except.ok.inj h
      exact .nil
  | cons line rest ih =>
      rcases text_cases line.text with hblank | hcomment | hskip
      · rw [readEvents_cons_blank hblank] at h
        split at h
        · rw [said_cons_blank hblank (by omega)]
          exact ih h
        · rw [said_cons_end hblank (by omega), ← Except.ok.inj h]
          exact .nil
      · rw [readEvents_cons_comment hcomment] at h
        rw [said_cons_comment hcomment]
        exact ih h
      · rw [readEvents_cons_said hskip] at h
        rw [said_cons hskip]
        split at h
        · cases h
        · next event hevent =>
          split at h
          · cases h
          · split at h
            · cases h
            · split at h
              · cases h
              · next more hmore =>
                rw [← Except.ok.inj h]
                have hrest := ih hmore
                rw [Nat.add_right_comm] at hrest
                exact .cons ⟨rfl, hevent⟩ hrest

end Events

/-- A plan is read from the lines that say something. -/
theorem readLines_said (ls : List Line) : readLines (said Line.text 0 ls) = readLines ls := by
  unfold readLines
  rw [nextLine?_said Nat.zero_lt_two]
  cases nextLine? ls with
  | none => rfl
  | some next =>
      obtain ⟨header, rest⟩ := next
      dsimp only [Option.map_some]
      rw [nextLine?_said Nat.one_lt_two]
      cases nextLine? rest with
      | none => rfl
      | some next =>
          obtain ⟨reference, rest⟩ := next
          dsimp only [Option.map_some]
          rw [readEvents_said]

theorem readBody_eq_ok_iff {id : String} {metadata : SortedMap String String}
    {invariant : Reference} {ls : List Line} {p : Plan} :
    readBody id metadata invariant ls = .ok p ↔ ∃ events, readEvents [] 0 ls = .ok events ∧
      events ≠ [] ∧ disorder? events = none ∧
      p = ⟨id, invariant, events.map (·.2), metadata⟩ := by
  unfold readBody
  constructor
  · intro h
    split at h
    · cases h
    · cases h
    · next events hne hevents =>
      split at h
      · cases h
      · next horder => exact ⟨events, hevents, hne, horder, (Except.ok.inj h).symm⟩
  · rintro ⟨events, hevents, hne, horder, rfl⟩
    rw [hevents]
    cases events with
    | nil => exact absurd rfl hne
    | cons x rest =>
        dsimp only
        rw [horder]

/-- The event lines stand behind the header and the reference. -/
theorem said_of_next {ls front rest middle body : List Line} {header reference : Line}
    (hheader : Next ls front header rest) (hreference : Next rest middle reference body) :
    said Line.text 0 ls = header :: reference :: said Line.text 2 body := by
  rw [said_eq Nat.zero_lt_two, hheader.nextLine?_eq]
  dsimp only
  rw [said_eq Nat.one_lt_two, hreference.nextLine?_eq]

/-- A plan is its header, its reference and its event lines. -/
theorem readLines_eq_ok_iff {ls : List Line} {p : Plan} :
    readLines ls = .ok p ↔ ∃ header reference body events,
      said Line.text 0 ls = header :: reference :: body ∧
      readHeader header = .ok (p.id, p.metadata) ∧
      readReference reference.text = .ok p.invariant ∧ readEvents [] 0 body = .ok events ∧
      events ≠ [] ∧ disorder? events = none ∧ p.events = events.map (·.2) := by
  constructor
  · intro h
    have hreads := reads ls
    rw [h] at hreads
    generalize hresult : Except.ok p = result at hreads
    cases hreads with
    | noHeader | badHeader | noReference | badReference => cases hresult
    | @body front rest middle body header reference id metadata invariant hheader hid hreference
        hinvariant =>
        obtain ⟨events, hevents, hne, horder, rfl⟩ := readBody_eq_ok_iff.1 hresult.symm
        rw [← readEvents_said] at hevents
        exact ⟨header, reference, _, events, said_of_next hheader hreference, hid, hinvariant,
          hevents, hne, horder, rfl⟩
  · rintro ⟨header, reference, body, events, hsaid, hid, hinvariant, hevents, hne, horder, heq⟩
    have hkept : ∀ line ∈ header :: reference :: body, isSkippable line.text = false :=
      fun line hline => isSkippable_of_mem_said (hsaid ▸ hline)
    rw [← readLines_said, hsaid]
    have hheader : Next (header :: reference :: body) [] header (reference :: body) :=
      ⟨rfl, by simp, hkept header (by simp)⟩
    have hreference : Next (reference :: body) [] reference body :=
      ⟨rfl, by simp, hkept reference (by simp)⟩
    refine (Reads.body hheader hid hreference hinvariant).eq.trans ?_
    obtain ⟨id, invariant, planned, metadata⟩ := p
    obtain rfl : planned = events.map (·.2) := heq
    exact readBody_eq_ok_iff.2 ⟨events, hevents, hne, horder, rfl⟩
end FaultDrill.Plan
