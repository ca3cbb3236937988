import FaultDrill.Proofs.Plan.Outline

/-!
# FaultDrill.Proofs.Plan.FirstFault

**Where a text is faulty.** An error of a plan names a line. If it says that this line is faulty in
itself, then the line is the first faulty one: nothing behind it has a part in the error, and the
lines before it are read without such an error. The loop over the event lines keeps this
(`readEvents_eq_error`), and what is read before the event lines does too (`readLines_eq_error`).

The order of the checkpoints is different: it is judged when all event lines have been read, so
every line has a part in it. That the error of the order still points at a line of the text is due
to the numbers that the events come with (`exists_of_disorder?`).
-/

namespace FaultDrill

open FaultDrill.Text

/-- The line that an error names as the one that is faulty in itself. -/
def PlanError.faulty? : PlanError → Option Nat
  | .unknownAction line _ | .invalidEvent line _ | .duplicate line _ _ => some line
  | _ => none

namespace Plan

/-! ### Errors of single lines -/

theorem faulty?_of_readFault {number : Nat} {kind target : String} {parameter : List Char}
    {e : PlanError} (h : readFault number kind target parameter = .error e) :
    e.faulty? = some number := by
  unfold readFault at h
  split at h
  · split at h
    · cases h
    · cases h
      rfl
  · split at h
    · split at h
      · cases h
        rfl
      · cases h
        rfl
    · split at h
      · obtain ⟨cause, -, rfl⟩ := Outcome.mapError_eq_error.1 h
        rfl
      · cases h
        rfl

theorem faulty?_of_readFields {number : Nat} {checkpoint target kind parameter : List Char}
    {e : PlanError} (h : readFields number checkpoint target kind parameter = .error e) :
    e.faulty? = some number := by
  unfold readFields at h
  split at h
  · cases h
    rfl
  · split at h
    · cases h
      rfl
    · rcases Outcome.bind_eq_error.1 h with hfault | ⟨fault, -, hok⟩
      · exact faulty?_of_readFault hfault
      · cases hok

/-- Whatever is wrong with an event line is wrong with this line. -/
theorem faulty?_of_readEvent {line : Line} {e : PlanError} (h : readEvent line = .error e) :
    e.faulty? = some line.number := by
  unfold readEvent at h
  split at h
  · exact faulty?_of_readFields h
  · exact faulty?_of_readFields h
  · cases h
    rfl

/-- A line is no header at all, or something is wrong with this line. -/
theorem faulty?_of_readHeader {line : Line} {e : PlanError} (h : readHeader line = .error e) :
    e = .missingHeader ∨ e.faulty? = some line.number := by
  unfold readHeader at h
  split at h
  · split at h
    · rcases Outcome.bind_eq_error.1 h with hnotes | ⟨notes, -, hok⟩
      · obtain ⟨token, -, hnote⟩ := Outcome.exists_of_mapM_eq_error hnotes
        unfold readNote at hnote
        split at hnote
        · cases hnote
        · cases hnote
          exact .inr rfl
      · cases hok
    · cases h
      exact .inl rfl
  · cases h
    exact .inl rfl

theorem faulty?_of_readReference {s : List Char} {e : PlanError} (h : readReference s = .error e) :
    e.faulty? = none := by
  obtain ⟨cause, -, rfl⟩ := Outcome.mapError_eq_error.1 h
  cases cause with
  | empty | comparison | missingName | missingStrategy | unknownStrategy | manyWords => rfl

/-! ### The loop over the event lines -/

/-- A line that says something is faulty, whatever follows it, or it holds a new event. -/
theorem readEvents_cons_cases {seen : List (Checkpoint × String)} {count : Nat} {line : Line}
    (hskip : isSkippable line.text = false) :
    (∃ e : PlanError, e.faulty? = some line.number ∧
      ∀ rest, readEvents seen count (line :: rest) = .error e) ∨
    ∃ event : Event, ∀ rest, readEvents seen count (line :: rest) =
      match readEvents (event.key :: seen) (count + 1) rest with
      | .error e => .error e
      | .ok events => .ok ((line.number, event) :: events) := by
  have hstep : ∀ rest, readEvents seen count (line :: rest) = _ := readEvents_cons_said hskip
  cases hevent : readEvent line with
  | error e =>
      refine .inl ⟨e, faulty?_of_readEvent hevent, ?_⟩
      intro rest
      rw [hstep, hevent]
  | ok event =>
      by_cases hseen : event.key ∈ seen
      · refine .inl ⟨.duplicate line.number event.checkpoint event.target, rfl, ?_⟩
        intro rest
        rw [hstep, hevent]
        exact if_pos hseen
      · by_cases hfull : maxEvents ≤ count
        · refine .inl ⟨.invalidEvent line.number (.tooMany maxEvents), rfl, ?_⟩
          intro rest
          rw [hstep, hevent]
          exact (if_neg hseen).trans (if_pos hfull)
        · refine .inr ⟨event, ?_⟩
          intro rest
          rw [hstep, hevent]
          exact (if_neg hseen).trans (if_neg hfull)

/-- The first faulty event line decides, and no line behind it. -/
theorem readEvents_eq_error {seen : List (Checkpoint × String)} {count : Nat} {ls : List Line}
    {e : PlanError} (h : readEvents seen count ls = .error e) :
    ∃ before line after, ls = before ++ line :: after ∧ e.faulty? = some line.number ∧
      (∀ rest, readEvents seen count (before ++ line :: rest) = .error e) ∧
      ∃ events, readEvents seen count before = .ok events := by
  induction ls generalizing seen count with
  | nil => cases h
  | cons line rest ih =>
      rcases text_cases line.text with hblank | hcomment | hskip
      · rw [readEvents_cons_blank hblank] at h
        split at h
        · next hcount =>
          obtain ⟨before, faulty, after, rfl, hfaulty, hsame, events, hevents⟩ := ih h
          refine ⟨line :: before, faulty, after, rfl, hfaulty, fun more => ?_, events, ?_⟩
          · rw [List.cons_append, readEvents_cons_blank hblank, if_pos hcount, hsame]
          · rw [readEvents_cons_blank hblank, if_pos hcount, hevents]
        · cases h
      · rw [readEvents_cons_comment hcomment] at h
        obtain ⟨before, faulty, after, rfl, hfaulty, hsame, events, hevents⟩ := ih h
        refine ⟨line :: before, faulty, after, rfl, hfaulty, fun more => ?_, events, ?_⟩
        · rw [List.cons_append, readEvents_cons_comment hcomment, hsame]
        · rw [readEvents_cons_comment hcomment, hevents]
      · rcases readEvents_cons_cases hskip with ⟨cause, hfaulty, hsame⟩ | ⟨event, hstep⟩
        · rw [hsame] at h
          obtain rfl := Except.error.inj h
          exact ⟨[], line, rest, rfl, hfaulty, hsame, [], rfl⟩
        · rw [hstep] at h
          split at h
          · next cause hmore =>
            obtain rfl := Except.error.inj h
            obtain ⟨before, faulty, after, rfl, hfaulty, hsame, events, hevents⟩ := ih hmore
            refine ⟨line :: before, faulty, after, rfl, hfaulty, fun more => ?_,
              (line.number, event) :: events, ?_⟩
            · rw [List.cons_append, hstep, hsame]
            · rw [hstep, hevents]
          · cases h

/-! ### Numbers that go down -/

/-- Numbers of lines first go down at a line. -/
def FirstDescent (marked : List (Line × UInt64)) (line : Line) : Prop :=
  ∃ earlier last number later, marked = earlier ++ last :: (line, number) :: later ∧
    number < last.2 ∧ ((earlier ++ [last]).map Prod.snd).IsChain (· ≤ ·)

theorem exists_firstDescent {marked : List (Line × UInt64)} {n : Nat}
    (h : firstDescent? (marked.map fun x => (x.1.number, x.2)) = some n) :
    ∃ line, line.number = n ∧ FirstDescent marked line := by
  induction marked with
  | nil => cases h
  | cons x rest ih =>
      cases rest with
      | nil => cases h
      | cons y more =>
          rw [List.map_cons, List.map_cons, firstDescent?] at h
          split at h
          · next hlt => exact ⟨y.1, Option.some.inj h, [], x, y.2, more, rfl, hlt, by simp⟩
          · next hge =>
            obtain ⟨line, hline, earlier, last, number, later, heq, hlt, hchain⟩ := ih h
            refine ⟨line, hline, x :: earlier, last, number, later, ?_, hlt, ?_⟩
            · rw [heq, List.cons_append]
            · obtain ⟨front, hfront⟩ : ∃ front, earlier ++ [last] = y :: front := by
                cases earlier with
                | nil => exact ⟨[], by rw [(List.cons.inj heq).1]; rfl⟩
                | cons z earlier => exact ⟨_, by rw [(List.cons.inj heq).1]; rfl⟩
              rw [hfront] at hchain
              rw [List.cons_append, hfront, List.map_cons, List.map_cons, List.isChain_cons_cons]
              exact ⟨UInt64.not_lt.1 hge, hchain⟩

/-- Some lines hold events, and the checkpoints of these are numbered. -/
def Numbered (ls : List Line) (marked : List (Line × UInt64)) : Prop :=
  marked.map Prod.fst = ls ∧
    ∀ x ∈ marked, ∃ e, readEvent x.1 = .ok e ∧ e.checkpoint.number? = some x.2

theorem exists_numbered {ls : List Line} {events : List (Nat × Event)}
    (h : List.Forall₂ (fun line x => x.1 = line.number ∧ readEvent line = .ok x.2) ls events)
    {numbers : List (Nat × UInt64)} (hnumbers : events.mapM number? = some numbers) :
    ∃ marked, Numbered ls marked ∧ numbers = marked.map fun x => (x.1.number, x.2) := by
  induction h generalizing numbers with
  | nil =>
      obtain rfl := Option.some.inj hnumbers
      exact ⟨[], ⟨rfl, by simp⟩, rfl⟩
  | @cons line x ls events hline _ ih =>
      obtain ⟨hnumber, hevent⟩ := hline
      rw [List.mapM_cons] at hnumbers
      obtain ⟨first, hfirst, hnumbers⟩ := Option.bind_eq_some_iff.1 hnumbers
      obtain ⟨more, hmore, hnumbers⟩ := Option.bind_eq_some_iff.1 hnumbers
      obtain rfl := Option.some.inj hnumbers
      obtain ⟨checkpoint, hcheckpoint, rfl⟩ := Option.map_eq_some_iff.1 hfirst
      obtain ⟨marked, ⟨hlines, hmarked⟩, rfl⟩ := ih hmore
      refine ⟨(line, checkpoint) :: marked, ⟨by rw [List.map_cons, hlines], ?_⟩,
        by rw [List.map_cons, hnumber]⟩
      exact List.forall_mem_cons.2 ⟨⟨x.2, hevent, hcheckpoint⟩, hmarked⟩

/-- Numbers are in disorder where the checkpoints of the event lines first go down. -/
theorem exists_of_disorder? {ls : List Line} {events : List (Nat × Event)} {n : Nat}
    (hevents : readEvents [] 0 ls = .ok events) (h : disorder? events = some n) :
    ∃ marked line, Numbered (said Line.text 2 ls) marked ∧ line.number = n ∧
      FirstDescent marked line := by
  rw [disorder?_eq] at h
  obtain ⟨numbers, hnumbers, hdescent⟩ := Option.bind_eq_some_iff.1 h
  obtain ⟨marked, hmarked, rfl⟩ := exists_numbered (forall₂_of_readEvents hevents) hnumbers
  obtain ⟨line, hline, hfirst⟩ := exists_firstDescent hdescent
  exact ⟨marked, line, hmarked, hline, hfirst⟩

/-! ### All lines -/

/-- If every event line holds an event, then there is none, or their numbers go down. -/
theorem readBody_eq_error {id : String} {metadata : SortedMap String String}
    {invariant : Reference} {ls : List Line} {e : PlanError}
    (h : readBody id metadata invariant ls = .error e) :
    readEvents [] 0 ls = .error e ∨ e = .noEvents ∨
      ∃ events n, readEvents [] 0 ls = .ok events ∧ disorder? events = some n ∧
        e = .outOfOrder n := by
  unfold readBody at h
  split at h
  · next cause hevents =>
    obtain rfl := Except.error.inj h
    exact .inl hevents
  · exact .inr (.inl (Except.error.inj h).symm)
  · next events _ hevents =>
    split at h
    · next n hdisorder =>
      exact .inr (.inr ⟨events, n, hevents, hdisorder, (Except.error.inj h).symm⟩)
    · cases h

theorem faulty?_of_readBody {id : String} {metadata : SortedMap String String}
    {invariant : Reference} {ls : List Line} {e : PlanError}
    (h : readBody id metadata invariant ls = .error e) :
    readEvents [] 0 ls = .error e ∨ e.faulty? = none := by
  rcases readBody_eq_error h with hevents | rfl | ⟨events, n, -, -, rfl⟩
  · exact .inl hevents
  · exact .inr rfl
  · exact .inr rfl

/-- Of the lines behind the invariant, too, the first faulty one decides. -/
theorem readBody_eq_faulty {id : String} {metadata : SortedMap String String}
    {invariant : Reference} {ls : List Line} {e : PlanError} {n : Nat}
    (h : readBody id metadata invariant ls = .error e) (hn : e.faulty? = some n) :
    ∃ before line after, ls = before ++ line :: after ∧ line.number = n ∧
      (∀ rest, readBody id metadata invariant (before ++ line :: rest) = .error e) ∧
      ∀ e', readBody id metadata invariant before = .error e' → e'.faulty? = none := by
  rcases faulty?_of_readBody h with hevents | hnone
  · obtain ⟨before, line, after, rfl, hfaulty, hsame, read, hread⟩ := readEvents_eq_error hevents
    refine ⟨before, line, after, rfl, Option.some.inj (hfaulty.symm.trans hn), fun rest => ?_,
      fun e' he' => ?_⟩
    · rw [readBody, hsame]
    · rcases faulty?_of_readBody he' with herror | hnone
      · rw [hread] at herror
        cases herror
      · exact hnone
  · rw [hnone] at hn
    cases hn

/-- The first faulty line decides, and no line behind it. -/
theorem readLines_eq_error {ls : List Line} {e : PlanError} {n : Nat}
    (h : readLines ls = .error e) (hn : e.faulty? = some n) :
    ∃ before line after, ls = before ++ line :: after ∧ line.number = n ∧
      (∀ rest, readLines (before ++ line :: rest) = .error e) ∧
      ∀ e', readLines before = .error e' → e'.faulty? = none := by
  have hreads := reads ls
  rw [h] at hreads
  generalize hresult : Except.error e = result at hreads
  cases hreads with
  | noHeader =>
      cases hresult
      cases hn
  | @badHeader front rest header _ hheader herror =>
      cases hresult
      rcases faulty?_of_readHeader herror with rfl | hfaulty
      · cases hn
      · obtain rfl : header.number = n := Option.some.inj (hfaulty.symm.trans hn)
        refine ⟨front, header, rest, hheader.eq, rfl, fun more => ?_, fun e' he' => ?_⟩
        · exact (Reads.badHeader ⟨rfl, hheader.skipped, hheader.kept⟩ herror).eq
        · rw [(Reads.noHeader hheader.skipped).eq] at he'
          cases he'
          rfl
  | noReference =>
      cases hresult
      cases hn
  | badReference hheader hid hreference herror =>
      cases hresult
      rw [faulty?_of_readReference herror] at hn
      cases hn
  | @body front rest middle body header reference id metadata invariant hheader hid hreference
      hinvariant =>
      obtain ⟨events, line, after, rfl, hline, hsame, hbefore⟩ := readBody_eq_faulty hresult.symm hn
      -- whatever the event lines are, what comes before them is read in the same way
      have hstart : ∀ ls, readLines (front ++ header :: (middle ++ reference :: ls)) =
          readBody id metadata invariant ls := fun ls =>
        (Reads.body ⟨rfl, hheader.skipped, hheader.kept⟩ hid
          ⟨rfl, hreference.skipped, hreference.kept⟩ hinvariant).eq
      refine ⟨front ++ header :: (middle ++ reference :: events), line, after, ?_, hline,
        fun more => ?_, fun e' he' => ?_⟩
      · rw [hheader.eq, hreference.eq]
        simp
      · have hlist : front ++ header :: (middle ++ reference :: events) ++ line :: more =
            front ++ header :: (middle ++ reference :: (events ++ line :: more)) := by simp
        rw [hlist, hstart, hsame, ← hresult]
      · rw [hstart] at he'
        exact hbefore e' he'

/-- Only numbers that go down are an error of the order. -/
theorem readLines_eq_outOfOrder {ls : List Line} {n : Nat}
    (h : readLines ls = .error (.outOfOrder n)) :
    ∃ marked line, Numbered (eventLines ls) marked ∧ line.number = n ∧
      FirstDescent marked line := by
  have hreads := reads ls
  rw [h] at hreads
  generalize hresult : Except.error (PlanError.outOfOrder n) = result at hreads
  cases hreads with
  | noHeader => cases hresult
  | badHeader _ herror =>
      cases hresult
      rcases faulty?_of_readHeader herror with hmissing | hfaulty
      · cases hmissing
      · cases hfaulty
  | noReference => cases hresult
  | badReference _ _ _ herror =>
      cases hresult
      obtain ⟨cause, -, hcause⟩ := Outcome.mapError_eq_error.1 herror
      cases cause with
      | empty | comparison | missingName | missingStrategy | unknownStrategy | manyWords =>
          cases hcause
  | body hheader _ hreference _ =>
      rw [eventLines, said_of_next hheader hreference]
      rcases readBody_eq_error hresult.symm with hevents | hnone | ⟨events, m, hevents, hdis, heq⟩
      · obtain ⟨before, line, after, -, hfaulty, -⟩ := readEvents_eq_error hevents
        cases hfaulty
      · cases hnone
      · obtain rfl := PlanError.outOfOrder.inj heq
        exact exists_of_disorder? hevents hdis

/-! ### Texts -/

/-- A numbered line stands in the place of its number. -/
theorem getElem?_of_mem_numberedLines {s : List Char} {line : Line} (h : line ∈ numberedLines s) :
    (numberedLines s)[line.number - 1]? = some line := by
  obtain ⟨before, after, heq⟩ := List.append_of_mem h
  have hnumber : line.number = 0 + before.length + 1 := number_eq_of_append heq
  have hplace : line.number - 1 = before.length := by omega
  rw [hplace, heq]
  simp

/-- **Errors point at the first bad line.** If a line is faulty in itself, then every text with the
same lines up to this one is refused with the same error, and the text before this line has no
faulty line. If the checkpoints are in disorder, then all of them are numbered, and the error points
at the first event line whose number is smaller than that of the event line before it. -/
theorem error_of_parse {s : List Char} {e : PlanError} (h : parse s = .error e) :
    (∀ n, e.faulty? = some n → 1 ≤ n ∧ n ≤ (lines s).length ∧
      (∀ t, (lines t).take n = (lines s).take n → parse t = .error e) ∧
      ∀ e', parse (firstLines (n - 1) s) = .error e' → e'.faulty? = none) ∧
    ∀ n, e = .outOfOrder n → ∃ marked line, Numbered (eventLines (numberedLines s)) marked ∧
      (numberedLines s)[n - 1]? = some line ∧ FirstDescent marked line := by
  refine ⟨fun n hn => ?_, fun n hn => ?_⟩
  · obtain ⟨before, line, after, hlines, hnumber, hsame, hbefore⟩ := readLines_eq_error h hn
    have hplace : n = before.length + 1 := by
      have heq : line.number = 0 + before.length + 1 := number_eq_of_append hlines
      omega
    have hlength : before.length + 1 ≤ (lines s).length := by
      have hall := congrArg List.length hlines
      rw [numberedLines_eq, length_number, List.length_append, List.length_cons] at hall
      omega
    refine ⟨by omega, by omega, fun t ht => ?_, fun e' he' => hbefore e' ?_⟩
    · have htake : (numberedLines t).take n = before ++ [line] := by
        rw [numberedLines_eq, take_number, ht, ← take_number, ← numberedLines_eq, hlines, hplace,
          List.append_cons, List.take_left' (by simp)]
      have hsplit : numberedLines t = before ++ line :: (numberedLines t).drop n := by
        conv_lhs => rw [← List.take_append_drop n (numberedLines t), htake]
        simp
      rw [parse_eq_readLines, hsplit, hsame]
    · have hcut : numberedLines (firstLines (n - 1) s) = before := by
        rw [numberedLines_eq, lines_firstLines, ← take_number, ← numberedLines_eq, hlines, hplace,
          Nat.add_sub_cancel, List.take_left]
      rw [← hcut]
      exact he'
  · subst hn
    obtain ⟨marked, line, hmarked, rfl, hfirst⟩ := readLines_eq_outOfOrder h
    refine ⟨marked, line, hmarked, getElem?_of_mem_numberedLines ?_, hfirst⟩
    obtain ⟨earlier, last, number, later, heq, -⟩ := hfirst
    have hmem : line ∈ eventLines (numberedLines s) := by
      rw [← hmarked.1, heq]
      simp
    exact (said_sublist 0 _).subset (List.mem_of_mem_drop hmem)

example : parse "faultline-plan p\nrows: const n 3\n2 | a | kill\n# so\n1 | a | kill".toList =
    .error (.outOfOrder 5) := by decide +kernel

/-- The third line is faulty, whatever follows it, and the fourth one is not looked at. -/
theorem error_of_parse_unknown :
    parse "faultline-plan p\nrows: const n 3\n1 | a | explode\n2 | b".toList =
        .error (.unknownAction 3 "explode") ∧
      parse "faultline-plan p\nrows: const n 3\n1 | a | explode".toList =
        .error (.unknownAction 3 "explode") := by
  have herror : parse "faultline-plan p\nrows: const n 3\n1 | a | explode\n2 | b".toList =
      .error (.unknownAction 3 "explode") := by decide +kernel
  exact ⟨herror, ((error_of_parse herror).1 3 rfl).2.2.1 _ (by decide +kernel)⟩

end Plan

end FaultDrill
