import FaultDrill.Proofs.Channel.Connection
import FaultDrill.Proofs.Text.Decimal

/-!
# FaultDrill.Proofs.Channel.Command

**The line protocol** (`parse_iff_written`). `Written line c` says in which lines a command is
written: the letters of the verb in either case, gaps of any blanks, ids and values that may hold
blanks inside, names that hold none, and the number of a process with leading zeros or a plus sign
if one likes. A line is read as a command exactly if the command is written in it, and every other
line is answered with an error and reports nothing.

The reader cuts a line at its first blank. Where that is follows from the shape of the line
(`parse_gap`), and what stands behind the verb is read on its own (`readState_eq_ok`,
`readTarget_eq_ok`). A line without a blank can only be a ping (`parse_alone`).
-/

namespace FaultDrill

open FaultDrill.Text

namespace Command

/-- The lines in which a command is written. -/
inductive Written : List Char → Command → Prop
  | checkpoint {verb gap id : List Char} (hverb : lower verb = "checkpoint".toList)
      (hgap : IsGap gap) (hid : IsSolid id) :
      Written (verb ++ (gap ++ id)) (.report (.checkpoint (String.ofList id)))
  | state {verb gap var gap' value : List Char} (hverb : lower verb = "state".toList)
      (hgap : IsGap gap) (hvar : IsWord var) (hgap' : IsGap gap') (hvalue : IsSolid value) :
      Written (verb ++ (gap ++ (var ++ (gap' ++ value))))
        (.report (.state (String.ofList var) (String.ofList value)))
  | target {verb gap name gap' number : List Char} {pid : UInt32}
      (hverb : lower verb = "target".toList) (hgap : IsGap gap) (hname : IsWord name)
      (hgap' : IsGap gap') (hnumber : Decimal.Numeral number pid.toNat) (hpid : pid ≠ 0) :
      Written (verb ++ (gap ++ (name ++ (gap' ++ number))))
        (.report (.target (String.ofList name) pid))
  | ping {verb : List Char} (hverb : lower verb = "ping".toList) : Written verb .ping
  -- what follows the verb of a ping is not looked at
  | pingWith {verb gap rest : List Char} (hverb : lower verb = "ping".toList)
      (hgap : IsGap gap) (hrest : IsSolid rest) : Written (verb ++ (gap ++ rest)) .ping

/-! ### Behind the verb -/

theorem readState_eq_ok {rest : List Char} (hrest : IsSolid rest) {c : Command} :
    readState rest = .ok c ↔ ∃ var gap value, rest = var ++ (gap ++ value) ∧
      IsWord var ∧ IsGap gap ∧ IsSolid value ∧
        c = .report (.state (String.ofList var) (String.ofList value)) := by
  constructor
  · intro h
    unfold readState at h
    split at h
    · next var after hcut =>
      obtain ⟨gap, hsplit, hvar, hgap, hvalue⟩ :=
        gap_of_cutWhere? (trim_eq_self_iff.1 hrest.trimmed) hcut
      exact ⟨var, gap, trim after, hsplit, hvar, hgap, hvalue, (Except.ok.inj h).symm⟩
    · cases h
  · rintro ⟨var, gap, value, rfl, hvar, hgap, hvalue, rfl⟩
    obtain ⟨after, hcut, htrim⟩ := cutWhere?_gap hvar.noBlank hgap hvalue.trimmed
    unfold readState
    rw [hcut]
    simp only [htrim]

theorem pid?_eq_some_iff {s : List Char} {pid : UInt32} :
    pid? s = some pid ↔ Decimal.Numeral s pid.toNat ∧ pid ≠ 0 := by
  have hread : Decimal.read32? s = some pid ↔ Decimal.Numeral s pid.toNat := by
    unfold Decimal.read32?
    rw [Option.map_eq_some_iff]
    constructor
    · rintro ⟨n, hn, rfl⟩
      obtain ⟨hnumeral, hlt⟩ := Decimal.read?_eq_some_iff.1 hn
      rwa [UInt32.toNat_ofNat_of_lt' hlt]
    · intro h
      exact ⟨pid.toNat, Decimal.read?_eq_some_iff.2 ⟨h, pid.toNat_lt⟩, UInt32.ofNat_toNat⟩
  rw [← hread]
  unfold pid?
  cases Decimal.read32? s with
  | none => simp
  | some n =>
      by_cases hn : n = 0
      · simp [hn, eq_comm]
      · simp only [if_neg hn, Option.some.injEq]
        exact ⟨fun h => ⟨h, h ▸ hn⟩, And.left⟩

theorem words_eq_pair_iff {rest name number : List Char} (hrest : IsSolid rest) :
    words rest = [name, number] ↔
      ∃ gap, rest = name ++ (gap ++ number) ∧ IsWord name ∧ IsGap gap ∧ IsWord number := by
  constructor
  · intro h
    have hblank : hasBlank rest = true := by
      by_contra hfree
      rw [words_of_hasBlank hrest.ne_nil (by simpa using hfree)] at h
      cases h
    obtain ⟨w, after, hcut⟩ := exists_cutWhere? hblank
    obtain ⟨gap, hsplit, hw, hgap, hafter⟩ :=
      gap_of_cutWhere? (trim_eq_self_iff.1 hrest.trimmed) hcut
    rw [hsplit, words_append_gap hw hgap] at h
    obtain ⟨rfl, hnumber⟩ := List.cons.inj h
    -- with a blank behind the name there would be a third word
    have hone : hasBlank (trim after) = false := by
      by_contra hmore
      have hlength := one_lt_length_words (isTrimmed_trim after) (by simpa using hmore)
      rw [hnumber] at hlength
      exact absurd hlength (by simp)
    rw [words_of_hasBlank hafter.ne_nil hone] at hnumber
    obtain ⟨rfl, -⟩ := List.cons.inj hnumber
    exact ⟨gap, hsplit, hw, hgap, hafter.ne_nil, hone⟩
  · rintro ⟨gap, rfl, hname, hgap, hnumber⟩
    rw [words_append_gap hname hgap, words_of_hasBlank hnumber.ne_nil hnumber.noBlank]

theorem readTarget_eq_ok {rest : List Char} (hrest : IsSolid rest) {c : Command} :
    readTarget rest = .ok c ↔ ∃ name gap number pid, rest = name ++ (gap ++ number) ∧
      IsWord name ∧ IsGap gap ∧ Decimal.Numeral number pid.toNat ∧ pid ≠ 0 ∧
        c = .report (.target (String.ofList name) pid) := by
  constructor
  · intro h
    unfold readTarget at h
    split at h
    · next name number hwords =>
      obtain ⟨gap, hsplit, hname, hgap, -⟩ := (words_eq_pair_iff hrest).1 hwords
      split at h
      · next pid hpid =>
        obtain ⟨hnumber, hne⟩ := pid?_eq_some_iff.1 hpid
        exact ⟨name, gap, number, pid, hsplit, hname, hgap, hnumber, hne, (Except.ok.inj h).symm⟩
      · cases h
    · cases h
  · rintro ⟨name, gap, number, pid, hsplit, hname, hgap, hnumber, hne, rfl⟩
    have hwords := (words_eq_pair_iff hrest).2 ⟨gap, hsplit, hname, hgap, hnumber.isWord⟩
    unfold readTarget
    rw [hwords]
    simp only [pid?_eq_some_iff.2 ⟨hnumber, hne⟩]

/-! ### The whole line -/

theorem toList_of_lower {verb : List Char} {word : String} (h : String.ofList (lower verb) = word) :
    lower verb = word.toList := by
  rw [← h, String.toList_ofList]

/-- The letters of a verb can be in either case, but it is a word in any case. -/
theorem isWord_verb {verb word : List Char} (h : lower verb = word) (hword : IsWord word) :
    IsWord verb := by
  refine ⟨?_, by rw [← hasBlank_lower, h, hword.noBlank]⟩
  rintro rfl
  exact hword.ne_nil h.symm

/-- A line with a gap is cut behind its verb. -/
theorem parse_gap {verb gap rest : List Char} (hverb : IsWord verb) (hgap : IsGap gap)
    (hrest : IsSolid rest) {word : String} (hword : lower verb = word.toList) :
    parse (verb ++ (gap ++ rest)) = match word with
      | "checkpoint" => .ok (.report (.checkpoint (String.ofList rest)))
      | "state" => readState rest
      | "target" => readTarget rest
      | "ping" => .ok .ping
      | other => .error (.unknown other) := by
  obtain ⟨after, hcut, htrim⟩ := cutWhere?_gap hverb.noBlank hgap hrest.trimmed
  have hne : rest.isEmpty = false := by simpa using hrest.ne_nil
  unfold parse
  rw [hcut]
  simp only [htrim, hword, String.ofList_toList, hne]
  split <;> simp_all

/-- A line without a gap says nothing but a ping. -/
theorem parse_alone {verb : List Char} (hverb : hasBlank verb = false) {c : Command} :
    parse verb = .ok c ↔ lower verb = "ping".toList ∧ c = .ping := by
  have hcut : cutWhere? isBlank verb = none := by
    unfold cutWhere?
    rw [List.dropWhile_eq_nil_iff.2 (by simpa [hasBlank] using hverb)]
  unfold parse
  rw [hcut]
  dsimp only
  constructor
  · intro h
    split at h
    · cases h
    · cases h
    · cases h
    · next hword => exact ⟨toList_of_lower hword, (Except.ok.inj h).symm⟩
    · cases h
  · rintro ⟨hword, rfl⟩
    rw [hword]
    rfl

section Line

variable {line : List Char} {c : Command}

theorem isSolid_gap {a b : List Char} (ha : IsWord a) (gap : List Char) (hb : IsSolid b) :
    IsSolid (a ++ (gap ++ b)) := by
  rw [← List.append_assoc]
  exact ha.solid.append gap hb

theorem isTrimmed_of_written (h : Written line c) : IsTrimmed line := by
  refine trim_eq_self_iff.1 (IsSolid.trimmed ?_)
  cases h with
  | checkpoint hverb _ hid => exact isSolid_gap (isWord_verb hverb (by decide)) _ hid
  | state hverb _ hvar _ hvalue =>
      exact isSolid_gap (isWord_verb hverb (by decide)) _ (isSolid_gap hvar _ hvalue)
  | target hverb _ hname _ hnumber =>
      exact isSolid_gap (isWord_verb hverb (by decide)) _
        (isSolid_gap hname _ hnumber.isWord.solid)
  | ping hverb => exact (isWord_verb hverb (by decide)).solid
  | pingWith hverb _ hrest => exact isSolid_gap (isWord_verb hverb (by decide)) _ hrest

theorem parse_of_written (h : Written line c) : parse line = .ok c := by
  cases h with
  | checkpoint hverb hgap hid =>
      exact parse_gap (isWord_verb hverb (by decide)) hgap hid hverb
  | @state verb gap var gap' value hverb hgap hvar hgap' hvalue =>
      have hrest := isSolid_gap hvar gap' hvalue
      rw [parse_gap (isWord_verb hverb (by decide)) hgap hrest hverb]
      exact (readState_eq_ok hrest).2 ⟨var, gap', value, rfl, hvar, hgap', hvalue, rfl⟩
  | @target verb gap name gap' number pid hverb hgap hname hgap' hnumber hpid =>
      have hrest := isSolid_gap hname gap' hnumber.isWord.solid
      rw [parse_gap (isWord_verb hverb (by decide)) hgap hrest hverb]
      exact (readTarget_eq_ok hrest).2
        ⟨name, gap', number, pid, rfl, hname, hgap', hnumber, hpid, rfl⟩
  | ping hverb => exact (parse_alone (isWord_verb hverb (by decide)).noBlank).2 ⟨hverb, rfl⟩
  | pingWith hverb hgap hrest =>
      exact parse_gap (isWord_verb hverb (by decide)) hgap hrest hverb

theorem written_of_parse (hline : IsTrimmed line) (h : parse line = .ok c) : Written line c := by
  cases hcut : cutWhere? isBlank line with
  | none =>
      have hverb : hasBlank line = false := by
        by_contra hblank
        obtain ⟨verb, after, hsome⟩ := exists_cutWhere? (Bool.not_eq_false _ ▸ hblank)
        rw [hcut] at hsome
        cases hsome
      obtain ⟨hword, rfl⟩ := (parse_alone hverb).1 h
      exact .ping hword
  | some cut =>
      obtain ⟨verb, after⟩ := cut
      obtain ⟨gap, rfl, hverb, hgap, hrest⟩ := gap_of_cutWhere? hline hcut
      obtain ⟨word, hword⟩ : ∃ word : String, lower verb = word.toList := ⟨_, toList_of_lower rfl⟩
      rw [parse_gap hverb hgap hrest hword] at h
      split at h
      · next hword =>
        obtain rfl := Except.ok.inj h
        exact .checkpoint hword hgap hrest
      · next hword =>
        obtain ⟨var, gap', value, hsplit, hvar, hgap', hvalue, rfl⟩ := (readState_eq_ok hrest).1 h
        rw [hsplit]
        exact .state hword hgap hvar hgap' hvalue
      · next hword =>
        obtain ⟨name, gap', number, pid, hsplit, hname, hgap', hnumber, hpid, rfl⟩ :=
          (readTarget_eq_ok hrest).1 h
        rw [hsplit]
        exact .target hword hgap hname hgap' hnumber hpid
      · next hword =>
        obtain rfl := Except.ok.inj h
        exact .pingWith hword hgap hrest
      · cases h

/-- A command that can be written is written in its own text. -/
theorem written_text (h : Written line c) : Written c.text.toList c := by
  have hspace : IsGap [' '] := ⟨by simp, List.forall_mem_singleton.2 (by decide)⟩
  cases h with
  | @checkpoint verb gap id hverb hgap hid =>
      have h : Written ("checkpoint".toList ++ ([' '] ++ id)) _ :=
        .checkpoint rfl hspace hid
      simpa [text] using h
  | @state verb gap var gap' value hverb hgap hvar hgap' hvalue =>
      have h : Written ("state".toList ++ ([' '] ++ (var ++ ([' '] ++ value)))) _ :=
        .state rfl hspace hvar hspace hvalue
      simpa [text] using h
  | @target verb gap name gap' number pid hverb hgap hname hgap' hnumber hpid =>
      have h : Written
          ("target".toList ++ ([' '] ++ (name ++ ([' '] ++ Decimal.write pid.toNat)))) _ :=
        .target rfl hspace hname hspace (Decimal.numeral_write pid.toNat) hpid
      rw [← Decimal.toList_toString] at h
      simpa [text] using h
  | ping => exact .ping rfl
  | pingWith => exact .ping rfl

end Line

/-- **The line protocol.** A line without blanks at its ends is read as a command exactly if the
command is written in it; the text of a command is one of the lines in which it is written; and of
the lines that come over a connection, each is read as what is written in it, or it is answered with
an error and reports nothing, because no command is written in it. -/
theorem parse_iff_written :
    (∀ line c, Written line c ↔ IsTrimmed line ∧ parse line = .ok c) ∧
    (∀ line c, Written line c → Written c.text.toList c) ∧
    ∀ limit input, ∀ e ∈ (Connection.converse limit input).1,
      (∃ c, Written e.line.toList c ∧ e.reading = .ok c) ∨
      (∀ c, ¬ Written e.line.toList c) ∧
        ∃ fault, e.reading = .error fault ∧ e.report? = none ∧
          e.reply = s!"error {fault.message}" := by
  have hiff : ∀ line c, Written line c ↔ IsTrimmed line ∧ parse line = .ok c := fun line c =>
    ⟨fun h => ⟨isTrimmed_of_written h, parse_of_written h⟩, fun h => written_of_parse h.1 h.2⟩
  refine ⟨hiff, fun _ _ => written_text, fun limit input e he => ?_⟩
  obtain ⟨htrimmed, hreading⟩ := Connection.mem_converse he
  cases hparse : parse e.line.toList with
  | ok c => exact .inl ⟨c, (hiff _ c).2 ⟨htrimmed, hparse⟩, hreading.trans hparse⟩
  | error fault =>
      have herror : e.reading = .error fault := hreading.trans hparse
      refine .inr ⟨fun c hc => ?_, fault, herror, ?_, ?_⟩
      · rw [((hiff _ c).1 hc).2] at hparse
        cases hparse
      · unfold Connection.Exchange.report?
        rw [herror]
      · unfold Connection.Exchange.reply
        rw [herror]

theorem parse_iff_written_rows :
    Written "STATE rows  100 rows".toList (.report (.state "rows" "100 rows")) ∧
    Written "state rows 100 rows".toList (.report (.state "rows" "100 rows")) ∧
    ∃ e ∈ (Connection.converse 64 (Utf8.encode "launch missiles\n")).1,
      e.line = "launch missiles" ∧ (∀ c, ¬ Written e.line.toList c) ∧ e.report? = none := by
  have hrows : Written "STATE rows  100 rows".toList (.report (.state "rows" "100 rows")) :=
    (parse_iff_written.1 _ _).2 ⟨trim_eq_self_iff.1 (by decide), rfl⟩
  obtain ⟨e, he, hline⟩ : ∃ e ∈ (Connection.converse 64 (Utf8.encode "launch missiles\n")).1,
      e.line = "launch missiles" := by
    decide +kernel
  refine ⟨hrows, parse_iff_written.2.1 _ _ hrows, e, he, hline, ?_⟩
  rcases parse_iff_written.2.2 64 _ e he with ⟨c, hc, -⟩ | ⟨hnone, fault, -, hreport, -⟩
  · rw [hline] at hc
    have hparse : parse "launch missiles".toList = .error (.unknown "launch") := rfl
    have hok := ((parse_iff_written.1 _ c).1 hc).2
    rw [hparse] at hok
    cases hok
  · exact ⟨hnone, hreport⟩

end Command

end FaultDrill
