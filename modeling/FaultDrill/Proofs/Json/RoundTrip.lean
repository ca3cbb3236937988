import FaultDrill.Json.Reader
import FaultDrill.Json.Writer
import FaultDrill.Proofs.Text.Decimal

/-!
# FaultDrill.Proofs.Json.RoundTrip

**A value is read from its compact text** (`read?_compact`), provided that its whole numbers are
those of sixty-four bits that the reader keeps (`Kept`). The proof is an induction on the value in
which the text may go on: what follows a value starts with a comma or a closing bracket, so it never
makes a number longer (`EndsNumber`), and every level of nesting takes at least one character, so the
length of the text bounds the levels that the reader needs (`Reads`).

Strings go character by character (`readString_escape`). The one form that looks ahead is the escape
by four digits, since two of them may be a pair; the writer never writes a half of one, so the second
escape is read by itself (`readString_unicode`).
-/

namespace FaultDrill.Json

open FaultDrill.Text

/-! ### Strings -/

theorem isHighHalf_eq_false {n : Nat} (h : isLowHalf n = true) : isHighHalf n = false := by
  simp only [isLowHalf, Bool.and_eq_true, decide_eq_true_eq] at h
  simp only [isHighHalf, Bool.and_eq_false_iff, decide_eq_false_iff_not]
  omega

/-- Four digits that stand for no character, or for the second half of a pair, end the reading. -/
theorem readString_refused {a b c d : Char} (hhalf : ∀ n ∈ hex4? a b c d, isLowHalf n = true)
    (read rest : List Char) : readString read ('\\' :: 'u' :: a :: b :: c :: d :: rest) = none := by
  by_cases hpair : ∃ e f g h more, rest = '\\' :: 'u' :: e :: f :: g :: h :: more
  · obtain ⟨e, f, g, h, more, rfl⟩ := hpair
    rw [readString]
    split
    · next high low hhigh hlow =>
      have hsecond := hhalf high hhigh
      simp [hsecond, isHighHalf_eq_false hsecond]
    · rfl
  · rw [readString]
    · split
      · next n hn => simp [hhalf n hn]
      · rfl
    · intro e f g h more heq
      exact hpair ⟨e, f, g, h, more, heq⟩

/-- Four digits that stand for a character are read as that character, whatever follows: a second
escape is read by itself unless the first one opens a pair. -/
theorem readString_unicode {a b c d : Char} {n : Nat} (hn : hex4? a b c d = some n)
    (hhigh : isHighHalf n = false) (hlow : isLowHalf n = false) (read rest : List Char) :
    readString read ('\\' :: 'u' :: a :: b :: c :: d :: rest) =
      readString (Char.ofNat n :: read) rest := by
  induction hlen : rest.length using Nat.strongRecOn generalizing a b c d n read rest with
  | ind size ih =>
      by_cases hpair : ∃ e f g h more, rest = '\\' :: 'u' :: e :: f :: g :: h :: more
      · obtain ⟨e, f, g, h, more, rfl⟩ := hpair
        rw [readString]
        cases hm : hex4? e f g h with
        | none =>
            rw [readString_refused (by simp [hm])]
            simp
        | some m =>
            by_cases hmhigh : isHighHalf m = true
            · simp [hn, hhigh, hlow, hmhigh]
            · by_cases hmlow : isLowHalf m = true
              · rw [readString_refused (by simpa [hm] using hmlow)]
                simp [hn, hhigh, hlow, hmhigh, hmlow]
              · have hshort : more.length < size := by
                  simp only [List.length_cons] at hlen
                  omega
                have hnext := ih _ hshort hm (by simpa using hmhigh) (by simpa using hmlow)
                  (Char.ofNat n :: read) more rfl
                simp [hn, hhigh, hlow, hmhigh, hmlow, hnext]
      · rw [readString]
        · simp [hn, hhigh, hlow]
        · intro e f g h more heq
          exact hpair ⟨e, f, g, h, more, heq⟩

theorem readString_simple {c e : Char} (h : simpleEscape? c = some e) (read rest : List Char) :
    readString read ('\\' :: c :: rest) = readString (e :: read) rest := by
  have hu : c ≠ 'u' := by
    rintro rfl
    cases h
  rw [readString]
  · simp [h]
  · intro _ _ _ _ _ _ _ _ _ hc
    exact absurd hc hu
  · intro _ _ _ _ _ hc
    exact absurd hc hu

theorem readString_plain {c : Char} (hquote : c ≠ '"') (hslash : c ≠ '\\') (hctrl : ¬ c.toNat < 0x20)
    (read rest : List Char) : readString read (c :: rest) = readString (c :: read) rest := by
  rw [readString]
  · simp [hslash, hctrl]
  · exact hquote
  all_goals
    intros
    contradiction

theorem hex4?_control {n : Nat} (h : n < 0x20) :
    hex4? '0' '0' (Radix.char (n / 16)) (Radix.char (n % 16)) = some n := by
  have hzero : Radix.digit? 16 '0' = some 0 := by decide
  have hhigh : Radix.digit? 16 (Radix.char (n / 16)) = some (n / 16) := Radix.digit?_char (by omega)
  have hlow : Radix.digit? 16 (Radix.char (n % 16)) = some (n % 16) := Radix.digit?_char (by omega)
  simp only [hex4?, hzero, hhigh, hlow, Option.bind_eq_bind, Option.bind_some, Option.pure_def,
    Option.some.injEq]
  omega

/-- The three forms of a character inside a quoted string. -/
theorem escape_cases (c : Char) :
    (∃ e, escape c = ['\\', e] ∧ simpleEscape? e = some c) ∨
    (c.toNat < 0x20 ∧ escape c =
      ['\\', 'u', '0', '0', Radix.char (c.toNat / 16), Radix.char (c.toNat % 16)]) ∨
    (escape c = [c] ∧ c ≠ '"' ∧ c ≠ '\\' ∧ ¬ c.toNat < 0x20) := by
  unfold escape
  by_cases hquote : c = '"'
  · exact .inl ⟨'"', by simp [hquote, simpleEscape?]⟩
  by_cases hslash : c = '\\'
  · exact .inl ⟨'\\', by simp [hslash, simpleEscape?]⟩
  rw [if_neg hquote, if_neg hslash]
  split
  · next h => exact .inl ⟨'b', by simp [h, simpleEscape?]⟩
  split
  · next h => exact .inl ⟨'f', by simp [h, simpleEscape?]⟩
  split
  · next h => exact .inl ⟨'n', by simp [h, simpleEscape?]⟩
  split
  · next h => exact .inl ⟨'r', by simp [h, simpleEscape?]⟩
  split
  · next h => exact .inl ⟨'t', by simp [h, simpleEscape?]⟩
  split
  · next hctrl => exact .inr (.inl ⟨hctrl, rfl⟩)
  · next hctrl => exact .inr (.inr ⟨rfl, hquote, hslash, hctrl⟩)

/-- The form of a character is read as that character. -/
theorem readString_escape (c : Char) (read rest : List Char) :
    readString read (escape c ++ rest) = readString (c :: read) rest := by
  rcases escape_cases c with ⟨e, hform, he⟩ | ⟨hctrl, hform⟩ | ⟨hform, hquote, hslash, hctrl⟩
  · rw [hform]
    exact readString_simple he read rest
  · have hhigh : isHighHalf c.toNat = false := by
      simp only [isHighHalf, Bool.and_eq_false_iff, decide_eq_false_iff_not]
      omega
    have hlow : isLowHalf c.toNat = false := by
      simp only [isLowHalf, Bool.and_eq_false_iff, decide_eq_false_iff_not]
      omega
    have hread := readString_unicode (hex4?_control hctrl) hhigh hlow read rest
    rw [Char.ofNat_toNat] at hread
    rw [hform]
    exact hread
  · rw [hform]
    exact readString_plain hquote hslash hctrl read rest

theorem readString_flatMap_escape (s read rest : List Char) :
    readString read (s.flatMap escape ++ '"' :: rest) =
      some (String.ofList (read.reverse ++ s), rest) := by
  induction s generalizing read with
  | nil => simp [readString]
  | cons c more ih =>
      rw [List.flatMap_cons, List.append_assoc, readString_escape, ih]
      simp

/-- A quoted string is read as itself, after its opening quotation mark. -/
theorem readString_quoted (s : String) (rest : List Char) :
    readString [] (s.toList.flatMap escape ++ '"' :: rest) = some (s, rest) := by
  rw [readString_flatMap_escape]
  simp

/-! ### Numbers -/

/-- What may follow a number: nothing that would make it longer. -/
def EndsNumber (rest : List Char) : Prop :=
  ∀ c ∈ rest.head?, c.isDigit = false ∧ c ≠ '.' ∧ c ≠ 'e' ∧ c ≠ 'E'

theorem takeWhile_write {rest : List Char} (hrest : EndsNumber rest) (n : Nat) :
    (Decimal.write n ++ rest).takeWhile Char.isDigit = Decimal.write n := by
  have hall : ∀ c ∈ Decimal.write n, c.isDigit = true := fun c hc => Decimal.isDigit_of_mem_write hc
  rw [List.takeWhile_append_of_pos hall]
  cases rest with
  | nil => simp
  | cons c more =>
      have hc := (hrest c rfl).1
      simp [hc]

theorem dropWhile_write {rest : List Char} (hrest : EndsNumber rest) (n : Nat) :
    (Decimal.write n ++ rest).dropWhile Char.isDigit = rest := by
  have hall : ∀ c ∈ Decimal.write n, c.isDigit = true := fun c hc => Decimal.isDigit_of_mem_write hc
  rw [List.dropWhile_append_of_pos hall]
  cases rest with
  | nil => rfl
  | cons c more =>
      have hc := (hrest c rfl).1
      simp [hc]

/-- Only zero is written with a zero at its start. -/
theorem head?_write_ne_zero {n : Nat} (h : 10 ≤ n) : (Decimal.write n).head? ≠ some '0' := by
  induction n using Nat.strongRecOn with
  | ind n ih =>
      rw [Decimal.write, if_neg (by omega), List.head?_append_of_ne_nil _ (Decimal.write_ne_nil _)]
      by_cases hlarge : 10 ≤ n / 10
      · exact ih (n / 10) (by omega) hlarge
      · have hsmall : n / 10 < 10 := by omega
        have hpos : n / 10 ≠ 0 := by omega
        rw [Decimal.write, if_pos hsmall]
        generalize n / 10 = d at hsmall hpos
        revert d
        decide

theorem length_write_eq_one {n : Nat} (h : n < 10) : (Decimal.write n).length = 1 := by
  rw [Decimal.write, if_pos h]
  rfl

theorem afterFraction?_eq {rest : List Char} (hrest : EndsNumber rest) :
    afterFraction? rest = some (false, rest) := by
  cases rest with
  | nil => rfl
  | cons c more =>
      obtain ⟨-, hpoint, he, hE⟩ := hrest c rfl
      unfold afterFraction?
      split
      · next heq => exact absurd (List.cons.inj heq).1 hpoint
      · simp [afterExponent?, he, hE]

/-- The whole numbers that the reader keeps: those of sixty-four bits, with or without a sign. -/
def KeepsNumber (n : Int) : Prop :=
  -9223372036854775808 ≤ n ∧ n < 18446744073709551616

theorem ofDigits_write {n : Int} (hn : KeepsNumber n) :
    ofDigits (decide (n < 0)) (Decimal.write n.natAbs) = .int n := by
  obtain ⟨hlow, hhigh⟩ := hn
  unfold ofDigits
  rw [Decimal.value_write]
  by_cases hneg : n < 0
  · have hfits : ¬ (n.natAbs = 0 ∨ UInt64.size / 2 < n.natAbs) := by
      simp only [UInt64.size]
      omega
    have habs : -(n.natAbs : Int) = n := by omega
    simp only [hneg, decide_true, if_true, if_neg hfits, habs]
  · have hfits : n.natAbs < UInt64.size := by
      simp only [UInt64.size]
      omega
    have habs : (n.natAbs : Int) = n := by omega
    simp only [hneg, decide_false, Bool.false_eq_true, if_false, if_pos hfits, habs]

/-- A number is written with one digit, or with none of its zeros at the start. -/
theorem write_shape (n : Nat) : ¬ ((Decimal.write n).isEmpty = true ∨
    ((Decimal.write n).length ≠ 1 ∧ (Decimal.write n).head? = some '0')) := by
  rintro (hempty | ⟨hlong, hzero⟩)
  · exact Decimal.write_ne_nil _ (List.isEmpty_iff.1 hempty)
  · by_cases hsmall : n < 10
    · exact hlong (length_write_eq_one hsmall)
    · exact head?_write_ne_zero (by omega) hzero

/-- What is written first in a number without a sign is a digit. -/
theorem write_append_ne {c : Char} (hc : c.isDigit = false) (n : Nat) (rest more : List Char) :
    Decimal.write n ++ rest ≠ c :: more := by
  intro heq
  cases hform : Decimal.write n with
  | nil => exact Decimal.write_ne_nil n hform
  | cons d digits =>
      rw [hform] at heq
      have hd : d.isDigit = true := Decimal.isDigit_of_mem_write (n := n) (by simp [hform])
      rw [(List.cons.inj heq).1, hc] at hd
      cases hd

/-- A written number is read as itself. -/
theorem readNumber_number {n : Int} (hn : KeepsNumber n) {rest : List Char}
    (hrest : EndsNumber rest) : readNumber (number n ++ rest) = some (.int n, rest) := by
  unfold readNumber
  split
  next negative body hsign =>
  obtain ⟨rfl, rfl⟩ : decide (n < 0) = negative ∧ Decimal.write n.natAbs ++ rest = body := by
    unfold number at hsign
    by_cases hneg : n < 0
    · rw [if_pos hneg] at hsign
      simpa [hneg] using hsign
    · rw [if_neg hneg] at hsign
      split at hsign
      · next tail heq => exact absurd heq (write_append_ne (by decide) n.natAbs rest tail)
      · simpa [hneg] using hsign
  simp only [takeWhile_write hrest, dropWhile_write hrest, if_neg (write_shape n.natAbs),
    afterFraction?_eq hrest, ofDigits_write hn, Option.bind_eq_bind, Option.bind_some,
    Option.pure_def, Bool.false_eq_true, if_false]

/-! ### Values -/

/-- The values whose numbers the reader keeps. -/
inductive Kept : Json → Prop
  | null : Kept .null
  | bool (b : Bool) : Kept (.bool b)
  | int {n : Int} (h : KeepsNumber n) : Kept (.int n)
  | str (s : String) : Kept (.str s)
  | arr {items : List Json} (h : ∀ v ∈ items, Kept v) : Kept (.arr items)
  | obj {fields : List (String × Json)} (h : ∀ f ∈ fields, Kept f.2) : Kept (.obj fields)

theorem kept_nat {n : Nat} (h : n < UInt64.size) : Kept (.nat n) := by
  simp only [UInt64.size] at h
  exact .int ⟨by omega, by omega⟩

theorem kept_map {α : Type} {f : α → Json} (h : ∀ a, Kept (f a)) (l : List α) :
    Kept (.arr (l.map f)) := by
  refine .arr fun v hv => ?_
  obtain ⟨a, -, rfl⟩ := List.mem_map.1 hv
  exact h a

theorem kept_ofMap (m : SortedMap String String) : Kept (.ofMap .str m) := by
  refine .obj fun f hf => ?_
  obtain ⟨e, -, rfl⟩ := List.mem_map.1 hf
  exact .str e.2

theorem kept_ofOption {α : Type} {f : α → Json} {o : Option α} (h : ∀ a ∈ o, Kept (f a)) :
    Kept (.ofOption f o) := by
  cases o with
  | none => exact .null
  | some a => exact h a rfl

/-- What a number is written with at its start is a digit or a minus sign. -/
theorem number_head (n : Int) : ∃ c more, number n = c :: more ∧ (c.isDigit = true ∨ c = '-') := by
  unfold number
  split
  · exact ⟨'-', _, rfl, .inr rfl⟩
  · cases hform : Decimal.write n.natAbs with
    | nil => exact absurd hform (Decimal.write_ne_nil _)
    | cons c more =>
        have hc : c.isDigit = true := Decimal.isDigit_of_mem_write (n := n.natAbs) (by simp [hform])
        exact ⟨c, more, rfl, .inl hc⟩

theorem isSpace_of_isDigit {c : Char} (h : c.isDigit = true) : isSpace c = false := by
  obtain ⟨hlow, hhigh⟩ := Decimal.toNat_of_isDigit h
  simp only [isSpace, Bool.or_eq_false_iff, decide_eq_false_iff_not]
  refine ⟨⟨⟨?_, ?_⟩, ?_⟩, ?_⟩ <;> rintro rfl <;> simp at hlow

/-- What a value is written with at its start is no blank and closes nothing. -/
theorem compactChars_head (v : Json) : ∃ c more, compactChars v = c :: more ∧
    isSpace c = false ∧ c ≠ ']' ∧ c ≠ '\x7d' := by
  cases v with
  | null => exact ⟨'n', _, rfl, by decide, by decide, by decide⟩
  | bool b => cases b <;> exact ⟨_, _, rfl, by decide, by decide, by decide⟩
  | int n =>
      obtain ⟨c, more, hform, hc | rfl⟩ := number_head n
      · refine ⟨c, more, hform, isSpace_of_isDigit hc, ?_, ?_⟩ <;> rintro rfl <;> cases hc
      · exact ⟨'-', more, hform, by decide, by decide, by decide⟩
  | real => exact ⟨'0', _, rfl, by decide, by decide, by decide⟩
  | str s => exact ⟨'"', _, rfl, by decide, by decide, by decide⟩
  | arr items => exact ⟨'[', _, rfl, by decide, by decide, by decide⟩
  | obj fields => exact ⟨'\x7b', _, rfl, by decide, by decide, by decide⟩

@[simp] theorem skipSpace_cons {c : Char} (hc : isSpace c = false) (rest : List Char) :
    skipSpace (c :: rest) = c :: rest := by
  simp [skipSpace, hc]

/-- A value is read from its compact text, whatever follows that cannot belong to a number, if so
many levels are allowed as the text has characters. -/
def Reads (v : Json) : Prop :=
  ∀ (depth : Nat) (rest : List Char), (compactChars v).length ≤ depth → EndsNumber rest →
    readValue depth (compactChars v ++ rest) = some (v, rest)

/-- What stands between values, or closes them, ends a number. -/
theorem endsNumber_cons {c : Char} (hc : c = ',' ∨ c = ']' ∨ c = '\x7d') (rest : List Char) :
    EndsNumber (c :: rest) := by
  intro c' hc'
  obtain rfl := Option.some.inj hc'
  rcases hc with rfl | rfl | rfl <;> decide

theorem endsNumber_nil : EndsNumber [] := nofun

theorem reads_int {n : Int} (hn : KeepsNumber n) : Reads (.int n) := by
  intro depth rest hdepth hrest
  obtain ⟨c, more, hform, hc⟩ := number_head n
  rw [compactChars] at hdepth ⊢
  have hspace : isSpace c = false := by
    rcases hc with hc | rfl
    · exact isSpace_of_isDigit hc
    · decide
  have hread := readNumber_number hn hrest
  rw [hform] at hdepth hread ⊢
  cases depth with
  | zero => simp at hdepth
  | succ depth =>
      rw [List.cons_append, readValue, skipSpace_cons hspace]
      rw [List.cons_append] at hread
      -- no other value starts like a number
      split
      case h_7 => exact hread
      all_goals
        next heq =>
        obtain ⟨rfl, -⟩ := List.cons.inj heq
        rcases hc with hc | hc <;> cases hc

theorem reads_str (s : String) : Reads (.str s) := by
  intro depth rest hdepth _
  cases depth with
  | zero => simp [compactChars, quoted] at hdepth
  | succ depth =>
      rw [compactChars, quoted, List.cons_append, readValue, skipSpace_cons (by decide)]
      simp [readString_quoted]

theorem readItems_compactItems {v : Json} {items : List Json} (h : ∀ w ∈ v :: items, Reads w)
    (depth : Nat) (rest : List Char) (hdepth : (compactItems (v :: items)).length ≤ depth) :
    readItems depth (compactItems (v :: items) ++ rest) = some (v :: items, rest) := by
  induction items generalizing v depth with
  | nil =>
      cases depth with
      | zero => simp [compactItems] at hdepth
      | succ depth =>
          rw [compactItems, List.length_append, List.length_singleton] at hdepth
          have hv := h v List.mem_cons_self depth (']' :: rest) (by omega)
            (endsNumber_cons (by decide) rest)
          rw [compactItems, List.append_assoc, List.singleton_append, readItems, hv]
          simp [skipSpace_cons (c := ']') (by decide)]
  | cons w items ih =>
      cases depth with
      | zero => simp [compactItems] at hdepth
      | succ depth =>
          rw [compactItems, List.length_append, List.length_cons] at hdepth
          have hv := h v List.mem_cons_self depth (',' :: (compactItems (w :: items) ++ rest))
            (by omega) (endsNumber_cons (by decide) _)
          have hmore := ih (fun x hx => h x (List.mem_cons_of_mem v hx)) depth (by omega)
          rw [compactItems, List.append_assoc, List.cons_append, readItems, hv]
          simp [skipSpace_cons (c := ',') (by decide), hmore]

theorem reads_arr {items : List Json} (h : ∀ v ∈ items, Reads v) : Reads (.arr items) := by
  intro depth rest hdepth _
  rw [compactChars] at hdepth ⊢
  cases depth with
  | zero => simp at hdepth
  | succ depth =>
      rw [List.cons_append, readValue, skipSpace_cons (by decide)]
      cases items with
      | nil => simp [compactItems, skipSpace_cons (c := ']') (by decide)]
      | cons v items =>
          have hread := readItems_compactItems h depth rest (by simpa using hdepth)
          obtain ⟨c, more, hform, hspace, hclose, -⟩ : ∃ c more,
              compactItems (v :: items) ++ rest = c :: more ∧ isSpace c = false ∧ c ≠ ']' ∧
                c ≠ '\x7d' := by
            obtain ⟨c, more, hform, hc⟩ := compactChars_head v
            cases items <;> simp [compactItems, hform, hc]
          rw [hform] at hread ⊢
          simp only [skipSpace_cons hspace, hread, Option.map_some]
          split
          · next heq => exact absurd (List.cons.inj heq).1 hclose
          · rfl

theorem readFields_compactFields {f : String × Json} {fields : List (String × Json)}
    (h : ∀ g ∈ f :: fields, Reads g.2) (depth : Nat) (rest : List Char)
    (hdepth : (compactFields (f :: fields)).length ≤ depth) :
    readFields depth (compactFields (f :: fields) ++ rest) = some (f :: fields, rest) := by
  induction fields generalizing f depth with
  | nil =>
      obtain ⟨name, v⟩ := f
      cases depth with
      | zero => simp [compactFields, quoted] at hdepth
      | succ depth =>
          rw [compactFields, quoted] at hdepth ⊢
          have hlen : (compactChars v).length ≤ depth := by
            simp only [List.length_cons, List.length_append] at hdepth
            omega
          have hv := h (name, v) List.mem_cons_self depth ('\x7d' :: rest) hlen
            (endsNumber_cons (by decide) rest)
          simp [readFields, skipSpace_cons, readString_quoted, hv, isSpace]
  | cons g fields ih =>
      obtain ⟨name, v⟩ := f
      cases depth with
      | zero => simp [compactFields, quoted] at hdepth
      | succ depth =>
          rw [compactFields, quoted] at hdepth ⊢
          obtain ⟨hlen, hmorelen⟩ : (compactChars v).length ≤ depth ∧
              (compactFields (g :: fields)).length ≤ depth := by
            simp only [List.length_cons, List.length_append] at hdepth
            omega
          have hv := h (name, v) List.mem_cons_self depth
            (',' :: (compactFields (g :: fields) ++ rest)) hlen (endsNumber_cons (by decide) _)
          have hmore := ih (fun x hx => h x (List.mem_cons_of_mem _ hx)) depth hmorelen
          simp [readFields, skipSpace_cons, readString_quoted, hv, isSpace, hmore]

theorem reads_obj {fields : List (String × Json)} (h : ∀ f ∈ fields, Reads f.2) :
    Reads (.obj fields) := by
  intro depth rest hdepth _
  rw [compactChars] at hdepth ⊢
  cases depth with
  | zero => simp at hdepth
  | succ depth =>
      rw [List.cons_append, readValue, skipSpace_cons (by decide)]
      cases fields with
      | nil => simp [compactFields, skipSpace_cons (c := '\x7d') (by decide)]
      | cons f fields =>
          have hread := readFields_compactFields h depth rest (by simpa using hdepth)
          obtain ⟨more, hform⟩ : ∃ more, compactFields (f :: fields) ++ rest = '"' :: more := by
            cases fields <;> simp [compactFields, quoted]
          rw [hform] at hread ⊢
          simp [skipSpace_cons (c := '"') (by decide), hread]

/-- **A value whose numbers are kept is read from its compact text.** -/
theorem read?_compact {v : Json} (hv : Kept v) : read? (compact v) = some v := by
  have hreads : Reads v := by
    induction hv with
    | null =>
        intro depth rest hdepth _
        cases depth with
        | zero => simp [compactChars] at hdepth
        | succ depth => simp [compactChars, readValue, skipSpace_cons, isSpace]
    | bool b =>
        intro depth rest hdepth _
        cases depth with
        | zero => cases b <;> simp [compactChars] at hdepth
        | succ depth => cases b <;> simp [compactChars, readValue, skipSpace_cons, isSpace]
    | int hn => exact reads_int hn
    | str s => exact reads_str s
    | arr _ ih => exact reads_arr ih
    | obj _ ih => exact reads_obj ih
  have hread := hreads ((compactChars v).length + 1) [] (Nat.le_succ _) endsNumber_nil
  rw [List.append_nil] at hread
  unfold read? compact
  rw [String.toList_ofList]
  simp [hread, skipSpace]

end FaultDrill.Json
