import FaultDrill.Duration.Text
import FaultDrill.Proofs.Text.Decimal

/-!
# FaultDrill.Proofs.Duration.RoundTrip

**A written duration is read as itself** (`parse_text`). The reader goes through the text once, so
the proof follows its states over one item: the digits bring it from the start to a whole number
(`scan_write`), the letters to a unit (`scan_unit`), and the blank or the end of the text adds the
item to the total (`addItem_name`). The items that are written are those of `Duration.parts` that are
not zero, and all parts together make up the duration (`total_parts`), which is also why no sum that
the reader makes leaves its range. A written duration can stand in a longer text: it is solid
and has no characters but digits, letters of units and spaces (`text_chars`).
-/

namespace FaultDrill.Duration

open FaultDrill.Text

/-- The nanoseconds that no duration reaches. -/
abbrev limit : Nat := UInt64.size * nanosPerSecond

theorem nanosPerSecond_lt_size : nanosPerSecond < UInt64.size := by
  simp only [nanosPerSecond, UInt64.size]
  omega

/-! ### Units and their names -/

theorem Unit.ofName?_of_mem_names {unit : Unit} {name : String} (h : name ∈ unit.names) :
    Unit.ofName? name = some unit := by
  revert name
  cases unit <;> decide

theorem Unit.all_of_mem_names {unit : Unit} {name : String} (h : name ∈ unit.names) :
    name.toList ≠ [] ∧
      name.toList.all (fun c => isUnitLetter c && !c.isDigit && !isBlank c) = true := by
  revert name
  cases unit <;> decide

/-- The letters of a name keep the reader in the unit. -/
theorem Unit.letters_of_mem_names {unit : Unit} {name : String} (h : name ∈ unit.names) :
    name.toList ≠ [] ∧
      ∀ c ∈ name.toList, isUnitLetter c = true ∧ c.isDigit = false ∧ isBlank c = false := by
  obtain ⟨hne, hall⟩ := Unit.all_of_mem_names h
  refine ⟨hne, fun c hc => ?_⟩
  have hc' := List.all_eq_true.1 hall c hc
  simpa [and_assoc] using hc'

theorem Unit.nanos_eq (unit : Unit) : unit.nanos / unit.grain * unit.grain = unit.nanos := by
  cases unit <;> rfl

theorem Unit.one_le_nanos_div_grain (unit : Unit) : 1 ≤ unit.nanos / unit.grain := by
  cases unit <;> decide

theorem Unit.grain_eq (unit : Unit) : unit.grain = 1 ∨ unit.grain = nanosPerSecond := by
  cases unit <;> simp [grain]

/-! ### Parts -/

/-- A number of units, with the name under which the unit is written. -/
structure Part where
  count : Nat
  unit : Unit
  name : String

/-- The nanoseconds of a part. -/
def Part.nanos (p : Part) : Nat :=
  p.count * p.unit.nanos

/-- A part as an item of a text. -/
def Part.text (p : Part) : List Char :=
  Decimal.write p.count ++ p.name.toList

/-- A part that the reader can add: it bears a name of its unit, and parts of a second stay below
one. -/
structure Part.Valid (p : Part) : Prop where
  name : p.name ∈ p.unit.names
  subsec : p.unit.grain = 1 → p.nanos < nanosPerSecond

/-- The nanoseconds of parts. -/
def total : List Part → Nat
  | [] => 0
  | p :: ps => p.nanos + total ps

theorem total_cons (p : Part) (ps : List Part) : total (p :: ps) = p.nanos + total ps := rfl

/-! ### Reading one item -/

/-- A part below the limit fits sixty-four bits when it is counted in grains of its unit. -/
theorem Part.Valid.grains_lt {p : Part} (h : p.Valid) (hlt : p.nanos < limit) :
    p.count * (p.unit.nanos / p.unit.grain) < UInt64.size := by
  have heq : p.count * (p.unit.nanos / p.unit.grain) * p.unit.grain = p.nanos := by
    rw [Nat.mul_assoc, p.unit.nanos_eq, Part.nanos]
  rcases p.unit.grain_eq with hg | hg
  · have hsub := h.subsec hg
    rw [← heq, hg, Nat.mul_one] at hsub
    rw [hg]
    exact hsub.trans nanosPerSecond_lt_size
  · rw [hg] at heq ⊢
    rw [← heq] at hlt
    exact Nat.lt_of_mul_lt_mul_right hlt

theorem Part.Valid.count_lt {p : Part} (h : p.Valid) (hlt : p.nanos < limit) :
    p.count < UInt64.size :=
  (Nat.le_mul_of_pos_right _ p.unit.one_le_nanos_div_grain).trans_lt (h.grains_lt hlt)

theorem word_of_lt {n : Nat} (h : n < UInt64.size) : word n = .ok n :=
  if_pos h

theorem addGrains_eq_ok {sum count grain : Nat} (hlt : sum + count * grain < limit)
    (hcount : grain = 1 → count < nanosPerSecond) :
    addGrains sum count grain = .ok (sum + count * grain) := by
  have hmod : sum % nanosPerSecond < nanosPerSecond := Nat.mod_lt _ (by decide)
  have hword : ¬ (grain = 1 ∧ UInt64.size ≤ sum % nanosPerSecond + count) := by
    rintro ⟨hg, hle⟩
    have hc := hcount hg
    simp only [nanosPerSecond, UInt64.size] at *
    omega
  unfold addGrains
  rw [if_neg hword, if_pos hlt]

/-- The end of an item adds its nanoseconds. -/
theorem addItem_name {p : Part} (h : p.Valid) (sum : Nat) (hlt : sum + p.nanos < limit) :
    addItem sum p.count none p.name.toList.reverse = .ok (sum + p.nanos) := by
  have heq : p.count * (p.unit.nanos / p.unit.grain) * p.unit.grain = p.nanos := by
    rw [Nat.mul_assoc, p.unit.nanos_eq, Part.nanos]
  have hword := word_of_lt (h.grains_lt (by omega))
  have hadd : addGrains sum (p.count * (p.unit.nanos / p.unit.grain)) p.unit.grain =
      .ok (sum + p.nanos) := by
    rw [addGrains_eq_ok, heq]
    · rwa [heq]
    · intro hg
      have hsub := h.subsec hg
      rw [← heq, hg, Nat.mul_one] at hsub
      rwa [hg]
  unfold addItem
  simp only [List.reverse_reverse, String.ofList_toList, Unit.ofName?_of_mem_names h.name, hword,
    hadd, bind, Except.bind, pure, Except.pure]

theorem scan_cons {sum offset : Nat} {at_ next : Scan} {c : Char} {sum' : Nat}
    (h : advance sum offset c at_ = .ok (sum', next)) (rest : List Char) :
    scan sum offset at_ (c :: rest) = scan sum' (offset + c.utf8Size) next rest := by
  rw [scan, h]

/-- Digits extend a whole number. -/
theorem scan_digits {digits : List Char} (hd : ∀ c ∈ digits, c.isDigit = true) {n : Nat}
    (hlt : Decimal.value n digits < UInt64.size) (sum offset : Nat) :
    ∃ offset', ∀ rest, scan sum offset (.whole n) (digits ++ rest) =
      scan sum offset' (.whole (Decimal.value n digits)) rest := by
  induction digits generalizing n offset with
  | nil => exact ⟨offset, fun rest => rfl⟩
  | cons c more ih =>
      have hc : c.isDigit = true := hd c List.mem_cons_self
      have hle : 10 * n + Decimal.digit c ≤ Decimal.value n (c :: more) :=
        Decimal.le_value (10 * n + Decimal.digit c) more
      obtain ⟨offset', hscan⟩ := ih (fun d hmem => hd d (List.mem_cons_of_mem c hmem))
        (n := 10 * n + Decimal.digit c) hlt (offset + c.utf8Size)
      refine ⟨offset', fun rest => ?_⟩
      have hadv : advance sum offset c (.whole n) =
          .ok (sum, .whole (10 * n + Decimal.digit c)) := by
        simp only [advance, hc, if_true, word_of_lt (hle.trans_lt hlt)]
        rfl
      rw [List.cons_append, scan_cons hadv, hscan]
      rfl

/-- A written number brings the reader from the start to a whole number. -/
theorem scan_write {n : Nat} (hlt : n < UInt64.size) (sum offset since : Nat) :
    ∃ offset', ∀ rest, scan sum offset (.start since) (Decimal.write n ++ rest) =
      scan sum offset' (.whole n) rest := by
  have hall : ∀ c ∈ Decimal.write n, c.isDigit = true := fun c => Decimal.isDigit_of_mem_write
  have hvalue := Decimal.value_write n
  cases hw : Decimal.write n with
  | nil => exact absurd hw (Decimal.write_ne_nil n)
  | cons c more =>
      rw [hw] at hall hvalue
      have hc : c.isDigit = true := hall c List.mem_cons_self
      have hmore : Decimal.value (Decimal.digit c) more = n := by
        rw [← hvalue]
        simp [Decimal.value]
      obtain ⟨offset', hscan⟩ := scan_digits (fun d hmem => hall d (List.mem_cons_of_mem c hmem))
        (n := Decimal.digit c) (hmore.trans_lt hlt) sum (offset + c.utf8Size)
      refine ⟨offset', fun rest => ?_⟩
      have hadv : advance sum offset c (.start since) = .ok (sum, .whole (Decimal.digit c)) := by
        simp only [advance, hc, if_true]
      rw [List.cons_append, scan_cons hadv, hscan, hmore]

theorem advance_whole {c : Char} (hc : isUnitLetter c = true ∧ c.isDigit = false ∧ isBlank c = false)
    (sum offset n : Nat) : advance sum offset c (.whole n) = .ok (sum, .unit n none [c]) := by
  simp [advance, hc.1, hc.2.1, hc.2.2]

theorem advance_unit {c : Char} (hc : isUnitLetter c = true ∧ c.isDigit = false ∧ isBlank c = false)
    (sum offset n : Nat) (letters : List Char) :
    advance sum offset c (.unit n none letters) = .ok (sum, .unit n none (c :: letters)) := by
  simp [advance, hc.1, hc.2.1, hc.2.2]

/-- Letters extend a unit. -/
theorem scan_unit {name : List Char}
    (hname : ∀ c ∈ name, isUnitLetter c = true ∧ c.isDigit = false ∧ isBlank c = false)
    (sum offset n : Nat) (letters : List Char) :
    ∃ offset', ∀ rest, scan sum offset (.unit n none letters) (name ++ rest) =
      scan sum offset' (.unit n none (name.reverse ++ letters)) rest := by
  induction name generalizing offset letters with
  | nil => exact ⟨offset, fun rest => rfl⟩
  | cons c more ih =>
      obtain ⟨offset', hscan⟩ := ih (fun d hd => hname d (List.mem_cons_of_mem c hd))
        (offset + c.utf8Size) (c :: letters)
      refine ⟨offset', fun rest => ?_⟩
      rw [List.cons_append, scan_cons (advance_unit (hname c List.mem_cons_self) ..), hscan]
      simp

/-- An item brings the reader from the start to the end of a unit. -/
theorem scan_item {p : Part} (h : p.Valid) (hlt : p.nanos < limit) (sum offset since : Nat) :
    ∃ offset', ∀ rest, scan sum offset (.start since) (p.text ++ rest) =
      scan sum offset' (.unit p.count none p.name.toList.reverse) rest := by
  obtain ⟨hne, hletters⟩ := Unit.letters_of_mem_names h.name
  obtain ⟨offset₁, hwrite⟩ := scan_write (h.count_lt hlt) sum offset since
  cases hn : p.name.toList with
  | nil => exact absurd hn hne
  | cons c more =>
      rw [hn] at hletters
      obtain ⟨offset₂, hunit⟩ := scan_unit (fun d hd => hletters d (List.mem_cons_of_mem c hd))
        sum (offset₁ + c.utf8Size) p.count [c]
      refine ⟨offset₂, fun rest => ?_⟩
      rw [Part.text, hn, List.append_assoc, hwrite, List.cons_append,
        scan_cons (advance_whole (hletters c List.mem_cons_self) ..), hunit]
      simp

/-! ### Reading all items -/

/-- Items with single spaces between them. -/
def textOf (ps : List Part) : List Char :=
  [' '].intercalate (ps.map Part.text)

theorem textOf_cons_cons (p q : Part) (ps : List Part) :
    textOf (p :: q :: ps) = p.text ++ ' ' :: textOf (q :: ps) := by
  simp [textOf]

/-- Items are read as the sum of their nanoseconds. -/
theorem scan_textOf {p : Part} {ps : List Part} (h : ∀ q ∈ p :: ps, q.Valid) (sum : Nat)
    (hlt : sum + total (p :: ps) < limit) (offset since : Nat) :
    ∃ sum' last, scan sum offset (.start since) (textOf (p :: ps)) = .ok (sum', last) ∧
      finish sum' last = .ok (sum + total (p :: ps)) := by
  induction ps generalizing p sum offset since with
  | nil =>
      have hp : p.Valid := h p List.mem_cons_self
      rw [total_cons] at hlt ⊢
      obtain ⟨offset', hitem⟩ := scan_item hp (by omega) sum offset since
      have hrest := hitem []
      have hadd := addItem_name hp sum (by omega)
      refine ⟨sum, .unit p.count none p.name.toList.reverse, ?_, by simpa [finish, total] using hadd⟩
      simpa [textOf, scan] using hrest
  | cons q rest ih =>
      have hp : p.Valid := h p List.mem_cons_self
      rw [total_cons] at hlt ⊢
      obtain ⟨offset', hitem⟩ := scan_item hp (by omega) sum offset since
      have hadd := addItem_name hp sum (by omega)
      have hadv : advance sum offset' ' ' (.unit p.count none p.name.toList.reverse) =
          .ok (sum + p.nanos, .start (offset' + 1)) := by
        simp only [advance, hadd]
        rfl
      obtain ⟨sum', last, hscan, hfinish⟩ := ih (fun r hr => h r (List.mem_cons_of_mem p hr))
        (sum + p.nanos) (by omega) (offset' + 1) (offset' + 1)
      refine ⟨sum', last, ?_, by rw [hfinish, Nat.add_assoc]⟩
      rw [textOf_cons_cons, hitem, scan_cons hadv]
      exact hscan

/-! ### Writing -/

/-- The parts of a duration from the years down to the nanoseconds, those that are zero included. -/
def parts (d : Duration) : List Part :=
  let rest := d.secs % Unit.year.seconds
  let ofMonth := rest % Unit.month.seconds
  let ofDay := ofMonth % Unit.day.seconds
  let sub := d.subsecNanos
  let plural := fun (n : Nat) (name : String) => if n = 1 then name else name ++ "s"
  let years := d.secs / Unit.year.seconds
  let months := rest / Unit.month.seconds
  let days := ofMonth / Unit.day.seconds
  [⟨years, .year, plural years "year"⟩, ⟨months, .month, plural months "month"⟩,
    ⟨days, .day, plural days "day"⟩, ⟨ofDay / 3600, .hour, "h"⟩, ⟨ofDay % 3600 / 60, .minute, "m"⟩,
    ⟨ofDay % 60, .second, "s"⟩, ⟨sub / 1000000, .milli, "ms"⟩, ⟨sub / 1000 % 1000, .micro, "us"⟩,
    ⟨sub % 1000, .nano, "ns"⟩]

/-- What the divisions by the units have left of seconds and of the nanoseconds below them comes
together again. The units are variables here: their products are too large to be computed with. -/
theorem sum_of_divisions (secs sub year month day nanos : Nat) :
    secs / year * (year * nanos) + (secs % year / month * (month * nanos) +
      (secs % year % month / day * (day * nanos) +
      (secs % year % month % day / 3600 * (3600 * nanos) +
      (secs % year % month % day % 3600 / 60 * (60 * nanos) +
      (secs % year % month % day % 60 * (1 * nanos) +
      (sub / 1000000 * 1000000 + (sub / 1000 % 1000 * 1000 + sub % 1000 * 1))))))) =
    secs * nanos + sub := by
  have hyears := Nat.div_add_mod' secs year
  have hmonths := Nat.div_add_mod' (secs % year) month
  have hdays := Nat.div_add_mod' (secs % year % month) day
  have hsub : sub / 1000000 * 1000000 + (sub / 1000 % 1000 * 1000 + sub % 1000 * 1) = sub := by
    omega
  have hsecs : secs / year * year + secs % year / month * month +
      secs % year % month / day * day + secs % year % month % day / 3600 * 3600 +
      secs % year % month % day % 3600 / 60 * 60 + secs % year % month % day % 60 * 1 = secs := by
    omega
  rw [hsub]
  simp only [← Nat.mul_assoc, ← Nat.add_assoc, ← Nat.add_mul]
  rw [hsecs]

/-- The parts make up the duration. -/
theorem total_parts (d : Duration) : total d.parts = d.nanos := by
  have hsum := sum_of_divisions d.secs d.subsecNanos Unit.year.seconds Unit.month.seconds
    Unit.day.seconds nanosPerSecond
  have hnanos : d.secs * nanosPerSecond + d.subsecNanos = d.nanos := Nat.div_add_mod' _ _
  have hyear : Unit.year.nanos = Unit.year.seconds * nanosPerSecond := rfl
  have hmonth : Unit.month.nanos = Unit.month.seconds * nanosPerSecond := rfl
  have hday : Unit.day.nanos = Unit.day.seconds * nanosPerSecond := rfl
  have hhour : Unit.hour.nanos = 3600 * nanosPerSecond := rfl
  have hminute : Unit.minute.nanos = 60 * nanosPerSecond := rfl
  have hsecond : Unit.second.nanos = 1 * nanosPerSecond := rfl
  have hmilli : Unit.milli.nanos = 1000000 := rfl
  have hmicro : Unit.micro.nanos = 1000 := rfl
  have hnano : Unit.nano.nanos = 1 := rfl
  have hnil : total [] = 0 := rfl
  rw [← hnanos, ← hsum]
  unfold parts
  simp only [total_cons, Part.nanos, hyear, hmonth, hday, hhour, hminute, hsecond, hmilli, hmicro,
    hnano, hnil, Nat.add_zero]

theorem Part.valid_of_grain {n : Nat} {unit : Unit} {name : String} (hname : name ∈ unit.names)
    (hgrain : unit.grain ≠ 1) : Part.Valid ⟨n, unit, name⟩ :=
  ⟨hname, fun h => absurd h hgrain⟩

theorem Part.valid_of_lt {n : Nat} {unit : Unit} {name : String} (hname : name ∈ unit.names)
    (hlt : n * unit.nanos < nanosPerSecond) : Part.Valid ⟨n, unit, name⟩ :=
  ⟨hname, fun _ => hlt⟩

/-- The reader can add every part of a duration. -/
theorem valid_of_mem_parts {d : Duration} {p : Part} (h : p ∈ d.parts) : p.Valid := by
  have hsub : d.subsecNanos < nanosPerSecond := Nat.mod_lt _ (by decide)
  simp only [parts, List.mem_cons, List.not_mem_nil, or_false] at h
  rcases h with rfl | rfl | rfl | rfl | rfl | rfl | rfl | rfl | rfl
  · exact Part.valid_of_grain (by split <;> decide) (by decide)
  · exact Part.valid_of_grain (by split <;> decide) (by decide)
  · exact Part.valid_of_grain (by split <;> decide) (by decide)
  · exact Part.valid_of_grain (by decide) (by decide)
  · exact Part.valid_of_grain (by decide) (by decide)
  · exact Part.valid_of_grain (by decide) (by decide)
  · exact Part.valid_of_lt (by decide) (by simp only [Unit.nanos, nanosPerSecond] at *; omega)
  · exact Part.valid_of_lt (by decide) (by simp only [Unit.nanos, nanosPerSecond] at *; omega)
  · exact Part.valid_of_lt (by decide) (by simp only [Unit.nanos, nanosPerSecond] at *; omega)

/-- The item of a number of units, which is left out if there are none. -/
def item (n : Nat) (name : String) : List (List Char) :=
  if n = 0 then [] else [Decimal.write n ++ name.toList]

theorem toList_item (n : Nat) (name : String) :
    (s!"{n}{name}").toList = Decimal.write n ++ name.toList := by
  rw [String.toList_append, Decimal.toList_toString]
  rfl

theorem map_short (n : Nat) (name : String) : (short n name).map String.toList = item n name := by
  unfold short item
  split
  · rfl
  · rw [List.map_singleton, toList_item]

theorem map_counted (n : Nat) (name : String) :
    (counted n name).map String.toList = item n (if n = 1 then name else name ++ "s") := by
  unfold counted item
  split
  · rfl
  · rw [List.map_singleton, String.toList_append, toList_item]
    split <;> simp

/-- What is written are the items of the parts. -/
theorem map_items (d : Duration) :
    d.items.map String.toList = d.parts.flatMap fun p => item p.count p.name := by
  unfold items parts
  simp only [List.map_append, List.flatMap_cons, List.flatMap_nil, List.append_nil,
    List.append_assoc, map_counted, map_short]

theorem flatMap_item (ps : List Part) :
    (ps.flatMap fun p => item p.count p.name) = (ps.filter (·.count ≠ 0)).map Part.text := by
  induction ps with
  | nil => rfl
  | cons p rest ih =>
      rw [List.flatMap_cons, ih, List.filter_cons]
      unfold item
      by_cases h : p.count = 0
      · rw [if_pos h, if_neg (by simpa using h), List.nil_append]
      · rw [if_neg h, if_pos (by simpa using h), List.map_cons, Part.text, List.singleton_append]

/-- Parts that are zero add nothing. -/
theorem total_filter (ps : List Part) : total (ps.filter (·.count ≠ 0)) = total ps := by
  induction ps with
  | nil => rfl
  | cons p rest ih =>
      rw [total_cons, List.filter_cons]
      split
      · rw [total_cons, ih]
      · next h =>
        have hzero : p.count = 0 := by simpa using h
        rw [ih, Part.nanos, hzero, Nat.zero_mul, Nat.zero_add]

theorem toList_text {d : Duration} (h : d.nanos ≠ 0) :
    d.text.toList = textOf (d.parts.filter (·.count ≠ 0)) := by
  unfold text
  rw [if_neg h, String.toList_intercalate, map_items, flatMap_item]
  rfl

/-- A duration that is not zero is written as items that the reader can add, and they make it
up. -/
theorem exists_parts {d : Duration} (h : d.nanos ≠ 0) : ∃ p ps,
    d.text.toList = textOf (p :: ps) ∧ (∀ q ∈ p :: ps, q.Valid) ∧ total (p :: ps) = d.nanos := by
  have htotal : total (d.parts.filter (·.count ≠ 0)) = d.nanos := by
    rw [total_filter, total_parts]
  have hvalid : ∀ p ∈ d.parts.filter (·.count ≠ 0), p.Valid := fun p hp =>
    valid_of_mem_parts (List.mem_of_mem_filter hp)
  rw [toList_text h]
  cases hps : d.parts.filter (·.count ≠ 0) with
  | nil => rw [hps] at htotal; exact absurd htotal.symm h
  | cons p ps => exact ⟨p, ps, rfl, hps ▸ hvalid, hps ▸ htotal⟩

/-- A written duration is read as itself. -/
theorem parse_text (d : Duration) : parse d.text.toList = .ok d := by
  by_cases hd : d.nanos = 0
  · obtain ⟨nanos, hnanos⟩ := d
    obtain rfl : nanos = 0 := hd
    show parse zero.text.toList = .ok zero
    decide
  · have hlt : d.nanos < limit := d.nanos_lt
    obtain ⟨p, ps, htext, hvalid, htotal⟩ := exists_parts hd
    obtain ⟨sum, last, hscan, hfinish⟩ := scan_textOf hvalid 0 (by omega) 0 0
    rw [Nat.zero_add, htotal] at hfinish
    rw [htext]
    unfold parse
    split
    · next hzero =>
      -- the text of an item ends in a unit, which a lone zero does not
      rw [hzero] at hscan
      obtain ⟨rfl, rfl⟩ : 0 = sum ∧ Scan.whole (Decimal.digit '0') = last := by
        simpa [scan, advance] using hscan
      exact absurd hfinish (by simp [finish])
    · simp only [hscan, hfinish, bind, Except.bind, ofNanos?, dif_pos hlt, pure, Except.pure]

/-! ### Written durations in longer texts -/

theorem Part.Valid.mem_text {p : Part} (h : p.Valid) {c : Char} (hc : c ∈ p.text) :
    (c.isDigit = true ∨ isUnitLetter c = true) ∧ isBlank c = false := by
  rcases List.mem_append.1 hc with hc | hc
  · have hdigit := Decimal.isDigit_of_mem_write hc
    exact ⟨.inl hdigit, Decimal.isBlank_of_isDigit hdigit⟩
  · obtain ⟨hletter, -, hblank⟩ := (Unit.letters_of_mem_names h.name).2 c hc
    exact ⟨.inr hletter, hblank⟩

theorem Part.Valid.isSolid_text {p : Part} (h : p.Valid) : IsSolid p.text where
  ne_nil := by simp [Part.text, Decimal.write_ne_nil]
  trimmed := by
    refine trim_of_hasBlank (List.any_eq_false.2 fun c hc => ?_)
    rw [(h.mem_text hc).2]
    decide

theorem isSolid_textOf {p : Part} {ps : List Part} (h : ∀ q ∈ p :: ps, q.Valid) :
    IsSolid (textOf (p :: ps)) := by
  induction ps generalizing p with
  | nil => simpa [textOf] using (h p List.mem_cons_self).isSolid_text
  | cons q rest ih =>
      have hrest := ih fun r hr => h r (List.mem_cons_of_mem p hr)
      rw [textOf_cons_cons]
      simpa using (h p List.mem_cons_self).isSolid_text.append [' '] hrest

theorem mem_textOf {p : Part} {ps : List Part} (h : ∀ q ∈ p :: ps, q.Valid) {c : Char}
    (hc : c ∈ textOf (p :: ps)) : c.isDigit = true ∨ isUnitLetter c = true ∨ c = ' ' := by
  induction ps generalizing p with
  | nil =>
      have hp : c ∈ p.text := by simpa [textOf] using hc
      exact ((h p List.mem_cons_self).mem_text hp).1.imp_right .inl
  | cons q rest ih =>
      rw [textOf_cons_cons] at hc
      rcases List.mem_append.1 hc with hc | hc
      · exact ((h p List.mem_cons_self).mem_text hc).1.imp_right .inl
      · rcases List.mem_cons.1 hc with rfl | hc
        · exact .inr (.inr rfl)
        · exact ih (fun r hr => h r (List.mem_cons_of_mem p hr)) hc

/-- A written duration is not empty, has no blank at its ends, and no characters but digits, letters
of units and spaces. -/
theorem text_chars (d : Duration) : IsSolid d.text.toList ∧
    ∀ c ∈ d.text.toList, c.isDigit = true ∨ isUnitLetter c = true ∨ c = ' ' := by
  by_cases hd : d.nanos = 0
  · have htext : d.text.toList = ['0', 's'] := by
      unfold text
      rw [if_pos hd]
      rfl
    rw [htext]
    refine ⟨⟨by decide, by decide⟩, fun c hc => ?_⟩
    rcases List.mem_cons.1 hc with rfl | hc
    · exact .inl (by decide)
    · obtain rfl := List.mem_singleton.1 hc
      exact .inr (.inl (by decide))
  · obtain ⟨p, ps, htext, hvalid, -⟩ := exists_parts hd
    rw [htext]
    exact ⟨isSolid_textOf hvalid, fun c => mem_textOf hvalid⟩

end FaultDrill.Duration
