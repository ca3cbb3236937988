import FaultDrill.Proofs.Text.Blank
import FaultDrill.Text.Decimal

/-!
# FaultDrill.Proofs.Text.Decimal

Written numbers inside longer texts: they have digits only, so they hold no blank and no separator,
and they are the numbers that string interpolation writes. Reading takes a number in more forms than
the written one, and these are exactly the ones of `Numeral` (`read?_eq_some_iff`).
-/

namespace FaultDrill.Text.Decimal

theorem toNat_of_isDigit {c : Char} (h : c.isDigit = true) : 48 ≤ c.toNat ∧ c.toNat ≤ 57 := by
  simp only [Char.isDigit, Bool.and_eq_true, decide_eq_true_eq, ge_iff_le,
    UInt32.le_iff_toNat_le] at h
  exact h

theorem isBlank_of_isDigit {c : Char} (h : c.isDigit = true) : isBlank c = false := by
  obtain ⟨hlow, hhigh⟩ := toNat_of_isDigit h
  exact isBlank_of_ascii (by omega) (by omega)

theorem isDigit_of_mem_write {n : Nat} {c : Char} (h : c ∈ write n) : c.isDigit = true :=
  List.all_eq_true.1 (all_isDigit_write n) c h

/-- A written number holds no character but digits. -/
theorem not_mem_write {n : Nat} {c : Char} (h : c.isDigit = false) : c ∉ write n :=
  fun hmem => by rw [isDigit_of_mem_write hmem] at h; cases h

theorem hasBlank_of_isDigit {digits : List Char} (h : ∀ c ∈ digits, c.isDigit = true) :
    hasBlank digits = false :=
  List.any_eq_false.2 fun c hc => by simp [isBlank_of_isDigit (h c hc)]

theorem hasBlank_write (n : Nat) : hasBlank (write n) = false :=
  hasBlank_of_isDigit fun _ => isDigit_of_mem_write

@[simp] theorem trim_write (n : Nat) : trim (write n) = write n :=
  trim_of_hasBlank (hasBlank_write n)

/-- Further digits never make a number smaller. -/
theorem le_value (n : Nat) (digits : List Char) : n ≤ value n digits := by
  induction digits generalizing n with
  | nil => exact Nat.le_refl n
  | cons c more ih =>
      have hstep : 10 * n + digit c ≤ value n (c :: more) := ih (10 * n + digit c)
      omega

/-- A written number of sixty-four bits is read as itself. -/
@[simp] theorem read64?_write (n : UInt64) : read64? (write n.toNat) = some n := by
  unfold read64?
  rw [read?_write n.toNat_lt]
  simp

theorem digitChar_eq_char {d : Nat} (h : d < 10) : d.digitChar = char d := by
  match d, h with
  | 0, _ | 1, _ | 2, _ | 3, _ | 4, _ | 5, _ | 6, _ | 7, _ | 8, _ | 9, _ => rfl
  | d + 10, h => omega

theorem toDigits_eq_write (n : Nat) : Nat.toDigits 10 n = write n := by
  induction n using Nat.strongRecOn with
  | ind n ih =>
      unfold write
      split
      · next h => rw [Nat.toDigits_of_lt_base h, digitChar_eq_char h]
      · next h =>
        rw [Nat.toDigits_of_base_le (by decide) (by omega), ih (n / 10) (by omega),
          digitChar_eq_char (Nat.mod_lt n (by decide))]

/-! ### What denotes a number -/

/-- A whole number as it may be written, and what it is: digits, and possibly a plus sign before
them. -/
inductive Numeral : List Char → Nat → Prop
  | plain {digits : List Char} (hne : digits ≠ []) (hdigits : ∀ c ∈ digits, c.isDigit = true) :
      Numeral digits (value 0 digits)
  | plus {digits : List Char} (hne : digits ≠ []) (hdigits : ∀ c ∈ digits, c.isDigit = true) :
      Numeral ('+' :: digits) (value 0 digits)

theorem numeral_write (n : Nat) : Numeral (write n) n := by
  have h := Numeral.plain (write_ne_nil n) fun _ => isDigit_of_mem_write
  rwa [value_write] at h

theorem read?_of_ne_plus {bound : Nat} {s : List Char} (h : ∀ rest, s ≠ '+' :: rest) :
    read? bound s =
      if s ≠ [] ∧ s.all Char.isDigit ∧ value 0 s < bound then some (value 0 s) else none := by
  unfold read?
  dsimp only
  split
  · next rest => exact absurd rfl (h rest)
  · rfl

theorem Numeral.isWord {s : List Char} {n : Nat} (h : Numeral s n) : IsWord s := by
  cases h with
  | plain hne hdigits => exact ⟨hne, hasBlank_of_isDigit hdigits⟩
  | plus _ hdigits =>
      refine ⟨by simp, ?_⟩
      have hplus : isBlank '+' = false := by decide
      have hrest := hasBlank_of_isDigit hdigits
      unfold hasBlank at hrest ⊢
      rw [List.any_cons, hplus, hrest]
      rfl

/-- A number is read exactly from what denotes one that is small enough. -/
theorem read?_eq_some_iff {bound n : Nat} {s : List Char} :
    read? bound s = some n ↔ Numeral s n ∧ n < bound := by
  by_cases hplus : ∃ digits, s = '+' :: digits
  · obtain ⟨digits, rfl⟩ := hplus
    show (if digits ≠ [] ∧ digits.all Char.isDigit ∧ value 0 digits < bound then
      some (value 0 digits) else none) = some n ↔ _
    rw [Option.ite_none_right_eq_some, List.all_eq_true]
    constructor
    · rintro ⟨⟨hne, hdigits, hlt⟩, ⟨⟩⟩
      exact ⟨.plus hne hdigits, hlt⟩
    · rintro ⟨h, hlt⟩
      cases h with
      | plain _ hdigits => exact absurd (hdigits '+' List.mem_cons_self) (by decide)
      | plus hne hdigits => exact ⟨⟨hne, hdigits, hlt⟩, rfl⟩
  · rw [not_exists] at hplus
    rw [read?_of_ne_plus hplus, Option.ite_none_right_eq_some, List.all_eq_true]
    constructor
    · rintro ⟨⟨hne, hdigits, hlt⟩, ⟨⟩⟩
      exact ⟨.plain hne hdigits, hlt⟩
    · rintro ⟨h, hlt⟩
      cases h with
      | plain hne hdigits => exact ⟨⟨hne, hdigits, hlt⟩, rfl⟩
      | plus => exact absurd rfl (hplus _)

/-! ### Interpolated strings -/

/-- A string in an interpolated string is itself. -/
@[simp] theorem toString_string (s : String) : toString s = s := rfl

/-- A number in an interpolated string has the digits of a written number. -/
theorem toList_toString (n : Nat) : (toString n).toList = write n := by
  rw [← toDigits_eq_write]
  exact Nat.toList_repr

end FaultDrill.Text.Decimal
