/-!
# FaultDrill.Text.Decimal

Whole numbers in decimal. Reading takes one leading plus sign and any number of leading zeros, only
ASCII digits, at least one of them, and nothing at or above a given bound. Writing gives the fewest
digits. The main statement is that a written number reads back (`read?_write`).
-/

namespace FaultDrill.Text.Decimal

/-- The value of an ASCII digit. -/
def digit (c : Char) : Nat :=
  c.toNat - '0'.toNat

/-- The number that a run of digits denotes after the value `start`. -/
def value (start : Nat) (digits : List Char) : Nat :=
  digits.foldl (fun n c => 10 * n + digit c) start

/-- Reads a number below `bound`. -/
def read? (bound : Nat) (s : List Char) : Option Nat :=
  let digits := match s with
    | '+' :: rest => rest
    | _ => s
  if digits ≠ [] ∧ digits.all Char.isDigit ∧ value 0 digits < bound then
    some (value 0 digits)
  else
    none

/-- The character of a digit. -/
def char (d : Nat) : Char :=
  Char.ofNat ('0'.toNat + d)

/-- The digits of a number, most significant first. -/
def write (n : Nat) : List Char :=
  if n < 10 then [char n] else write (n / 10) ++ [char (n % 10)]

/-- A number as a string. -/
def text (n : Nat) : String :=
  String.ofList (write n)

/-! ### Words of fixed width -/

/-- Reads a number that fits sixteen bits. -/
def read16? (s : List Char) : Option UInt16 :=
  (read? UInt16.size s).map UInt16.ofNat

/-- Reads a number that fits thirty-two bits. -/
def read32? (s : List Char) : Option UInt32 :=
  (read? UInt32.size s).map UInt32.ofNat

/-- Reads a number that fits sixty-four bits. -/
def read64? (s : List Char) : Option UInt64 :=
  (read? UInt64.size s).map UInt64.ofNat

/-! ### A written number reads back -/

theorem digit_char {d : Nat} (h : d < 10) : digit (char d) = d := by
  match d, h with
  | 0, _ | 1, _ | 2, _ | 3, _ | 4, _ | 5, _ | 6, _ | 7, _ | 8, _ | 9, _ => rfl
  | n + 10, h => omega

theorem isDigit_char {d : Nat} (h : d < 10) : (char d).isDigit = true := by
  match d, h with
  | 0, _ | 1, _ | 2, _ | 3, _ | 4, _ | 5, _ | 6, _ | 7, _ | 8, _ | 9, _ => rfl
  | n + 10, h => omega

theorem write_ne_nil (n : Nat) : write n ≠ [] := by
  unfold write
  split <;> simp

theorem all_isDigit_write (n : Nat) : (write n).all Char.isDigit = true := by
  induction n using Nat.strongRecOn with
  | ind n ih =>
    unfold write
    split
    · next h => simp [isDigit_char h]
    · next h =>
      simp [List.all_append, ih (n / 10) (by omega),
        isDigit_char (Nat.mod_lt n (by decide : 0 < 10))]

theorem value_append (start : Nat) (s t : List Char) :
    value start (s ++ t) = value (value start s) t := by
  simp [value, List.foldl_append]

theorem value_write (n : Nat) : value 0 (write n) = n := by
  induction n using Nat.strongRecOn with
  | ind n ih =>
    unfold write
    split
    · next h => simp [value, digit_char h]
    · next h =>
      rw [value_append, ih (n / 10) (by omega)]
      simp only [value, List.foldl_cons, List.foldl_nil,
        digit_char (Nat.mod_lt n (by decide : 0 < 10))]
      omega

theorem head_write_ne_plus {n : Nat} {rest : List Char} : write n ≠ '+' :: rest := by
  intro h
  have := all_isDigit_write n
  rw [h] at this
  simp [Char.isDigit] at this

/-- A written number below the bound is read as itself. -/
theorem read?_write {bound n : Nat} (h : n < bound) : read? bound (write n) = some n := by
  have hs : (match write n with | '+' :: rest => rest | _ => write n) = write n := by
    split
    · next heq => exact absurd heq head_write_ne_plus
    · rfl
  unfold read?
  rw [hs]
  simp [write_ne_nil, all_isDigit_write, value_write, h]

end FaultDrill.Text.Decimal
