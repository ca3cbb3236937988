import FaultDrill.Text.Utf8

/-!
# FaultDrill.Text.Radix

Digits in a base of at most sixteen. The digits above nine are letters, read in either case and
written in lower case. The main statement is that a written digit reads back (`digit?_char`).

Bytes as text have two hexadecimal digits for each (`Hex`).
-/

namespace FaultDrill.Text.Radix

/-- The value of a digit in a base. -/
def digit? (base : Nat) (c : Char) : Option Nat :=
  let v? :=
    if c.isDigit then some (c.toNat - '0'.toNat)
    else if 'a' ≤ c ∧ c ≤ 'f' then some (c.toNat - 'a'.toNat + 10)
    else if 'A' ≤ c ∧ c ≤ 'F' then some (c.toNat - 'A'.toNat + 10)
    else none
  v?.filter (· < base)

/-- The number with the given digits, the most significant first. -/
def ofDigits (base : Nat) (digits : List Nat) : Nat :=
  digits.foldl (fun n d => base * n + d) 0

/-- The digits at the start of a text. -/
def leading (base : Nat) (s : List Char) : List Nat :=
  (s.takeWhile fun c => (digit? base c).isSome).filterMap (digit? base)

/-- The character of a digit. -/
def char (d : Nat) : Char :=
  if d < 10 then Char.ofNat ('0'.toNat + d) else Char.ofNat ('a'.toNat + (d - 10))

/-- A written digit reads back. -/
theorem digit?_char {d : Nat} (h : d < 16) : digit? 16 (char d) = some d := by
  revert d
  decide

end FaultDrill.Text.Radix

/-! ### Bytes -/

namespace FaultDrill.Text.Hex

/-- The two digits of a byte. -/
def ofByte (b : UInt8) : List Char :=
  [Radix.char (b.toNat / 16), Radix.char (b.toNat % 16)]

/-- The digits of bytes. -/
def write (bytes : Bytes) : List Char :=
  bytes.flatMap ofByte

/-- The bytes of digits. -/
def read? : List Char → Option Bytes
  | [] => some []
  | [_] => none
  | a :: b :: rest => do
    let high ← Radix.digit? 16 a
    let low ← Radix.digit? 16 b
    return UInt8.ofNat (16 * high + low) :: (← read? rest)

end FaultDrill.Text.Hex
