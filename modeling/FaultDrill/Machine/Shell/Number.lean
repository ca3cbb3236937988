import FaultDrill.Text.Radix

/-!
# FaultDrill.Machine.Shell.Number

Whole numbers at the start of a text: blanks, a sign, and digits. If the base is not known, a
leading zero stands for eight, `0x` for sixteen and `0b` for two. A number that is too great for its
word is cut to the greatest one.
-/

namespace FaultDrill.Shell.Number

open FaultDrill.Text

/-- The blanks that may stand before and after a number. -/
def isBlank (c : Char) : Bool :=
  [' ', '\t', '\n', '\x0b', '\x0c', '\r'].contains c

/-- The greatest number of a word with a sign. -/
def greatest : Int := 9223372036854775807

/-- The least number of a word with a sign. -/
def least : Int := -9223372036854775808

/-- The base of digits, and the digits. -/
def baseOf : List Char → Nat × List Char
  | '0' :: x :: d :: rest =>
    if (x = 'x' || x = 'X') && (Radix.digit? 16 d).isSome then (16, d :: rest)
    else if (x = 'b' || x = 'B') && (Radix.digit? 2 d).isSome then (2, d :: rest)
    else (8, '0' :: x :: d :: rest)
  | '0' :: rest => (8, '0' :: rest)
  | s => (10, s)

/-- What has been found at the start of a text. -/
structure Run where
  negative : Bool
  size : Nat
  /-- What follows the digits. -/
  rest : List Char
  /-- Whether there were any digits. -/
  found : Bool

/-- The digits at the start of a text, in base ten or in the base that they say. -/
def run (anyBase : Bool) (s : List Char) : Run :=
  let digits := s.dropWhile isBlank
  let (negative, digits) := match digits with
    | '-' :: rest => (true, rest)
    | '+' :: rest => (false, rest)
    | rest => (false, rest)
  let (base, digits) := if anyBase then baseOf digits else (10, digits)
  let found := Radix.leading base digits
  if found.isEmpty then ⟨false, 0, s, false⟩
  else ⟨negative, Radix.ofDigits base found, digits.drop found.length, true⟩

/-- A number at the start of a text. -/
structure Scanned where
  value : Int
  rest : List Char
  found : Bool
  /-- Whether the number had to be cut. -/
  isCut : Bool

/-- The number at the start of a text. -/
def scan (anyBase : Bool) (s : List Char) : Scanned :=
  let r := run anyBase s
  let n : Int := if r.negative then -r.size else r.size
  ⟨max least (min greatest n), r.rest, r.found, n < least || greatest < n⟩

/-- The number at the start of a text as a word without a sign. -/
def scanUnsigned (anyBase : Bool) (s : List Char) : Scanned :=
  let r := run anyBase s
  if UInt64.size ≤ r.size then ⟨UInt64.size - 1, r.rest, r.found, true⟩
  else
    let n : Int := if r.negative then -r.size else r.size
    ⟨n % (UInt64.size : Int), r.rest, r.found, false⟩

/-- A whole text as a number in base ten, with blanks around it. -/
def whole? (s : String) : Option Int :=
  let n := scan false s.toList
  if n.found && !n.isCut && n.rest.all isBlank then some n.value else none

/-- A whole text as a number that is not below zero and fits half a word. -/
def natural? (s : String) : Option Nat :=
  match s.toList with
  | [] => none
  | digits =>
    let n := Radix.ofDigits 10 (Radix.leading 10 digits)
    if digits.all Char.isDigit && n < 2147483648 then some n else none

end FaultDrill.Shell.Number
