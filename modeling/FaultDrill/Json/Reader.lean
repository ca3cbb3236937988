import FaultDrill.Json.Value
import FaultDrill.Text.Decimal
import FaultDrill.Text.Radix

/-!
# FaultDrill.Json.Reader

Reading JSON text. Every function takes what remains of the text and gives back what it leaves. The
nesting of values is bounded by a measure that starts at the length of the text, which no text
exceeds, since every level takes at least one character.
-/

namespace FaultDrill.Json

open FaultDrill.Text

/-- The characters allowed between tokens. -/
def isSpace (c : Char) : Bool :=
  c = ' ' || c = '\n' || c = '\r' || c = '\t'

/-- The text from its next token on. -/
def skipSpace (s : List Char) : List Char :=
  s.dropWhile isSpace

/-! ### Strings -/

/-- The number that four hexadecimal digits denote. -/
def hex4? (a b c d : Char) : Option Nat := do
  let a ← Radix.digit? 16 a
  let b ← Radix.digit? 16 b
  let c ← Radix.digit? 16 c
  let d ← Radix.digit? 16 d
  return ((a * 16 + b) * 16 + c) * 16 + d

/-- The character of a simple escape. -/
def simpleEscape? : Char → Option Char
  | '"' => some '"'
  | '\\' => some '\\'
  | '/' => some '/'
  | 'b' => some '\x08'
  | 'f' => some '\x0C'
  | 'n' => some '\n'
  | 'r' => some '\r'
  | 't' => some '\t'
  | _ => none

/-- Whether a code unit is the first, or the second, half of a pair. -/
def isHighHalf (n : Nat) : Bool := 0xD800 ≤ n && n < 0xDC00

/-- Whether a code unit is the second half of a pair. -/
def isLowHalf (n : Nat) : Bool := 0xDC00 ≤ n && n < 0xE000

/-- Reads the rest of a string, after its opening quotation mark. -/
def readString (read : List Char) : List Char → Option (String × List Char)
  | [] => none
  | '"' :: rest => some (String.ofList read.reverse, rest)
  | '\\' :: 'u' :: a :: b :: c :: d :: '\\' :: 'u' :: e :: f :: g :: h :: rest =>
    match hex4? a b c d, hex4? e f g h with
    | some high, some low =>
      if isHighHalf high then
        if isLowHalf low then
          readString (Char.ofNat (0x10000 + (high - 0xD800) * 0x400 + (low - 0xDC00)) :: read) rest
        else none
      else if isLowHalf high then none
      -- the second escape may begin a pair of its own
      else if isHighHalf low then
        readString (Char.ofNat high :: read) ('\\' :: 'u' :: e :: f :: g :: h :: rest)
      else if isLowHalf low then none
      else readString (Char.ofNat low :: Char.ofNat high :: read) rest
    | _, _ => none
  | '\\' :: 'u' :: a :: b :: c :: d :: rest =>
    match hex4? a b c d with
    | some n =>
      if isHighHalf n || isLowHalf n then none else readString (Char.ofNat n :: read) rest
    | none => none
  | '\\' :: c :: rest =>
    match simpleEscape? c with
    | some e => readString (e :: read) rest
    | none => none
  | c :: rest => if c.toNat < 0x20 || c = '\\' then none else readString (c :: read) rest
termination_by s => s.length

/-! ### Numbers -/

/-- What follows a run of digits, which has at least one. -/
def afterDigits? (s : List Char) : Option (List Char) :=
  if (s.takeWhile Char.isDigit).isEmpty then none else some (s.dropWhile Char.isDigit)

/-- What follows an optional exponent. -/
def afterExponent? : List Char → Option (List Char)
  | c :: rest =>
    if c = 'e' ∨ c = 'E' then
      match rest with
      | '+' :: digits | '-' :: digits => afterDigits? digits
      | digits => afterDigits? digits
    else some (c :: rest)
  | [] => some []

/-- What follows an optional fraction and exponent, and whether there was one. -/
def afterFraction? (s : List Char) : Option (Bool × List Char) := do
  let rest ← match s with
    | '.' :: digits => afterDigits? digits >>= afterExponent?
    | _ => afterExponent? s
  return (rest.length != s.length, rest)

/-- A whole number, if it fits sixty-four bits with or without a sign. -/
def ofDigits (negative : Bool) (digits : List Char) : Json :=
  let n := Decimal.value 0 digits
  if negative then
    if n = 0 ∨ (UInt64.size / 2) < n then .real else .int (-n)
  else if n < UInt64.size then .int n else .real

/-- Reads a number. -/
def readNumber (s : List Char) : Option (Json × List Char) := do
  let (negative, body) := match s with
    | '-' :: rest => (true, rest)
    | _ => (false, s)
  let digits := body.takeWhile Char.isDigit
  if digits.isEmpty ∨ (digits.length ≠ 1 ∧ digits.head? = some '0') then none
  else
    let (fraction, rest) ← afterFraction? (body.dropWhile Char.isDigit)
    return (if fraction then .real else ofDigits negative digits, rest)

/-! ### Values -/

mutual

/-- Reads a value with at most `depth` levels. -/
def readValue : Nat → List Char → Option (Json × List Char)
  | 0, _ => none
  | depth + 1, s =>
    match skipSpace s with
    | 'n' :: 'u' :: 'l' :: 'l' :: rest => some (.null, rest)
    | 't' :: 'r' :: 'u' :: 'e' :: rest => some (.bool true, rest)
    | 'f' :: 'a' :: 'l' :: 's' :: 'e' :: rest => some (.bool false, rest)
    | '"' :: rest => (readString [] rest).map fun (t, rest) => (.str t, rest)
    | '[' :: rest =>
      match skipSpace rest with
      | ']' :: rest => some (.arr [], rest)
      | _ => (readItems depth rest).map fun (items, rest) => (.arr items, rest)
    | '\x7b' :: rest =>
      match skipSpace rest with
      | '\x7d' :: rest => some (.obj [], rest)
      | _ => (readFields depth rest).map fun (fields, rest) => (.obj fields, rest)
    | rest => readNumber rest

/-- Reads items up to and with the closing bracket. -/
def readItems : Nat → List Char → Option (List Json × List Char)
  | 0, _ => none
  | depth + 1, s =>
    match readValue depth s with
    | none => none
    | some (v, rest) =>
      match skipSpace rest with
      | ',' :: rest => (readItems depth rest).map fun (items, rest) => (v :: items, rest)
      | ']' :: rest => some ([v], rest)
      | _ => none

/-- Reads fields up to and with the closing brace. -/
def readFields : Nat → List Char → Option (List (String × Json) × List Char)
  | 0, _ => none
  | depth + 1, s =>
    match skipSpace s with
    | '"' :: rest =>
      match readString [] rest with
      | none => none
      | some (name, rest) =>
        match skipSpace rest with
        | ':' :: rest =>
          match readValue depth rest with
          | none => none
          | some (v, rest) =>
            match skipSpace rest with
            | ',' :: rest =>
              (readFields depth rest).map fun (fields, rest) => ((name, v) :: fields, rest)
            | '\x7d' :: rest => some ([(name, v)], rest)
            | _ => none
        | _ => none
    | _ => none

end

/-- The value that a whole text denotes. -/
def read? (s : String) : Option Json :=
  let chars := s.toList
  match readValue (chars.length + 1) chars with
  | some (v, rest) => if (skipSpace rest).isEmpty then some v else none
  | none => none

end FaultDrill.Json
