import FaultDrill.Text.Decimal
import FaultDrill.Text.Radix
import FaultDrill.Toml.Value

/-!
# FaultDrill.Toml.Scalar

The unquoted scalars of TOML: truth values, whole numbers in four bases, floats and times. A scalar
is recognised from its whole text. Of a float only its being one is kept; a time is kept in one
spelling.
-/

namespace FaultDrill.Toml

open FaultDrill.Text

/-! ### Digits -/

/-- The digits of a number, where single underscores may stand between them. -/
def digits? (base : Nat) (s : List Char) : Option (List Nat) :=
  (s.splitOn '_').foldl (fun read part =>
    match read, part.mapM (Radix.digit? base) with
    | some done, some new => if new.isEmpty then none else some (done ++ new)
    | _, _ => none) (some [])

/-- A decimal number without a sign and without needless zeros. -/
def decimal? (s : List Char) : Option Nat := do
  let digits ← digits? 10 s
  if s.head? = some '0' ∧ s.length ≠ 1 then none else some (Radix.ofDigits 10 digits)

/-- The widest range that a whole number may have. -/
def inRange (n : Int) : Bool :=
  -(UInt64.size * UInt64.size / 2 : Nat) ≤ n && n < (UInt64.size * UInt64.size : Nat)

/-- A whole number. -/
def integer? (s : List Char) : Option Int := do
  let n : Int ← match s with
    | '0' :: 'x' :: rest => (digits? 16 rest).map fun d => (Radix.ofDigits 16 d : Int)
    | '0' :: 'o' :: rest => (digits? 8 rest).map fun d => (Radix.ofDigits 8 d : Int)
    | '0' :: 'b' :: rest => (digits? 2 rest).map fun d => (Radix.ofDigits 2 d : Int)
    | '+' :: rest => (decimal? rest).map fun n => (n : Int)
    | '-' :: rest => (decimal? rest).map fun n => -(n : Int)
    | rest => (decimal? rest).map fun n => (n : Int)
  if inRange n then some n else none

/-! ### Floats -/

/-- The least magnitude that is nearer to infinity than to the greatest float. -/
def floatBound : Nat :=
  Nat.pow 2 970 * (Nat.pow 2 54 - 1)

/-- Whether `n` times a power of ten is too great for a float. Numbers that are far from the bound
are told by their length, so that no exponent makes the computation long. -/
def overflows (n : Nat) (exponent : Int) : Bool :=
  let size := (Decimal.write n).length + exponent
  if n = 0 ∨ size < 300 then false
  else if 400 < size then true
  else if 0 ≤ exponent then floatBound ≤ n * Nat.pow 10 exponent.toNat
  else floatBound * Nat.pow 10 (-exponent).toNat ≤ n

/-- The number after the letter of an exponent. -/
def exponent? : List Char → Option Int
  | '-' :: rest => (digits? 10 rest).map fun d => -(Radix.ofDigits 10 d : Int)
  | '+' :: rest => (digits? 10 rest).map fun d => (Radix.ofDigits 10 d : Int)
  | rest => (digits? 10 rest).map fun d => (Radix.ofDigits 10 d : Int)

/-- Whether a text is a float that is not too great. -/
def isFloat (s : List Char) : Bool :=
  let body := match s with
    | '+' :: rest | '-' :: rest => rest
    | rest => rest
  if body = "inf".toList ∨ body = "nan".toList then true
  else
    let isE := fun c => c = 'e' || c = 'E'
    let mantissa := body.takeWhile (!isE ·)
    let exponent := body.dropWhile (!isE ·)
    let whole := mantissa.takeWhile (· ≠ '.')
    let fraction := mantissa.dropWhile (· ≠ '.')
    if fraction.isEmpty ∧ exponent.isEmpty then false
    else
      match decimal? whole,
        (if fraction.isEmpty then some [] else digits? 10 (fraction.drop 1)),
        (if exponent.isEmpty then some 0 else exponent? (exponent.drop 1)) with
      | some n, some digits, some e =>
        !overflows (digits.foldl (fun n d => 10 * n + d) n) (e - digits.length)
      | _, _, _ => false

/-! ### Times -/

/-- A number of exactly `n` digits. -/
def fixed? (n : Nat) (s : List Char) : Option Nat :=
  if s.length = n ∧ s.all Char.isDigit then some (Decimal.value 0 s) else none

/-- The days of a month. -/
def daysOf (year month : Nat) : Nat :=
  if month = 2 then
    if year % 4 = 0 ∧ (year % 100 ≠ 0 ∨ year % 400 = 0) then 29 else 28
  else if [4, 6, 9, 11].contains month then 30 else 31

/-- Whether a text is a date. -/
def isDate (s : List Char) : Bool :=
  match s.splitOn '-' with
  | [y, m, d] =>
    match fixed? 4 y, fixed? 2 m, fixed? 2 d with
    | some y, some m, some d => 1 ≤ m && m ≤ 12 && 1 ≤ d && d ≤ daysOf y m
    | _, _, _ => false
  | _ => false

/-- Whether a text is an hour and a minute. -/
def isHourMinute (h m : List Char) : Bool :=
  match fixed? 2 h, fixed? 2 m with
  | some h, some m => h ≤ 23 && m ≤ 59
  | _, _ => false

/-- Whether a text is the whole seconds of a time. A minute may have one second more. -/
def isSecond (s : List Char) : Bool :=
  match fixed? 2 s with
  | some n => n ≤ 60
  | none => false

/-- The fraction of a second as it is kept: nine digits at most, and no needless zeros. -/
def fractionText (digits : List Char) : List Char :=
  match ((digits.take 9).reverse.dropWhile (· = '0')).reverse with
  | [] => ['0']
  | digits => digits

/-- The seconds of a time as they are kept, with or without a fraction. -/
def secondsText? (s : List Char) : Option (List Char) :=
  let whole := s.takeWhile (· ≠ '.')
  if isSecond whole then
    match s.dropWhile (· ≠ '.') with
    | [] => some whole
    | _ :: digits =>
      if digits ≠ [] ∧ digits.all Char.isDigit then some (whole ++ '.' :: fractionText digits)
      else none
  else none

/-- A time of day as it is kept. -/
def timeText? (s : List Char) : Option (List Char) :=
  match s.splitOn ':' with
  | [h, m] => if isHourMinute h m then some s else none
  | [h, m, sec] =>
    if isHourMinute h m then (secondsText? sec).map fun sec => h ++ ':' :: m ++ ':' :: sec
    else none
  | _ => none

/-- An offset from universal time as it is kept. No offset is below zero by nothing. -/
def offsetText? : List Char → Option (List Char)
  | ['Z'] | ['z'] => some ['Z']
  | '+' :: rest =>
    match rest.splitOn ':' with
    | [h, m] => if isHourMinute h m then some ('+' :: rest) else none
    | _ => none
  | '-' :: rest =>
    match rest.splitOn ':' with
    | [h, m] =>
      if isHourMinute h m then
        some ((if rest = "00:00".toList then '+' else '-') :: rest)
      else none
    | _ => none
  | _ => none

/-- A time of day with or without an offset as it is kept. -/
def timeWithOffsetText? (s : List Char) : Option (List Char) := do
  let isMark := fun c => ['Z', 'z', '+', '-'].contains c
  let time ← timeText? (s.takeWhile (!isMark ·))
  match s.dropWhile (!isMark ·) with
  | [] => return time
  | offset => return time ++ (← offsetText? offset)

/-- A date, a time, or both, as they are kept. -/
def datetimeText? (s : List Char) : Option (List Char) :=
  let date := s.take 10
  if isDate date then
    match s.drop 10 with
    | [] => some date
    | c :: time =>
      if c = 'T' ∨ c = 't' ∨ c = ' ' then
        (timeWithOffsetText? time).map fun time => date ++ 'T' :: time
      else none
  else timeText? s

/-! ### Scalars -/

/-- The value of an unquoted scalar. -/
def scalar? (s : List Char) : Option Value :=
  if s = "true".toList then some (.boolean true)
  else if s = "false".toList then some (.boolean false)
  else
    match integer? s with
    | some n => some (.integer n)
    | none =>
      if isFloat s then some .float
      else (datetimeText? s).map fun text => .datetime (String.ofList text)

end FaultDrill.Toml
