import FaultDrill.Duration.Basic
import FaultDrill.Text.Blank
import FaultDrill.Text.Decimal

/-!
# FaultDrill.Duration.Text

Durations as people write them: numbers with units, `1h 30m` or `250ms`, the last number of a unit
possibly with a fraction. Reading goes through the characters once, with the place it has reached
kept in bytes for the error texts. Writing gives years, months and days, then hours, minutes,
seconds and the three parts of a second, each only if it is not zero.
-/

namespace FaultDrill.Duration

open FaultDrill.Text

/-! ### Errors -/

/-- Why a text is no duration. -/
inductive ParseError where
  | empty
  | expectedNumber (offset : Nat)
  | invalidCharacter (offset : Nat)
  | unitNeeded (number : Nat)
  | unknownUnit (unit : String)
  /-- The duration is too long, or finer than a nanosecond. -/
  | unrepresentable
  deriving DecidableEq, Repr

/-- The wording of an error. -/
def ParseError.message : ParseError → String
  | .empty => "value was empty"
  | .expectedNumber offset => s!"expected number at {offset}"
  | .invalidCharacter offset => s!"invalid character at {offset}"
  | .unitNeeded n => s!"time unit needed, for example {n}sec or {n}ms"
  | .unknownUnit unit =>
    s!"unknown time unit \"{unit}\", supported units: " ++
      "ns, us/µs, ms, sec, min, hours, days, weeks, months, years (and few variations)"
  | .unrepresentable =>
    "number is too large or cannot be represented without a lack of precision " ++
      "(values below 1ns are not supported)"

/-! ### Units -/

/-- The units of time. -/
inductive Unit where
  | nano | micro | milli | second | minute | hour | day | week | month | year
  deriving DecidableEq, Repr

namespace Unit

/-- The seconds of a unit of at least a second. A month is a twelfth of a year, and a year has 365
and a quarter days. -/
def seconds : Unit → Nat
  | .nano | .micro | .milli => 0
  | .second => 1
  | .minute => 60
  | .hour => 3600
  | .day => 86400
  | .week => 604800
  | .month => 2630016
  | .year => 31557600

/-- The nanoseconds of a unit. -/
def nanos : Unit → Nat
  | .nano => 1
  | .micro => 1000
  | .milli => 1000000
  | unit => unit.seconds * nanosPerSecond

/-- The nanoseconds of the grain in which a whole number of the unit is counted: units of at least
a second are counted in seconds. -/
def grain : Unit → Nat
  | .nano | .micro | .milli => 1
  | _ => nanosPerSecond

/-- The grain in which a fraction of the unit is counted, where fractions are possible. -/
def fractionGrain? : Unit → Option Nat
  | .nano => none
  | .micro | .milli | .second | .minute => some 1
  | _ => some nanosPerSecond

/-- The names of a unit. -/
def names : Unit → List String
  | .nano => ["nanos", "nsec", "ns"]
  | .micro => ["usec", "us", "µs"]
  | .milli => ["millis", "msec", "ms"]
  | .second => ["seconds", "second", "secs", "sec", "s"]
  | .minute => ["minutes", "minute", "min", "mins", "m"]
  | .hour => ["hours", "hour", "hr", "hrs", "h"]
  | .day => ["days", "day", "d"]
  | .week => ["weeks", "week", "wk", "wks", "w"]
  | .month => ["months", "month", "M"]
  | .year => ["years", "year", "yr", "yrs", "y"]

/-- All units. -/
def all : List Unit :=
  [.nano, .micro, .milli, .second, .minute, .hour, .day, .week, .month, .year]

/-- The unit of a name. -/
def ofName? (name : String) : Option Unit :=
  all.find? (·.names.contains name)

end Unit

/-! ### Reading -/

/-- A fraction: its digits as a number, and the power of ten below them. -/
structure Fraction where
  numerator : Nat
  denominator : Nat
  deriving DecidableEq, Repr

/-- Where the reader stands. -/
inductive Scan where
  /-- Before a number; the offset is where the search for it began. -/
  | start (offset : Nat)
  | whole (n : Nat)
  /-- In a fraction; the offset follows what has been taken of it. -/
  | fraction (n : Nat) (f : Fraction) (offset : Nat)
  /-- In a unit, whose letters are kept in reverse. -/
  | unit (n : Nat) (f : Option Fraction) (letters : List Char)
  deriving Repr

/-- The letters a unit may have. -/
def isUnitLetter (c : Char) : Bool :=
  c.isAlpha || c == 'µ'

/-- A number that fits sixty-four bits. -/
def word (n : Nat) : Except ParseError Nat :=
  if n < UInt64.size then .ok n else .error .unrepresentable

/-- The total with `count` grains added. -/
def addGrains (total count grain : Nat) : Except ParseError Nat :=
  let sum := total + count * grain
  if grain = 1 ∧ UInt64.size ≤ total % nanosPerSecond + count then .error .unrepresentable
  else if sum < UInt64.size * nanosPerSecond then .ok sum
  else .error .unrepresentable

/-- Adds a finished item to the total. -/
def addItem (total n : Nat) (f : Option Fraction) (letters : List Char) :
    Except ParseError Nat := do
  let name := String.ofList letters.reverse
  match Unit.ofName? name with
  | none => throw (if letters.isEmpty then .unitNeeded n else .unknownUnit name)
  | some unit =>
    let count ← word (n * (unit.nanos / unit.grain))
    let total ← addGrains total count unit.grain
    match f with
    | none => return total
    | some f =>
      match unit.fractionGrain? with
      | none => throw .unrepresentable
      | some grain =>
        let scaled ← word (f.numerator * (unit.nanos / grain))
        if scaled % f.denominator = 0 then addGrains total (scaled / f.denominator) grain
        else throw .unrepresentable

/-- One character further, which stands at `offset`. -/
def advance (total : Nat) (offset : Nat) (c : Char) : Scan → Except ParseError (Nat × Scan)
  | .start since =>
    if c.isDigit then .ok (total, .whole (Decimal.digit c))
    else if isBlank c then .ok (total, .start since)
    else .error (.expectedNumber since)
  | .whole n =>
    if c.isDigit then do return (total, .whole (← word (10 * n + Decimal.digit c)))
    else if isBlank c then .ok (total, .whole n)
    else if isUnitLetter c then .ok (total, .unit n none [c])
    else if c == '.' then .ok (total, .fraction n ⟨0, 1⟩ offset)
    else .error (.invalidCharacter offset)
  | .fraction n f reached =>
    if c.isDigit then do
      let numerator ← word (10 * f.numerator + Decimal.digit c)
      let denominator ← word (10 * f.denominator)
      return (total, .fraction n ⟨numerator, denominator⟩ (offset + c.utf8Size))
    else if isBlank c then .ok (total, .fraction n f (offset + c.utf8Size))
    else if isUnitLetter c ∧ f.denominator ≠ 1 then .ok (total, .unit n (some f) [c])
    else .error (.invalidCharacter reached)
  | .unit n f letters =>
    if c.isDigit then do return (← addItem total n f letters, .whole (Decimal.digit c))
    else if isBlank c then do
      return (← addItem total n f letters, .start (offset + c.utf8Size))
    else if isUnitLetter c then .ok (total, .unit n f (c :: letters))
    else .error (.invalidCharacter offset)

/-- Reads the rest of the text, which begins at `offset`. -/
def scan (total offset : Nat) (at_ : Scan) : List Char → Except ParseError (Nat × Scan)
  | [] => .ok (total, at_)
  | c :: rest =>
    match advance total offset c at_ with
    | .ok (total, next) => scan total (offset + c.utf8Size) next rest
    | .error e => .error e

/-- The total at the end of the text. -/
def finish (total : Nat) : Scan → Except ParseError Nat
  | .start 0 => .error .empty
  | .start _ => .ok total
  | .whole n => .error (.unitNeeded n)
  | .fraction n f reached =>
    .error (if f.denominator = 1 then .invalidCharacter reached else .unitNeeded n)
  | .unit n f letters => addItem total n f letters

/-- Reads a duration. -/
def parse (s : List Char) : Except ParseError Duration :=
  if s = ['0'] then .ok zero
  else do
    let (total, last) ← scan 0 0 (.start 0) s
    match ofNanos? (← finish total last) with
    | some d => return d
    | none => throw .unrepresentable

/-! ### Writing -/

/-- An item with a unit whose name takes a plural. -/
def counted (n : Nat) (name : String) : List String :=
  if n = 0 then [] else [s!"{n}{name}" ++ if n = 1 then "" else "s"]

/-- An item with a short unit. -/
def short (n : Nat) (name : String) : List String :=
  if n = 0 then [] else [s!"{n}{name}"]

/-- The items of a duration, the longest unit first. -/
def items (d : Duration) : List String :=
  let rest := d.secs % Unit.year.seconds
  let ofMonth := rest % Unit.month.seconds
  let ofDay := ofMonth % Unit.day.seconds
  let sub := d.subsecNanos
  counted (d.secs / Unit.year.seconds) "year" ++
    counted (rest / Unit.month.seconds) "month" ++
    counted (ofMonth / Unit.day.seconds) "day" ++
    short (ofDay / 3600) "h" ++
    short (ofDay % 3600 / 60) "m" ++
    short (ofDay % 60) "s" ++
    short (sub / 1000000) "ms" ++
    short (sub / 1000 % 1000) "us" ++
    short (sub % 1000) "ns"

/-- Writes a duration. -/
def text (d : Duration) : String :=
  if d.nanos = 0 then "0s" else " ".intercalate d.items

instance : ToString Duration := ⟨text⟩

end FaultDrill.Duration
