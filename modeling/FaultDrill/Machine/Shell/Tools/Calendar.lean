import FaultDrill.Machine.Shell.Tools.Basic

/-!
# FaultDrill.Machine.Shell.Tools.Calendar

Showing moments as dates. Years are counted from the first of March, so that the day that is only in
some of them is their last one.
-/

namespace FaultDrill.Shell.Tools

open FaultDrill.Text

/-! ### Days -/

/-- A day of the calendar. -/
structure Day where
  year : Int
  /-- The number of the month, from one on. -/
  month : Nat
  day : Nat

namespace Day

/-- The day that is so many days after the first of January 1970. -/
def ofNumber (n : Int) : Day :=
  -- from the first of March of the year zero
  let z := n + 719468
  let era := Int.fdiv z 146097
  let ofEra := (z - era * 146097).toNat
  let yearOfEra := (ofEra - ofEra / 1460 + ofEra / 36524 - ofEra / 146096) / 365
  let ofYear := ofEra - (365 * yearOfEra + yearOfEra / 4 - yearOfEra / 100)
  let shifted := (5 * ofYear + 2) / 153
  let month := if shifted < 10 then shifted + 3 else shifted - 9
  { year := yearOfEra + era * 400 + (if month ≤ 2 then 1 else 0)
    month := month
    day := ofYear - (153 * shifted + 2) / 5 + 1 }

/-- How many days a day is after the first of January 1970. -/
def number (d : Day) : Int :=
  let y := if d.month ≤ 2 then d.year - 1 else d.year
  let era := Int.fdiv y 400
  let yearOfEra := (y - era * 400).toNat
  let shifted := if 2 < d.month then d.month - 3 else d.month + 9
  let ofYear := (153 * shifted + 2) / 5 + (d.day - 1)
  let ofEra := 365 * yearOfEra + yearOfEra / 4 - yearOfEra / 100 + ofYear
  era * 146097 + ofEra - 719468

/-- The number of a day in its year, from one on. -/
def ofYear (d : Day) : Int :=
  d.number - Day.number ⟨d.year, 1, 1⟩ + 1

end Day

/-- The names of the days of a week. -/
def weekDays : List String :=
  ["Sunday", "Monday", "Tuesday", "Wednesday", "Thursday", "Friday", "Saturday"]

/-- The names of the months. -/
def months : List String :=
  ["January", "February", "March", "April", "May", "June", "July", "August", "September",
    "October", "November", "December"]

/-! ### Moments -/

/-- The time at which every run starts, in seconds. -/
def epoch : Nat := 1700000000

/-- A moment, in nanoseconds since the first of January 1970. -/
structure Moment where
  nanos : Int

namespace Moment

/-- The whole seconds of a moment. -/
def seconds (m : Moment) : Int :=
  Int.fdiv m.nanos nanosPerSecond

/-- The day of a moment. -/
def day (m : Moment) : Day :=
  .ofNumber (Int.fdiv m.seconds 86400)

/-- The second of its day in which a moment is. -/
def ofDay (m : Moment) : Nat :=
  (Int.fmod m.seconds 86400).toNat

/-- The number of the day of its week in which a moment is, from zero on for Sunday. -/
def weekDay (m : Moment) : Nat :=
  (Int.fmod (Int.fdiv m.seconds 86400 + 4) 7).toNat

/-- A number with at least so many digits. -/
def digits (width : Nat) (n : Nat) (fill : Char) : String :=
  let ds := Decimal.write n
  String.ofList (List.replicate (width - ds.length) fill ++ ds)

/-- What a directive without others in it shows of a moment. -/
def fact? (m : Moment) (c : Char) : Option String :=
  let d := m.day
  let hour := m.ofDay / 3600
  let hour12 := if hour % 12 = 0 then 12 else hour % 12
  match c with
  | 'Y' => some ((if d.year < 0 then "-" else "") ++ digits 4 d.year.natAbs '0')
  | 'q' => some (digits 1 ((d.month + 2) / 3) '0')
  | 'C' => some (digits 2 (d.year.toNat / 100) '0')
  | 'y' => some (digits 2 (d.year.toNat % 100) '0')
  | 'm' => some (digits 2 d.month '0')
  | 'd' => some (digits 2 d.day '0')
  | 'e' => some (digits 2 d.day ' ')
  | 'j' => some (digits 3 d.ofYear.toNat '0')
  | 'H' => some (digits 2 hour '0')
  | 'k' => some (digits 2 hour ' ')
  | 'I' => some (digits 2 hour12 '0')
  | 'l' => some (digits 2 hour12 ' ')
  | 'M' => some (digits 2 (m.ofDay / 60 % 60) '0')
  | 'S' => some (digits 2 (m.ofDay % 60) '0')
  | 'N' => some (digits 9 (Int.fmod m.nanos nanosPerSecond).toNat '0')
  | 's' => some (toString m.seconds)
  | 'p' => some (if hour < 12 then "AM" else "PM")
  | 'P' => some (if hour < 12 then "am" else "pm")
  | 'A' => weekDays[m.weekDay]?
  | 'a' => weekDays[m.weekDay]?.map fun n => String.ofList (n.toList.take 3)
  | 'B' => months[d.month - 1]?
  | 'b' | 'h' => months[d.month - 1]?.map fun n => String.ofList (n.toList.take 3)
  | 'u' => some (toString (if m.weekDay = 0 then 7 else m.weekDay))
  | 'w' => some (toString m.weekDay)
  | 'Z' => some "UTC"
  | 'z' => some "+0000"
  | 'n' => some "\n"
  | 't' => some "\t"
  | '%' => some "%"
  | _ => none

/-- The directives that stand for others. -/
def compound? : Char → Option String
  | 'F' => some "%Y-%m-%d"
  | 'T' | 'X' => some "%H:%M:%S"
  | 'R' => some "%H:%M"
  | 'D' | 'x' => some "%m/%d/%y"
  | 'r' => some "%I:%M:%S %p"
  | 'c' => some "%a %b %e %H:%M:%S %Y"
  | _ => none

/-- A moment as a format shows it. -/
def shown (m : Moment) : Nat → List Char → String
  | 0, _ | _, [] => ""
  | fuel + 1, '%' :: c :: rest =>
    match m.fact? c, compound? c with
    | some text, _ => text ++ m.shown fuel rest
    | none, some format => m.shown fuel (format.toList ++ rest)
    | none, none => "%" ++ String.singleton c ++ m.shown fuel rest
  | fuel + 1, c :: rest => String.singleton c ++ m.shown fuel rest

/-- The moment that a text names: a number of seconds, or a day with or without a time. -/
def ofText? (now : Moment) (s : String) : Option Moment :=
  let number := fun (t : List Char) =>
    if t.isEmpty || !t.all Char.isDigit then none else some (Decimal.value 0 t)
  let ofSeconds := fun (n : Int) => some (⟨n * nanosPerSecond⟩ : Moment)
  let day? := fun (t : List Char) => match t.splitOn '-' with
    | [y, m, d] => do
      let d : Day := ⟨((← number y : Nat) : Int), ← number m, ← number d⟩
      -- a day that does not exist has the number of another one
      let same := (Day.ofNumber d.number).day = d.day
      if 1 ≤ d.month && d.month ≤ 12 && 1 ≤ d.day && same then some (d.number * 86400)
      else none
    | _ => none
  let time? := fun (t : List Char) => match t.splitOn ':' with
    | h :: m :: rest => do
      let hour ← number h
      let minute ← number m
      let second ← match rest with
        | [] => some 0
        | [s] => number s
        | _ => none
      if hour < 24 && minute < 60 && second ≤ 60 then
        some ((hour * 60 + minute) * 60 + second)
      else none
    | _ => none
  match s.toList with
  | '@' :: '-' :: digits => (number digits).bind fun n => ofSeconds (-(n : Int))
  | '@' :: digits => (number digits).bind fun n => ofSeconds n
  | text =>
    if s = "now" || s = "" then some now
    else
      let parts := (text.splitOnP fun c => c = ' ' || c = 'T' || c = 'Z').filter (· ≠ [])
      match parts with
      | [day] => (day? day).bind ofSeconds
      | [day, time] => do ofSeconds ((← day? day) + ((← time? time) : Nat))
      | _ => none

end Moment

/-- Shows the time, or another moment. -/
def date : Tool :=
  withOptions "date"
    { flags := "uRI", valued := "d"
      long := [("utc", 'u'), ("universal", 'u'), ("date", 'd'), ("rfc-email", 'R'),
        ("iso-8601", 'I')] } 1 fun o s =>
    let now : Moment := ⟨epoch * nanosPerSecond + s.now⟩
    match (o.value? 'd').map fun text => (text, now.ofText? text) with
    | some (text, none) => report s "date" s!"invalid date {quoted text}" 1
    | found =>
      let m := (found.bind (·.2)).getD now
      let standard := if o.has 'R' then "%a, %d %b %Y %H:%M:%S %z"
        else if o.has 'I' then "%F"
        else "%a %b %e %H:%M:%S %Z %Y"
      match o.operands with
      | [] => emitLine s "date" (m.shown 100 standard.toList)
      | a :: _ =>
        match a.toList with
        | '+' :: format => emitLine s "date" (m.shown (8 * format.length + 1) format)
        | _ => report s "date" s!"invalid date {quoted a}" 1

end FaultDrill.Shell.Tools
