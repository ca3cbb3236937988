import FaultDrill.Machine.Shell.Number
import FaultDrill.Text.Decimal

/-!
# FaultDrill.Machine.Shell.Format

Escapes and formats of output. A format is used again as long as arguments are left, and directives
without arguments take an empty text or zero. A number with a point is shown from the exact value of
the word that is nearest to it, and a half goes to the even neighbour.
-/

namespace FaultDrill.Shell.Format

open FaultDrill.Text

/-! ### Escapes -/

/-- The character of a simple escape. -/
def simpleEscape? : Char → Option Char
  | 'a' => some '\x07'
  | 'b' => some '\x08'
  | 'e' => some '\x1b'
  | 'f' => some '\x0c'
  | 'n' => some '\n'
  | 'r' => some '\r'
  | 't' => some '\t'
  | 'v' => some '\x0b'
  | '\\' => some '\\'
  | _ => none

/-- The character that follows a backslash, and what follows it. A backslash before any other
character stands for itself. -/
def escape (s : List Char) : Char × List Char :=
  match s with
  | [] => ('\\', [])
  | c :: rest =>
    match simpleEscape? c with
    | some e => (e, rest)
    | none =>
      let digits := Radix.leading 8 (s.take 3)
      if digits.isEmpty then ('\\', s)
      else (Char.ofNat (Radix.ofDigits 8 digits % 256), s.drop digits.length)

/-- A text with its escapes replaced, and whether `\c` has ended it. -/
def unescape : Nat → List Char → List Char × Bool
  | 0, _ | _, [] => ([], false)
  | fuel + 1, c :: rest =>
    if c ≠ '\\' then
      let (text, ended) := unescape fuel rest
      (c :: text, ended)
    else
      match rest with
      | 'c' :: _ => ([], true)
      | _ =>
        -- a zero before octal digits is not one of them
        let rest := match rest with
          | '0' :: d :: after => if (Radix.digit? 8 d).isSome then d :: after else rest
          | _ => rest
        let (e, after) := escape rest
        let (text, ended) := unescape fuel after
        (e :: text, ended)

/-- What a list of words is shown as, where `\c` ends everything. -/
def echoed (newline : Bool) : List String → List Char
  | [] => if newline then ['\n'] else []
  | w :: rest =>
    let (text, ended) := unescape (w.length + 1) w.toList
    if ended then text
    else if rest.isEmpty then text ++ (if newline then ['\n'] else [])
    else text ++ ' ' :: echoed newline rest

/-! ### Directives -/

/-- How an argument is shown. -/
structure Directive where
  flags : List Char := []
  width : Nat := 0
  leftward : Bool := false
  precision : Option Nat := none
  conversion : Char

namespace Directive

/-- Whether a flag is set. -/
def has (d : Directive) (flag : Char) : Bool :=
  d.flags.contains flag

/-- A text, cut to the precision. -/
def ofText (d : Directive) (s : List Char) : List Char :=
  let s := match d.precision with
    | some n => s.take n
    | none => s
  let fill := List.replicate (d.width - s.length) ' '
  if d.leftward || d.has '-' then s ++ fill else fill ++ s

/-- A number, from its sign and its digits. -/
def ofNumber (d : Directive) (sign digits : List Char) (zeros : Bool) : List Char :=
  let length := sign.length + digits.length
  if d.leftward || d.has '-' then sign ++ digits ++ List.replicate (d.width - length) ' '
  else if d.has '0' && zeros then sign ++ List.replicate (d.width - length) '0' ++ digits
  else List.replicate (d.width - length) ' ' ++ sign ++ digits

/-- The sign that is shown before a number. -/
def sign (d : Directive) (negative : Bool) : List Char :=
  if negative then ['-'] else if d.has '+' then ['+'] else if d.has ' ' then [' '] else []

/-- Digits, at least as many as the precision says. -/
def padded (d : Directive) (digits : List Char) : List Char :=
  match d.precision with
  | some n =>
    if n = 0 && digits = ['0'] then [] else List.replicate (n - digits.length) '0' ++ digits
  | none => digits

/-- The digits of a number in a base. -/
def digits (base n : Nat) : List Char :=
  Nat.toDigits base n

/-- A whole number. -/
def ofInt (d : Directive) (n : Int) : List Char :=
  d.ofNumber (d.sign (n < 0)) (d.padded (digits 10 n.natAbs)) d.precision.isNone

/-- A whole number without a sign, in the base of the conversion. -/
def ofNat (d : Directive) (n : Nat) : List Char :=
  let zeros := d.precision.isNone
  match d.conversion with
  | 'o' =>
    let ds := d.padded (digits 8 n)
    d.ofNumber [] (if d.has '#' && ds.head? ≠ some '0' then '0' :: ds else ds) zeros
  | 'x' =>
    d.ofNumber (if d.has '#' && n ≠ 0 then ['0', 'x'] else []) (d.padded (digits 16 n)) zeros
  | 'X' =>
    d.ofNumber (if d.has '#' && n ≠ 0 then ['0', 'X'] else [])
      (d.padded ((digits 16 n).map Char.toUpper)) zeros
  | _ => d.ofNumber [] (d.padded (digits 10 n)) zeros

end Directive

/-! ### Numbers with a point -/

/-- A fraction of whole numbers, rounded to the nearest one, a half to the even one. -/
def roundDiv (n d : Nat) : Nat :=
  let q := n / d
  let r := 2 * (n % d)
  if r < d then q else if d < r then q + 1 else q + q % 2

/-- The exact value of a number that is not below zero as a fraction. -/
def fraction (x : Float) : Nat × Nat :=
  let bits := x.toBits.toNat
  let exponent := bits / 4503599627370496 % 2048
  let mantissa := bits % 4503599627370496
  let (m, e) := if exponent = 0 then (mantissa, 1) else (mantissa + 4503599627370496, exponent)
  if 1075 ≤ e then (m * Nat.pow 2 (e - 1075), 1) else (m, Nat.pow 2 (1075 - e))

/-- Digits with a point before the last ones. -/
def withPoint (places : Nat) (keepPoint : Bool) (n : Nat) : List Char :=
  let ds := Decimal.write n
  let ds := List.replicate (places + 1 - ds.length) '0' ++ ds
  let whole := ds.take (ds.length - places)
  if places = 0 then whole ++ (if keepPoint then ['.'] else [])
  else whole ++ '.' :: ds.drop (ds.length - places)

/-- A number with so many places. -/
def fixed (places : Nat) (keepPoint : Bool) (x : Nat × Nat) : List Char :=
  withPoint places keepPoint (roundDiv (x.1 * Nat.pow 10 places) x.2)

/-- The exponent of the first digit of a number. -/
def exponentOf (x : Nat × Nat) : Int :=
  if x.1 = 0 then 0
  else if x.2 ≤ x.1 then ((Decimal.write (x.1 / x.2)).length : Int) - 1
  else -(((List.range 400).find? fun k => x.2 ≤ x.1 * Nat.pow 10 k).getD 400 : Nat)

/-- The digits of a number after its first one has been brought before the point, and the exponent
of the first one. -/
def scaled (places : Nat) (x : Nat × Nat) : Nat × Int :=
  let e := exponentOf x
  let shift := (places : Int) - e
  let n := if 0 ≤ shift then roundDiv (x.1 * Nat.pow 10 shift.toNat) x.2
    else roundDiv x.1 (x.2 * Nat.pow 10 (-shift).toNat)
  if n = Nat.pow 10 (places + 1) then (n / 10, e + 1) else (n, e)

/-- An exponent with at least two digits. -/
def exponentText (e : Int) : List Char :=
  let ds := Decimal.write e.natAbs
  (if e < 0 then '-' else '+') :: (if ds.length < 2 then '0' :: ds else ds)

/-- A number with an exponent. -/
def scientific (places : Nat) (keepPoint : Bool) (x : Nat × Nat) : List Char :=
  let (n, e) := scaled places x
  withPoint places keepPoint n ++ 'e' :: exponentText e

/-- Digits without the zeros at the end of those after the point. -/
def withoutZeros (s : List Char) : List Char :=
  if s.contains '.' then
    match s.reverse.dropWhile (· = '0') with
    | '.' :: rest => rest.reverse
    | rest => rest.reverse
  else s

/-- A number in the shorter of the two forms. -/
def general (precision : Nat) (keepZeros : Bool) (x : Nat × Nat) : List Char :=
  let p := if precision = 0 then 1 else precision
  let (n, e) := scaled (p - 1) x
  let trim := fun s => if keepZeros then s else withoutZeros s
  if -4 ≤ e && e < p then trim (fixed ((p : Int) - 1 - e).toNat keepZeros x)
  else trim (withPoint (p - 1) keepZeros n) ++ 'e' :: exponentText e

/-- A number with a point as a directive wants it. -/
def Directive.ofFloat (d : Directive) (negative : Bool) (x : Float) : List Char :=
  let places := d.precision.getD 6
  let isUpper := d.conversion.isUpper
  let (text, isFinite) :=
    if x.isNaN then (['n', 'a', 'n'], false)
    else if x.isInf then (['i', 'n', 'f'], false)
    else
      (match d.conversion.toLower with
        | 'e' => scientific places (d.has '#') (fraction x)
        | 'g' => general places (d.has '#') (fraction x)
        | _ => fixed places (d.has '#') (fraction x), true)
  d.ofNumber (d.sign negative) (if isUpper then text.map Char.toUpper else text) isFinite

/-- A number with a point at the start of a text: whether it is below zero, its size, and what
follows it. -/
def scanFloat (s : List Char) : Option (Bool × Float × List Char) :=
  let t := s.dropWhile Number.isBlank
  let (negative, t) := match t with
    | '-' :: rest => (true, rest)
    | '+' :: rest => (false, rest)
    | rest => (false, rest)
  let whole := t.takeWhile Char.isDigit
  let t' := t.drop whole.length
  let (places, t') := match t' with
    | '.' :: rest => (rest.takeWhile Char.isDigit, rest.dropWhile Char.isDigit)
    | rest => ([], rest)
  if whole.isEmpty && places.isEmpty then
    let word := String.ofList ((t.take 3).map Char.toLower)
    if word = "inf" then some (negative, 1.0 / 0.0, t.drop 3)
    else if word = "nan" then some (negative, 0.0 / 0.0, t.drop 3)
    else none
  else
    let (exponent, t') : Int × List Char := match t' with
      | e :: rest =>
        if e = 'e' || e = 'E' then
          let (below, digits) := match rest with
            | '-' :: rest => (true, rest)
            | '+' :: rest => (false, rest)
            | rest => (false, rest)
          let ds := digits.takeWhile Char.isDigit
          if ds.isEmpty then (0, e :: rest)
          else
            let n : Int := Decimal.value 0 (ds.take 6)
            (if below then -n else n, digits.drop ds.length)
        else (0, e :: rest)
      | [] => (0, [])
    let e := exponent - places.length
    some (negative,
      Float.ofScientific (Decimal.value 0 (whole ++ places)) (e < 0) e.natAbs, t')

/-! ### Formats -/

/-- A format while it is used. -/
structure Printing where
  arguments : List String
  /-- What is shown, the latest character first. -/
  shown : List Char := []
  warnings : List String := []
  /-- Why no more of the format can be used. -/
  fault : Option String := none
  /-- Whether `\c` has ended everything. -/
  ended : Bool := false

namespace Printing

/-- Shows characters. -/
def put (p : Printing) (s : List Char) : Printing :=
  { p with shown := s.reverse ++ p.shown }

/-- Takes an argument. -/
def take (p : Printing) : Option String × Printing :=
  (p.arguments.head?, { p with arguments := p.arguments.drop 1 })

/-- Warns if an argument is no number as a whole. -/
def check (p : Printing) (argument : String) (rest : List Char) (isCut : Bool) : Printing :=
  let warn := fun text => { p with warnings := p.warnings ++ [s!"{argument}: {text}"] }
  if !rest.isEmpty then
    warn (if rest = argument.toList then "expected numeric value" else "not completely converted")
  else if isCut then warn "Numerical result out of range"
  else p

/-- The number of a character after a quotation mark. -/
def quotedValue? (argument : String) : Option Nat :=
  match argument.toList with
  | '\'' :: rest | '"' :: rest => some ((rest.head?.map Char.toNat).getD 0)
  | _ => none

/-- Takes a whole number. -/
def takeNumber (p : Printing) (signed : Bool) : Int × Printing :=
  match p.take with
  | (none, p) => (0, p)
  | (some a, p) =>
    match quotedValue? a with
    | some n => (n, p)
    | none =>
      let n := if signed then Number.scan true a.toList else Number.scanUnsigned true a.toList
      (n.value, p.check a n.rest n.isCut)

/-- Takes a number with a point. -/
def takeFloat (p : Printing) : (Bool × Float) × Printing :=
  match p.take with
  | (none, p) => ((false, 0), p)
  | (some a, p) =>
    match quotedValue? a, scanFloat a.toList with
    | some n, _ => ((false, Float.ofNat n), p)
    | none, some (negative, x, rest) => ((negative, x), p.check a rest false)
    | none, none => ((false, 0), p.check a a.toList false)

/-- Shows an argument as a directive wants it. -/
def apply (p : Printing) (d : Directive) (spelling : String) : Printing :=
  let c := d.conversion
  if c = 's' then
    let (a, p) := p.take
    p.put (d.ofText (a.getD "").toList)
  else if c = 'c' then
    let (a, p) := p.take
    p.put (Directive.ofText { d with precision := none } [((a.getD "").toList.head?).getD '\x00'])
  else if c = 'b' then
    let (a, p) := p.take
    let s := (a.getD "").toList
    let (text, ended) := unescape (s.length + 1) s
    { p.put (d.ofText text) with ended := ended }
  else if c = 'd' || c = 'i' then
    let (n, p) := p.takeNumber true
    p.put (d.ofInt n)
  else if ['o', 'u', 'x', 'X'].contains c then
    let (n, p) := p.takeNumber false
    p.put (d.ofNat n.toNat)
  else if ['e', 'E', 'f', 'F', 'g', 'G'].contains c then
    let ((negative, x), p) := p.takeFloat
    p.put (d.ofFloat negative x)
  else { p with fault := some s!"{spelling}: invalid directive" }

/-- A width or a precision, which an argument may give, and what follows it. -/
def size (p : Printing) (s : List Char) : Int × List Char × Printing :=
  match s with
  | '*' :: rest =>
    let (n, p) := p.takeNumber true
    (n, rest, p)
  | _ =>
    let digits := s.takeWhile Char.isDigit
    (Decimal.value 0 digits, s.drop digits.length, p)

/-- Uses a format once. -/
def once (p : Printing) : Nat → List Char → Printing
  | 0, _ | _, [] => p
  | fuel + 1, c :: rest =>
    if p.ended || p.fault.isSome then p
    else if c = '\\' then
      let (e, rest) := escape rest
      (p.put [e]).once fuel rest
    else if c ≠ '%' then (p.put [c]).once fuel rest
    else
      match rest with
      | '%' :: rest => (p.put ['%']).once fuel rest
      | _ =>
        let flags := rest.takeWhile fun c => ['#', '-', '+', ' ', '0'].contains c
        let (width, after, p) := p.size (rest.drop flags.length)
        let (precision, after, p) : Option Int × List Char × Printing := match after with
          | '.' :: after =>
            let (n, after, p) := p.size after
            (some n, after, p)
          | _ => (none, after, p)
        match after with
        | [] => { p with fault := some "missing format character" }
        | c :: after =>
          let d : Directive :=
            { flags := flags, width := width.natAbs, leftward := width < 0
              precision := precision.bind fun n => if n < 0 then none else some n.toNat
              conversion := c }
          let spelling := String.ofList ('%' :: rest.take (rest.length - after.length))
          (p.apply d spelling).once fuel after

/-- Uses a format until no argument is left. -/
def repeated (format : List Char) : Nat → Printing → Printing
  | 0, p => p
  | fuel + 1, p =>
    let before := p.arguments.length
    let p := p.once (format.length + 1) format
    if p.ended || p.fault.isSome || p.arguments.isEmpty || p.arguments.length = before then p
    else repeated format fuel p

end Printing

/-- What a format shows of arguments. -/
def printed (format : String) (arguments : List String) : Printing :=
  Printing.repeated format.toList (arguments.length + 1) { arguments := arguments }

end FaultDrill.Shell.Format
