import FaultDrill.Machine.Shell.Format
import FaultDrill.Machine.Shell.Regex

/-!
# FaultDrill.Machine.Shell.Awk.Basic

Programs that go through the records of inputs: rules, each with a trigger and with statements.
Values are numbers and texts at the same time. A text that comes from an input and looks like a
number is compared as a number.
-/

namespace FaultDrill.Shell.Awk

open FaultDrill.Text

/-! ### Values -/

/-- A value of a program. -/
inductive Value where
  | unset
  | number (x : Float)
  | text (s : List Char)
  /-- A text that has been read. -/
  | input (s : List Char)

/-- The number at the start of a text, and what follows it. -/
def leadingNumber? (s : List Char) : Option (Float × List Char) :=
  let body := (s.dropWhile Number.isBlank).dropWhile fun c => c = '-' || c = '+'
  match body with
  | c :: _ =>
    if c.isDigit || c = '.' then
      (Format.scanFloat s).map fun (negative, x, rest) => (if negative then -x else x, rest)
    else none
  | [] => none

/-- Whether a text is a number as a whole. -/
def looksNumeric (s : List Char) : Bool :=
  match leadingNumber? s with
  | some (_, rest) => rest.all Number.isBlank
  | none => false

/-- The largest number whose neighbours are whole numbers that stand in one word. -/
def wordLimit : Float := 9223372036854775808

/-- A number as a text: a whole number with all its digits, any other one in a short form. -/
def numberText (x : Float) : List Char :=
  let negative := x < 0
  let size := x.abs
  let d : Format.Directive := { conversion := 'g' }
  if size.floor == size && size < wordLimit then
    Format.Directive.ofFloat { precision := some 0, conversion := 'f' } negative size
  else d.ofFloat negative size

namespace Value

/-- A value as a number. -/
def toNumber : Value → Float
  | .unset => 0
  | .number x => x
  | .text s | .input s => ((leadingNumber? s).map (·.1)).getD 0

/-- A value as a text. -/
def toText : Value → List Char
  | .unset => []
  | .number x => numberText x
  | .text s | .input s => s

/-- Whether a value is compared as a number. -/
def isNumeric : Value → Bool
  | .unset | .number _ => true
  | .text _ => false
  | .input s => looksNumeric s

/-- Whether a value counts as true. -/
def holds : Value → Bool
  | .unset => false
  | .number x => x != 0
  | .text s => !s.isEmpty
  | .input s => if looksNumeric s then (Value.input s).toNumber != 0 else !s.isEmpty

/-- The value of a truth value. -/
def ofBool (b : Bool) : Value :=
  .number (if b then 1 else 0)

/-- The value of a count. -/
def ofNat (n : Nat) : Value :=
  .number (Float.ofNat n)

/-- Whether two values stand in a relation. -/
def compare (operator : String) (a b : Value) : Bool :=
  if a.isNumeric && b.isNumeric then
    let x := a.toNumber
    let y := b.toNumber
    match operator with
    | "<" => x < y
    | "<=" => x ≤ y
    | ">" => y < x
    | ">=" => y ≤ x
    | "==" => x == y
    | _ => x != y
  else
    let x := a.toText
    let y := b.toText
    match operator with
    | "<" => x < y
    | "<=" => !(y < x)
    | ">" => y < x
    | ">=" => !(x < y)
    | "==" => x = y
    | _ => x ≠ y

end Value

/-! ### Programs -/

/-- An expression. -/
inductive Expr where
  | number (x : Float)
  | text (s : List Char)
  | regex (r : Regex)
  | named (name : String)
  | element (array : String) (index : List Expr)
  | field (e : Expr)
  /-- An assignment, with the operator that is applied before it. -/
  | assign (operator : Option String) (target value : Expr)
  /-- A change by one, with whether the value is the one after it. -/
  | step (before : Bool) (amount : Float) (target : Expr)
  | negate (e : Expr)
  | invert (e : Expr)
  | binary (operator : String) (a b : Expr)
  | both (a b : Expr)
  | either (a b : Expr)
  | concat (a b : Expr)
  /-- An expression in parentheses, which cannot be assigned to. -/
  | group (e : Expr)
  | isMatch (negated : Bool) (a r : Expr)
  | isIn (index : List Expr) (array : String)
  | choice (condition a b : Expr)
  | call (function : String) (arguments : List Expr)

/-- Where something is printed. -/
inductive Target where
  | output
  | file (path : Expr)
  | fileEnd (path : Expr)

/-- A statement. -/
inductive Statement where
  | expression (e : Expr)
  | print (arguments : List Expr) (target : Target)
  | printFormatted (arguments : List Expr) (target : Target)
  | branch (condition : Expr) (yes no : List Statement)
  /-- Statements as long as a condition holds, with what is done after each time. -/
  | loop (condition : Expr) (body after : List Statement)
  /-- Statements for each index of an array. -/
  | each (name array : String) (body : List Statement)
  | next
  | exit (status : Option Expr)
  | leave
  | goOn
  | delete (array : String) (index : List Expr)

/-- When the statements of a rule are run. -/
inductive Trigger where
  | first
  | last
  | always
  | condition (e : Expr)
  | range (index : Nat) (start finish : Expr)

/-- Statements with what runs them. -/
structure Rule where
  trigger : Trigger
  body : List Statement

end FaultDrill.Shell.Awk
