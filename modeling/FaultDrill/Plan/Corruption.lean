import FaultDrill.Files.Path
import FaultDrill.Text.Blank
import FaultDrill.Text.Pieces
import FaultDrill.Text.Decimal
import FaultDrill.Text.Utf8

/-!
# FaultDrill.Plan.Corruption

Ways to damage a data file, their text form, and their effect on bytes. In the text form the numbers
are taken from the right, so that a path may itself contain colons and numbers; the path is what is
left, and it is never empty. The effect of a corruption is a function on bytes alone: a window that
starts inside the file is complemented or cleared, and a window that starts beyond it is refused.
-/

namespace FaultDrill

/-- A way to damage a file. -/
inductive Corruption where
  /-- The file keeps only its first `length` bytes. -/
  | truncate (path : String) (length : UInt64)
  /-- `count` bytes from `offset` on are complemented. -/
  | flip (path : String) (offset count : UInt64)
  /-- `length` bytes from `offset` on become zero. -/
  | zero (path : String) (offset length : UInt64)
  deriving DecidableEq, Repr

namespace Corruption

open FaultDrill.Text

/-- The file to damage. -/
def path : Corruption → String
  | .truncate path _ | .flip path _ _ | .zero path _ _ => path

/-! ### The text form -/

/-- Why a text is no corruption. -/
inductive ParseError where
  | noKind (text : String)
  | missingNumbers (text : String) (count : Nat)
  | emptyPath
  | notNumber (text : String)
  | unknownKind (kind : String)
  deriving DecidableEq, Repr

/-- The wording of an error. -/
def ParseError.message : ParseError → String
  | .noKind text => s!"corrupt spec '{text}' has no kind prefix"
  | .missingNumbers text count => s!"corrupt spec '{text}' needs {count} numeric field(s)"
  | .emptyPath => "corrupt spec has an empty path"
  | .notNumber text => s!"'{text}' is not a non-negative integer"
  | .unknownKind kind => s!"unknown corrupt kind '{kind}'"

/-- A path with something in it besides blanks. -/
def readPath (s : List Char) : Except ParseError String :=
  let path := trim s
  if path = [] then .error .emptyPath else .ok (String.ofList path)

/-- A number with blanks around it. -/
def readNumber (s : List Char) : Except ParseError UInt64 :=
  match Decimal.read64? (trim s) with
  | some n => .ok n
  | none => .error (.notNumber (String.ofList s))

/-- A path with one number after it. -/
def readOne (s : List Char) : Except ParseError (String × UInt64) :=
  match cutLast? ':' s with
  | some (path, a) => do
    let path ← readPath path
    return (path, ← readNumber a)
  | none => .error (.missingNumbers (String.ofList s) 1)

/-- A path with two numbers after it. -/
def readTwo (s : List Char) : Except ParseError (String × UInt64 × UInt64) :=
  match cutLast? ':' s with
  | some (front, b) =>
    match cutLast? ':' front with
    | some (path, a) => do
      let path ← readPath path
      let a ← readNumber a
      return (path, a, ← readNumber b)
    | none => .error (.missingNumbers (String.ofList s) 2)
  | none => .error (.missingNumbers (String.ofList s) 2)

/-- Reads a corruption. A flip with one number damages one byte; it has two only if both of the last
fields are numbers and leave a path. -/
def parse (s : List Char) : Except ParseError Corruption :=
  match cut? ':' s with
  | none => .error (.noKind (String.ofList s))
  | some (kind, rest) =>
    match String.ofList (trim kind) with
    | "truncate" => do
      let (path, length) ← readOne rest
      return .truncate path length
    | "flip" =>
      match readTwo rest with
      | .ok (path, offset, count) => .ok (.flip path offset count)
      | .error _ => do
        let (path, offset) ← readOne rest
        return .flip path offset 1
    | "zero" => do
      let (path, offset, length) ← readTwo rest
      return .zero path offset length
    | other => .error (.unknownKind other)

/-- Writes a corruption. -/
def text : Corruption → String
  | .truncate path length => s!"truncate:{path}:{Decimal.text length.toNat}"
  | .flip path offset count =>
    s!"flip:{path}:{Decimal.text offset.toNat}:{Decimal.text count.toNat}"
  | .zero path offset length =>
    s!"zero:{path}:{Decimal.text offset.toNat}:{Decimal.text length.toNat}"

/-! ### The effect on bytes -/

/-- A window that starts beyond the end of the file. -/
structure BeyondEnd where
  offset : UInt64
  size : Nat
  deriving DecidableEq, Repr

/-- The wording of the refusal. -/
def BeyondEnd.message (e : BeyondEnd) : String :=
  s!"offset {e.offset.toNat} is beyond end of file ({e.size} bytes)"

/-- Changes the bytes of a window, which ends with the file at the latest. -/
def window (f : UInt8 → UInt8) (offset count : UInt64) (bytes : Bytes) : Except BeyondEnd Bytes :=
  if offset.toNat < bytes.length then
    let rest := bytes.drop offset.toNat
    .ok (bytes.take offset.toNat ++
      ((rest.take count.toNat).map f ++ rest.drop count.toNat))
  else
    .error ⟨offset, bytes.length⟩

/-- The bytes of a file after the damage. -/
def apply : Corruption → Bytes → Except BeyondEnd Bytes
  | .truncate _ length, bytes => .ok (bytes.take length.toNat)
  | .flip _ offset count, bytes => window (~~~ ·) offset count bytes
  | .zero _ offset length, bytes => window (fun _ => 0) offset length bytes

end Corruption

end FaultDrill
