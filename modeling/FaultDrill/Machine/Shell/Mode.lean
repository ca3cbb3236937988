import FaultDrill.Text.Radix

/-!
# FaultDrill.Machine.Shell.Mode

Permissions of files: three bits for the owner, three for the group and three for all others, and
three more before them. A change of permissions is a number in base eight, or clauses that say whose
permissions are given, taken or set.
-/

namespace FaultDrill.Shell.Mode

open FaultDrill.Text

/-- The bits of those that a letter stands for. -/
def whoBits? (c : Char) : Option Nat :=
  match c with
  | 'u' => some 2496
  | 'g' => some 1080
  | 'o' => some 519
  | 'a' => some 4095
  | _ => none

/-- The bits of a permission for all, where a directory, or a file that somebody may run, can be
given the right to be run. -/
def permissionBits? (runs : Bool) (c : Char) : Option Nat :=
  match c with
  | 'r' => some 292
  | 'w' => some 146
  | 'x' => some 73
  | 'X' => some (if runs then 73 else 0)
  | 's' => some 3072
  | 't' => some 512
  | _ => none

/-- The bits that some letters stand for together. -/
def bitsOf (bits? : Char → Option Nat) (letters : List Char) : Nat :=
  letters.foldl (fun n c => n ||| (bits? c).getD 0) 0

/-- The permissions of one kind of users as permissions of all. -/
def copied (mode : Nat) (c : Char) : Nat :=
  let bits := match c with
    | 'u' => mode / 64 % 8
    | 'g' => mode / 8 % 8
    | _ => mode % 8
  bits * 73

/-- The changes of a clause after it is known whose permissions they change. -/
def changes (isDirectory : Bool) (mask who : Nat) : Nat → List Char → Nat → Option Nat
  | 0, _, mode => some mode
  | _, [], mode => some mode
  | fuel + 1, sign :: rest, mode =>
    if !(['+', '-', '='].contains sign) then none
    else
      let runs := isDirectory || mode &&& 73 ≠ 0
      let letters := rest.takeWhile fun c => (permissionBits? runs c).isSome
      let rest := rest.drop letters.length
      let (bits, rest) := match letters, rest with
        | [], c :: rest =>
          if ['u', 'g', 'o'].contains c then (copied mode c, rest) else (0, c :: rest)
        | letters, rest => (bitsOf (permissionBits? runs) letters, rest)
      let mine := if who = 0 then bits &&& (4095 ^^^ mask) else bits &&& who
      let cleared := mode &&& (4095 ^^^ mine)
      let mode := match sign with
        | '+' => mode ||| mine
        | '-' => cleared
        | _ => (mode &&& (4095 ^^^ (if who = 0 then 511 else who &&& 511))) ||| mine
      changes isDirectory mask who fuel rest mode

/-- The permissions after the changes that a text says, unless it says none. Who is not named in the
text is not given what new files do not have. -/
def change? (text : String) (isDirectory : Bool) (mask mode : Nat) : Option Nat :=
  let chars := text.toList
  if chars.isEmpty then none
  else if chars.all Char.isDigit then
    let n := Radix.ofDigits 8 (Radix.leading 8 chars)
    if (Radix.leading 8 chars).length = chars.length && n < 4096 then some n else none
  else
    (chars.splitOn ',').foldl (fun mode clause => mode.bind fun mode =>
      let who := clause.takeWhile fun c => (whoBits? c).isSome
      if clause.length ≤ who.length then none
      else
        changes isDirectory mask (bitsOf whoBits? who) (clause.length + 1)
          (clause.drop who.length) mode) (some mode)

/-- The letters of three bits. The last one can say that a file is run in a special way. -/
def letters (special : Bool) (mark : Char) (bits : Nat) : List Char :=
  [if 4 ≤ bits % 8 then 'r' else '-', if 2 ≤ bits % 4 then 'w' else '-',
    match special, bits % 2 with
    | true, 0 => mark.toUpper
    | true, _ => mark
    | false, 0 => '-'
    | false, _ => 'x']

/-- Permissions in letters. -/
def text (mode : Nat) : String :=
  String.ofList (letters (2048 ≤ mode % 4096) 's' (mode / 64) ++
    letters (1024 ≤ mode % 2048) 's' (mode / 8) ++ letters (512 ≤ mode % 1024) 't' mode)

/-- The rights that new files have, in clauses. -/
def clauses (mask : Nat) : String :=
  let part := fun (bits : Nat) =>
    String.ofList ((letters false 'x' bits).filter (· ≠ '-'))
  let mode := 511 ^^^ (mask % 512)
  s!"u={part (mode / 64)},g={part (mode / 8)},o={part mode}"

end FaultDrill.Shell.Mode
