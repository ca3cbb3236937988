import FaultDrill.Machine.Shell.Tools.Basic
import FaultDrill.Text.Digest
import FaultDrill.Text.Radix

/-!
# FaultDrill.Machine.Shell.Tools.Summing

Tools that show checksums and digests of inputs, or write them with other characters.
-/

namespace FaultDrill.Shell.Tools

open FaultDrill.Text

/-! ### Digests -/

/-- Whether a line of a list of digests holds, with the name in it. -/
def checkedLine (digest : Bytes → Bytes) (line : List Char) (s : State) :
    Option (String × Except FileError Bool) :=
  let sum := line.takeWhile (· ≠ ' ')
  let name := String.ofList ((line.drop sum.length).drop 2)
  if name = "" || (Hex.read? sum).map List.length ≠ some (digest []).length then none
  else some (name, (s.readFile name).map fun content =>
    Hex.write (digest (content.map Octets.byte)) = sum)

/-- Checks the digests that the lines of a list give. -/
def checkDigests (tool name : String) (digest : Bytes → Bytes) (list : List Char) (s : State) :
    State :=
  let (s, wrong, missing) := (linesOf list).1.foldl (fun (s, wrong, missing) line =>
    match checkedLine digest line s with
    | none => (s, wrong, missing)
    | some (name, .ok true) => (emitLine s tool s!"{name}: OK", wrong, missing)
    | some (name, .ok false) => (emitLine s tool s!"{name}: FAILED", wrong + 1, missing)
    | some (name, .error e) =>
      let s := s.complain s!"{tool}: {nameText name}: {e.reason}"
      (emitLine s tool s!"{name}: FAILED open or read", wrong, missing + 1)) (s, 0, 0)
  let formed := (linesOf list).1.any fun line => (checkedLine digest line s).isSome
  let warn := fun (count : Nat) (one many : String) (s : State) =>
    if count = 0 then s
    else
      let what := if count = 1 then one else many
      report s tool s!"WARNING: {count} {what}" 1
  if !formed then report s tool s!"{name}: no properly formatted checksum lines found" 1
  else warn wrong "computed checksum did NOT match" "computed checksums did NOT match"
    (warn missing "listed file could not be read" "listed files could not be read" s)

/-- Shows the digests of inputs, or checks those of a list. -/
def digestTool (tool : String) (digest : Bytes → Bytes) : Tool :=
  withOptions tool { flags := "bct", long := [("check", 'c'), ("binary", 'b')] } 1 fun o s =>
    eachInput tool o.operands 1 (fun name content s =>
      if o.has 'c' then checkDigests tool name digest content s
      else
        let sum := String.ofList (Hex.write (digest (content.map Octets.byte)))
        emitLine s tool (sum ++ (if o.has 'b' then " *" else "  ") ++ name)) s

/-- Shows the checksums and the sizes of inputs. -/
def cksum : Tool :=
  withOptions "cksum" {} 1 fun o s =>
    eachInput "cksum" o.operands 1 (fun name content s =>
      let sum := (Digest.crc (content.map Octets.byte)).toNat
      let shown := s!"{sum} {content.length}"
      emitLine s "cksum" (if o.operands.isEmpty then shown else s!"{shown} {name}")) s

/-! ### Sixty-four characters -/

/-- The characters that stand for six bits. -/
def sixBits : List Char :=
  "ABCDEFGHIJKLMNOPQRSTUVWXYZabcdefghijklmnopqrstuvwxyz0123456789+/".toList

/-- Four characters for each three bytes. -/
def sixBitText : List Char → List Char
  | a :: b :: c :: rest =>
    let n := (a.toNat * 256 + b.toNat) * 256 + c.toNat
    digit (n / 262144) :: digit (n / 4096) :: digit (n / 64) :: digit n :: sixBitText rest
  | [a, b] =>
    let n := (a.toNat * 256 + b.toNat) * 4
    [digit (n / 4096), digit (n / 64), digit n, '=']
  | [a] => [digit (a.toNat / 4), digit (a.toNat * 16), '=', '=']
  | [] => []
where
  /-- The character of the lowest six bits. -/
  digit (n : Nat) : Char :=
    sixBits[n % 64]?.getD '='

/-- The bytes of characters, and whether all of them could be read. -/
def ofSixBits : Nat → List Char → List Char × Bool
  | 0, _ | _, [] => ([], true)
  | fuel + 1, s =>
    let group := s.take 4
    let values := (group.filter (· ≠ '=')).map fun c => sixBits.idxOf c
    let n := values.foldl (fun n v => n * 64 + v) 0
    let byte := fun (n : Nat) => Char.ofNat (n % 256)
    if values.any (64 ≤ ·) then ([], false)
    else
      match values.length with
      | 4 =>
        let (others, ended) := ofSixBits fuel (s.drop 4)
        (byte (n / 65536) :: byte (n / 256) :: byte n :: others, ended)
      | 3 => ([byte (n / 1024), byte (n / 4)], group.length = 4)
      | 2 => ([byte (n / 16)], group.length = 4)
      | _ => ([], false)

/-- A text in rows of so many characters. -/
def inRows (width : Nat) : Nat → List Char → List Char
  | 0, _ | _, [] => []
  | fuel + 1, s => s.take width ++ '\n' :: inRows width fuel (s.drop width)

/-- Writes an input with sixty-four characters, or reads what is written so. -/
def base64 : Tool :=
  withOptions "base64"
    { flags := "di", valued := "w", long := [("decode", 'd'), ("wrap", 'w')] } 1 fun o s =>
    let (content, s) := joinedInput "base64" (o.operands.take 1) 1 s
    if o.has 'd' then
      let (bytes, ended) := ofSixBits (content.length + 1) (content.filter (· ≠ '\n'))
      let s := emit s "base64" bytes
      if ended then s else report s "base64" "invalid input" 1
    else
      let text := sixBitText content
      let width := ((o.value? 'w').bind String.toNat?).getD 76
      emit s "base64" (if width = 0 then text else inRows width (text.length + 1) text)

end FaultDrill.Shell.Tools
