/-!
# FaultDrill.Text.Utf8

Bytes and text. Strict decoding refuses ill-formed input; lenient decoding puts one replacement
character in the place of every maximal ill-formed part, so that the output of a command can always
be shown. A program that works on bytes and not on the characters that they denote sees a text in
which every character stands for the byte with its number (`Octets`).
-/

namespace FaultDrill

/-- The content of a file, or what a process has written. -/
abbrev Bytes := List UInt8

namespace Text.Utf8

/-- The UTF-8 form of a text. -/
def encode (s : String) : Bytes :=
  s.toUTF8.toList

/-- The text that well-formed bytes denote. -/
def decode? (bytes : Bytes) : Option String :=
  String.fromUTF8? (ByteArray.mk bytes.toArray)

/-! ### Lenient decoding -/

/-- The bounds of the second byte and the number of bytes after it, by the first byte. -/
def lead? (b : UInt8) : Option (UInt8 × UInt8 × Nat) :=
  if 0xC2 ≤ b && b ≤ 0xDF then some (0x80, 0xBF, 0)
  else if b == 0xE0 then some (0xA0, 0xBF, 1)
  else if b == 0xED then some (0x80, 0x9F, 1)
  else if 0xE1 ≤ b && b ≤ 0xEF then some (0x80, 0xBF, 1)
  else if b == 0xF0 then some (0x90, 0xBF, 2)
  else if 0xF1 ≤ b && b ≤ 0xF3 then some (0x80, 0xBF, 2)
  else if b == 0xF4 then some (0x80, 0x8F, 2)
  else none

/-- Takes up to `count` continuation bytes; the flag says whether all of them were there. -/
def tailBytes : Nat → Bytes → Bytes × Bool
  | 0, _ => ([], true)
  | _ + 1, [] => ([], false)
  | count + 1, b :: rest =>
    if 0x80 ≤ b && b ≤ 0xBF then
      let (taken, complete) := tailBytes count rest
      (b :: taken, complete)
    else ([], false)

/-- The continuation bytes that belong to the first byte `b`, and whether they complete it. -/
def followers (b : UInt8) (rest : Bytes) : Bytes × Bool :=
  match lead? b with
  | none => ([], false)
  | some (low, high, count) =>
    match rest with
    | [] => ([], false)
    | second :: more =>
      if low ≤ second && second ≤ high then
        let (taken, complete) := tailBytes count more
        (second :: taken, complete)
      else ([], false)

/-- The code point of a complete sequence. -/
def codePoint (b : UInt8) (rest : Bytes) : Nat :=
  let first := if b < 0xE0 then b.toNat % 32 else if b < 0xF0 then b.toNat % 16 else b.toNat % 8
  rest.foldl (fun n c => 64 * n + c.toNat % 64) first

/-- Goes through the bytes with `skip` bytes of the last sequence still to pass. -/
def lenientFrom : Nat → Bytes → List Char
  | _, [] => []
  | skip + 1, _ :: rest => lenientFrom skip rest
  | 0, b :: rest =>
    if b < 0x80 then Char.ofNat b.toNat :: lenientFrom 0 rest
    else
      let (taken, complete) := followers b rest
      let c := if complete then Char.ofNat (codePoint b taken) else '\uFFFD'
      c :: lenientFrom taken.length rest

/-- The text with a replacement character for every maximal ill-formed part. -/
def lenient (bytes : Bytes) : String :=
  match decode? bytes with
  | some text => text
  | none => String.ofList (lenientFrom 0 bytes)

end Text.Utf8

/-! ### Bytes as characters -/

namespace Text.Octets

/-- The character that stands for a byte. -/
def char (b : UInt8) : Char :=
  Char.ofNat b.toNat

/-- The byte that a character stands for. -/
def byte (c : Char) : UInt8 :=
  UInt8.ofNat c.toNat

/-- The text in which every character stands for a byte. -/
def ofBytes (bytes : Bytes) : String :=
  String.ofList (bytes.map char)

/-- The bytes that the characters of a text stand for. -/
def toBytes (s : String) : Bytes :=
  s.toList.map byte

/-- The bytes of the UTF-8 form of a text, as characters. -/
def ofText (s : String) : String :=
  ofBytes (Utf8.encode s)

/-- The text whose UTF-8 form the characters stand for. -/
def toText (s : String) : String :=
  Utf8.lenient (toBytes s)

end Text.Octets

end FaultDrill
