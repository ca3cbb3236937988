import FaultDrill.Text.Utf8

/-!
# FaultDrill.Text.Digest

Digests of bytes: the checksum of a division of polynomials, and three digests that take words of
blocks of 64 bytes, the last of which holds the number of bits.
-/

namespace FaultDrill.Text.Digest

/-! ### Division -/

/-- The remainder of a polynomial after eight more digits of it. -/
def crcStep (crc : UInt32) (b : UInt8) : UInt32 :=
  (List.range 8).foldl (fun crc _ =>
    if crc &&& 0x80000000 ≠ 0 then (crc <<< 1) ^^^ 0x04C11DB7 else crc <<< 1)
    (crc ^^^ (b.toUInt32 <<< 24))

/-- The bytes of a number, the lowest one first, without zeros at the end. -/
def lengthBytes : Nat → Nat → Bytes
  | 0, _ => []
  | fuel + 1, n => if n = 0 then [] else UInt8.ofNat (n % 256) :: lengthBytes fuel (n / 256)

/-- The checksum of bytes and their number. -/
def crc (bytes : Bytes) : UInt32 :=
  ~~~((bytes ++ lengthBytes 8 bytes.length).foldl crcStep 0)

/-! ### Blocks -/

/-- The bytes of a number, the highest one first. -/
def bigEndian (count n : Nat) : Bytes :=
  (List.range count).reverse.map fun i => UInt8.ofNat (n / Nat.pow 256 i % 256)

/-- The bytes of a number, the lowest one first. -/
def littleEndian (count n : Nat) : Bytes :=
  (bigEndian count n).reverse

/-- Bytes with a mark after them and with the number of their bits at the end of the last block. -/
def padded (isBig : Bool) (bytes : Bytes) : Bytes :=
  let zeros := (119 - bytes.length % 64) % 64
  let bits := 8 * bytes.length
  bytes ++ 0x80 :: List.replicate zeros 0 ++ if isBig then bigEndian 8 bits else littleEndian 8 bits

/-- The word of four bytes. -/
def word (isBig : Bool) (bytes : Bytes) : UInt32 :=
  (if isBig then bytes else bytes.reverse).foldl (fun w b => (w <<< 8) ||| b.toUInt32) 0

/-- The words of blocks. -/
def blocks (isBig : Bool) : Nat → Bytes → List (List UInt32)
  | 0, _ | _, [] => []
  | fuel + 1, bytes =>
    (List.range 16).map (fun i => word isBig ((bytes.drop (4 * i)).take 4)) ::
      blocks isBig fuel (bytes.drop 64)

/-- A word with its bits moved to the left, around its end. -/
def rotateLeft (w n : UInt32) : UInt32 :=
  (w <<< n) ||| (w >>> (32 - n))

/-- The digest of a state after all blocks have been taken in. -/
def digest (isBig : Bool) (start : List UInt32) (step : List UInt32 → List UInt32 → List UInt32)
    (bytes : Bytes) : Bytes :=
  let all := padded isBig bytes
  let state := (blocks isBig (all.length / 64) all).foldl step start
  state.flatMap fun w => (if isBig then bigEndian else littleEndian) 4 w.toNat

/-- A state with another one added to it. -/
def added (a b : List UInt32) : List UInt32 :=
  a.zipWith (· + ·) b

/-- The words of a block with those that follow from them. -/
def extended (next : (Nat → UInt32) → UInt32) (count : Nat) (block : List UInt32) : List UInt32 :=
  ((List.range (count - 16)).foldl (fun (latest : List UInt32) _ =>
    next (fun back => latest[back - 1]?.getD 0) :: latest) block.reverse).reverse

/-! ### Digests of sixteen bytes -/

/-- The words that are added in the rounds. -/
def md5Words : List UInt32 :=
  [0xD76AA478, 0xE8C7B756, 0x242070DB, 0xC1BDCEEE, 0xF57C0FAF, 0x4787C62A, 0xA8304613, 0xFD469501,
    0x698098D8, 0x8B44F7AF, 0xFFFF5BB1, 0x895CD7BE, 0x6B901122, 0xFD987193, 0xA679438E, 0x49B40821,
    0xF61E2562, 0xC040B340, 0x265E5A51, 0xE9B6C7AA, 0xD62F105D, 0x02441453, 0xD8A1E681, 0xE7D3FBC8,
    0x21E1CDE6, 0xC33707D6, 0xF4D50D87, 0x455A14ED, 0xA9E3E905, 0xFCEFA3F8, 0x676F02D9, 0x8D2A4C8A,
    0xFFFA3942, 0x8771F681, 0x6D9D6122, 0xFDE5380C, 0xA4BEEA44, 0x4BDECFA9, 0xF6BB4B60, 0xBEBFBC70,
    0x289B7EC6, 0xEAA127FA, 0xD4EF3085, 0x04881D05, 0xD9D4D039, 0xE6DB99E5, 0x1FA27CF8, 0xC4AC5665,
    0xF4292244, 0x432AFF97, 0xAB9423A7, 0xFC93A039, 0x655B59C3, 0x8F0CCC92, 0xFFEFF47D, 0x85845DD1,
    0x6FA87E4F, 0xFE2CE6E0, 0xA3014314, 0x4E0811A1, 0xF7537E82, 0xBD3AF235, 0x2AD7D2BB, 0xEB86D391]

/-- The places by which words are turned in the rounds. -/
def md5Turns : List UInt32 :=
  [7, 12, 17, 22, 5, 9, 14, 20, 4, 11, 16, 23, 6, 10, 15, 21]

/-- A state after a block has been taken in. -/
def md5Step (state block : List UInt32) : List UInt32 :=
  let final := md5Words.zipIdx.foldl (fun (s : List UInt32) (k, i) =>
    match s with
    | [a, b, c, d] =>
      let (f, g) :=
        if i < 16 then ((b &&& c) ||| (~~~b &&& d), i)
        else if i < 32 then ((d &&& b) ||| (~~~d &&& c), (5 * i + 1) % 16)
        else if i < 48 then (b ^^^ c ^^^ d, (3 * i + 5) % 16)
        else (c ^^^ (b ||| ~~~d), 7 * i % 16)
      let turn := md5Turns[i / 16 * 4 + i % 4]?.getD 0
      [d, b + rotateLeft (a + f + k + block[g]?.getD 0) turn, b, c]
    | s => s) state
  added state final

/-- A digest of sixteen bytes. -/
def md5 (bytes : Bytes) : Bytes :=
  digest false [0x67452301, 0xEFCDAB89, 0x98BADCFE, 0x10325476] md5Step bytes

/-! ### Digests of twenty bytes -/

/-- A state after a block has been taken in. -/
def sha1Step (state block : List UInt32) : List UInt32 :=
  let words := extended (fun w => rotateLeft (w 3 ^^^ w 8 ^^^ w 14 ^^^ w 16) 1) 80 block
  let final := words.zipIdx.foldl (fun (s : List UInt32) (w, i) =>
    match s with
    | [a, b, c, d, e] =>
      let (f, k) : UInt32 × UInt32 :=
        if i < 20 then ((b &&& c) ||| (~~~b &&& d), 0x5A827999)
        else if i < 40 then (b ^^^ c ^^^ d, 0x6ED9EBA1)
        else if i < 60 then ((b &&& c) ||| (b &&& d) ||| (c &&& d), 0x8F1BBCDC)
        else (b ^^^ c ^^^ d, 0xCA62C1D6)
      [rotateLeft a 5 + f + e + k + w, a, rotateLeft b 30, c, d]
    | s => s) state
  added state final

/-- A digest of twenty bytes. -/
def sha1 (bytes : Bytes) : Bytes :=
  digest true [0x67452301, 0xEFCDAB89, 0x98BADCFE, 0x10325476, 0xC3D2E1F0] sha1Step bytes

/-! ### Digests of thirty-two bytes -/

/-- The words that are added in the rounds. -/
def sha256Words : List UInt32 :=
  [0x428A2F98, 0x71374491, 0xB5C0FBCF, 0xE9B5DBA5, 0x3956C25B, 0x59F111F1, 0x923F82A4, 0xAB1C5ED5,
    0xD807AA98, 0x12835B01, 0x243185BE, 0x550C7DC3, 0x72BE5D74, 0x80DEB1FE, 0x9BDC06A7, 0xC19BF174,
    0xE49B69C1, 0xEFBE4786, 0x0FC19DC6, 0x240CA1CC, 0x2DE92C6F, 0x4A7484AA, 0x5CB0A9DC, 0x76F988DA,
    0x983E5152, 0xA831C66D, 0xB00327C8, 0xBF597FC7, 0xC6E00BF3, 0xD5A79147, 0x06CA6351, 0x14292967,
    0x27B70A85, 0x2E1B2138, 0x4D2C6DFC, 0x53380D13, 0x650A7354, 0x766A0ABB, 0x81C2C92E, 0x92722C85,
    0xA2BFE8A1, 0xA81A664B, 0xC24B8B70, 0xC76C51A3, 0xD192E819, 0xD6990624, 0xF40E3585, 0x106AA070,
    0x19A4C116, 0x1E376C08, 0x2748774C, 0x34B0BCB5, 0x391C0CB3, 0x4ED8AA4A, 0x5B9CCA4F, 0x682E6FF3,
    0x748F82EE, 0x78A5636F, 0x84C87814, 0x8CC70208, 0x90BEFFFA, 0xA4506CEB, 0xBEF9A3F7, 0xC67178F2]

/-- A word turned to the right. -/
def rotateRight (w n : UInt32) : UInt32 :=
  rotateLeft w (32 - n)

/-- A state after a block has been taken in. -/
def sha256Step (state block : List UInt32) : List UInt32 :=
  let words := extended (fun w =>
    let a := w 15
    let b := w 2
    w 16 + (rotateRight a 7 ^^^ rotateRight a 18 ^^^ (a >>> 3)) + w 7 +
      (rotateRight b 17 ^^^ rotateRight b 19 ^^^ (b >>> 10))) 64 block
  let final := (words.zip sha256Words).foldl (fun (s : List UInt32) (w, k) =>
    match s with
    | [a, b, c, d, e, f, g, h] =>
      let x := h + (rotateRight e 6 ^^^ rotateRight e 11 ^^^ rotateRight e 25) +
        ((e &&& f) ^^^ (~~~e &&& g)) + k + w
      let y := (rotateRight a 2 ^^^ rotateRight a 13 ^^^ rotateRight a 22) +
        ((a &&& b) ^^^ (a &&& c) ^^^ (b &&& c))
      [x + y, a, b, c, d + x, e, f, g]
    | s => s) state
  added state final

/-- A digest of thirty-two bytes. -/
def sha256 (bytes : Bytes) : Bytes :=
  digest true [0x6A09E667, 0xBB67AE85, 0x3C6EF372, 0xA54FF53A, 0x510E527F, 0x9B05688C, 0x1F83D9AB,
    0x5BE0CD19] sha256Step bytes

end FaultDrill.Text.Digest
