import FaultDrill.Text.Decimal
import FaultDrill.Text.Pieces
import FaultDrill.Text.Radix

/-!
# FaultDrill.Channel.Address

Socket addresses in numeric form: four octets with a port, or eight groups of hexadecimal digits in
brackets with a port, where one run of zero groups may be left out, the last two groups may be
written as octets, and a zone may follow. Reading takes as much as belongs to each part and gives
back the rest of the text.
-/

namespace FaultDrill.SocketAddress

open FaultDrill.Text

/-- A number below a bound with at most so many digits, all digits that are there taken. -/
def number? (base bound : Nat) (maxDigits : Option Nat) (leadingZeros : Bool) (s : List Char) :
    Option (List Char) :=
  let digits := Radix.leading base s
  if digits.isEmpty || (match maxDigits with | some m => m < digits.length | none => false) ||
      bound ≤ Radix.ofDigits base digits ||
      (!leadingZeros && digits.head? == some 0 && digits.length != 1) then
    none
  else some (s.drop digits.length)

/-- One given character. -/
def char? (c : Char) : List Char → Option (List Char)
  | d :: rest => if c = d then some rest else none
  | [] => none

/-- An octet. -/
def octet? (s : List Char) : Option (List Char) :=
  number? 10 256 (some 3) false s

/-- Four octets with points between them. -/
def fourOctets? (s : List Char) : Option (List Char) := do
  let s ← char? '.' (← octet? s)
  let s ← char? '.' (← octet? s)
  let s ← char? '.' (← octet? s)
  octet? s

/-- What a group starts with: a colon, unless it is the first. -/
def separator? (first : Bool) (s : List Char) : Option (List Char) :=
  if first then some s else char? ':' s

/-- Reads up to `limit` groups. Gives their number, whether the last two were octets, and the
rest. -/
def groups (first : Bool) : Nat → List Char → Nat × Bool × List Char
  | 0, s => (0, false, s)
  | limit + 1, s =>
    match separator? first s >>= fourOctets? with
    | some rest => if limit = 0 then group first s limit else (2, true, rest)
    | none => group first s limit
where
  /-- One group of hexadecimal digits, and the groups after it. -/
  group (first : Bool) (s : List Char) (limit : Nat) : Nat × Bool × List Char :=
    match separator? first s >>= number? 16 65536 (some 4) true with
    | some rest =>
      let (n, octets, rest) := groups false limit rest
      (n + 1, octets, rest)
    | none => (0, false, s)

/-- Eight groups, or fewer with a run of zeros left out. -/
def eightGroups? (s : List Char) : Option (List Char) :=
  let (n, octets, rest) := groups true 8 s
  if n = 8 then some rest
  else if octets then none
  else do
    let rest ← char? ':' rest
    let rest ← char? ':' rest
    return (groups true (7 - n) rest).2.2

/-- A port. -/
def port? (s : List Char) : Option (List Char) :=
  number? 10 65536 none true s

/-- A zone, which may be missing. -/
def zone? : List Char → Option (List Char)
  | '%' :: rest => number? 10 UInt32.size none true rest
  | rest => some rest

/-- An address in brackets. -/
def bracketed? (s : List Char) : Option (List Char) := do
  let s ← zone? (← eightGroups? (← char? '[' s))
  port? (← char? ':' (← char? ']' s))

/-- Whether a text is a socket address. -/
def isValid (text : String) : Bool :=
  let s := text.toList
  (fourOctets? s >>= char? ':' >>= port?) == some [] || bracketed? s == some []

/-- Why a text names no address to listen at. A host in front of a port may be any name. -/
def fault? (text : String) : Option String :=
  if isValid text then none
  else
    match cutLast? ':' text.toList with
    | none => some "invalid socket address"
    | some (_, port) =>
      if (Decimal.read16? port).isSome then none else some "invalid port value"

end FaultDrill.SocketAddress
