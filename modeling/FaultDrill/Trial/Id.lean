import FaultDrill.Text.Radix
import FaultDrill.Text.Pieces

/-!
# FaultDrill.Trial.Id

The identifiers of trials: thirty-two hexadecimal digits. They are written in five groups with
hyphens between them, and read with or without the hyphens, in braces, or as a name of their own
space; letters of either case are read.
-/

namespace FaultDrill

open FaultDrill.Text

/-- Whether a character is a hexadecimal digit in lower case. -/
def isLowerHex (c : Char) : Bool :=
  c.isDigit || ('a' ≤ c && c ≤ 'f')

/-- The identifier of a trial. -/
structure TrialId where
  digits : List Char
  length_digits : digits.length = 32
  all_digits : digits.all isLowerHex = true
  deriving DecidableEq

namespace TrialId

/-- The identifier of thirty-two digits. -/
def ofDigits? (s : List Char) : Option TrialId :=
  let digits := s.map Char.toLower
  if h : digits.length = 32 ∧ digits.all isLowerHex = true then some ⟨digits, h.1, h.2⟩ else none

/-- The lengths of the groups. -/
def groupLengths : List Nat := [8, 4, 4, 4, 12]

/-- The groups of given lengths. -/
def groupsOf : List Nat → List Char → List (List Char)
  | [], _ => []
  | n :: rest, s => s.take n :: groupsOf rest (s.drop n)

/-- An identifier in five groups. -/
def ofGroups? (s : List Char) : Option TrialId :=
  let groups := s.splitOn '-'
  if groups.map List.length = groupLengths then ofDigits? groups.flatten else none

/-- Reads an identifier. -/
def parse? (s : List Char) : Option TrialId :=
  if s.length = 32 then ofDigits? s
  else if s.length = 38 then
    (afterStart? ['\x7b'] s >>= beforeEnd? ['\x7d']) >>= ofGroups?
  else if s.length = 45 then afterStart? "urn:uuid:".toList s >>= ofGroups?
  else ofGroups? s

/-- Writes an identifier. -/
def text (id : TrialId) : String :=
  String.ofList (['-'].intercalate (groupsOf groupLengths id.digits))

/-- The identifier with the given number in its last digits. -/
def ofNat (n : Nat) : TrialId where
  digits := (List.range 32).map fun i => Char.ofNat ('0'.toNat + n / Nat.pow 10 (31 - i) % 10)
  length_digits := by simp
  all_digits := by
    simp only [List.all_map, List.all_eq_true, Function.comp]
    intro i _
    have : n / Nat.pow 10 (31 - i) % 10 < 10 := Nat.mod_lt _ (by decide)
    generalize n / Nat.pow 10 (31 - i) % 10 = d at this
    revert d
    decide

end TrialId

end FaultDrill
