/-!
# FaultDrill.Text.Pieces

Cutting a text at a character or at a fixed word: the first cut, the cuts from the right, and the
replacement of every occurrence. Searching never looks behind the place it has reached, so the
first occurrence is the leftmost one.

The lines of a text: a line feed ends a line and takes one carriage return before it along; what
follows the last line feed is a line only if it is not empty, and keeps its characters as they are.
-/

namespace FaultDrill.Text

/-! ### The first cut -/

/-- The text before and after the first character that satisfies `p`. -/
def cutWhere? (p : Char → Bool) (s : List Char) : Option (List Char × List Char) :=
  match s.dropWhile (!p ·) with
  | [] => none
  | _ :: rest => some (s.takeWhile (!p ·), rest)

/-- The text before and after the first `sep`. -/
def cut? (sep : Char) (s : List Char) : Option (List Char × List Char) :=
  cutWhere? (· == sep) s

/-- How far into `s` the leftmost occurrence of `pat` starts, counted from `start`. -/
def indexFrom (pat : List Char) (start : Nat) : List Char → Option Nat
  | [] => if pat.isEmpty then some start else none
  | c :: rest =>
    if pat.isPrefixOf (c :: rest) then some start else indexFrom pat (start + 1) rest

/-- Where the leftmost occurrence of `pat` starts. -/
def indexOf? (pat s : List Char) : Option Nat :=
  indexFrom pat 0 s

/-- The text before and after the leftmost occurrence of `pat`. -/
def cutText? (pat s : List Char) : Option (List Char × List Char) :=
  (indexOf? pat s).map fun i => (s.take i, s.drop (i + pat.length))

/-- Whether `pat` occurs in `s`. -/
def occursIn (pat s : List Char) : Bool :=
  (indexOf? pat s).isSome

/-- Whether `pat` occurs in `s`, for strings. -/
def contains (s pat : String) : Bool :=
  occursIn pat.toList s.toList

/-! ### Ends -/

/-- What follows `pat` at the start of `s`. -/
def afterStart? (pat s : List Char) : Option (List Char) :=
  if pat.isPrefixOf s then some (s.drop pat.length) else none

/-- What precedes `pat` at the end of `s`. -/
def beforeEnd? (pat s : List Char) : Option (List Char) :=
  (afterStart? pat.reverse s.reverse).map List.reverse

/-! ### Cuts from the right -/

/-- The text before and after the last `sep`. -/
def cutLast? (sep : Char) (s : List Char) : Option (List Char × List Char) :=
  (cut? sep s.reverse).map fun (after, before) => (before.reverse, after.reverse)

/-! ### Replacing -/

/-- Goes through the text with `skip` characters of the last occurrence still to pass. -/
def replaceFrom (pat new : List Char) : Nat → List Char → List Char
  | _, [] => []
  | skip + 1, _ :: rest => replaceFrom pat new skip rest
  | 0, c :: rest =>
    if pat.isPrefixOf (c :: rest) then new ++ replaceFrom pat new (pat.length - 1) rest
    else c :: replaceFrom pat new 0 rest

/-- The text with every occurrence of `pat` replaced, from left to right without overlaps. -/
def replace (pat new s : List Char) : List Char :=
  replaceFrom pat new 0 s

/-- Replacement on strings. -/
def replaced (s pat new : String) : String :=
  String.ofList (replace pat.toList new.toList s.toList)

/-! ### Joining -/

/-- The parts in order, with `sep` between neighbours. -/
def joined (sep : String) (parts : List String) : String :=
  sep.intercalate parts

/-- ASCII letters in lower case; every other character stands for itself. -/
def lower (s : List Char) : List Char :=
  s.map Char.toLower

/-! ### Lines -/

/-- A line without the carriage return that stood before its line feed. -/
def dropReturn (line : List Char) : List Char :=
  match line.reverse with
  | '\r' :: rest => rest.reverse
  | _ => line

/-- The lines of a text, in order. -/
def lines (s : List Char) : List (List Char) :=
  let parts := s.splitOn '\n'
  let ended := parts.dropLast.map dropReturn
  match parts.getLast? with
  | none | some [] => ended
  | some last => ended ++ [last]

end FaultDrill.Text
