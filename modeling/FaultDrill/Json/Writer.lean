import FaultDrill.Json.Value
import FaultDrill.Text.Decimal
import FaultDrill.Text.Radix

/-!
# FaultDrill.Json.Writer

JSON text. The compact form stands on one line and has no blanks between tokens, the spread form has
one item a line and two blanks for each level. Quotation marks, backslashes and control characters
are escaped, all other characters stand for themselves. The main statement is that compact text has
no line feed (`newline_not_mem_compact`), so that a log can keep one value on each line.
-/

namespace FaultDrill.Json

open FaultDrill.Text

/-- The form of a character inside a quoted string. -/
def escape (c : Char) : List Char :=
  if c = '"' then ['\\', '"']
  else if c = '\\' then ['\\', '\\']
  else if c = '\x08' then ['\\', 'b']
  else if c = '\x0C' then ['\\', 'f']
  else if c = '\n' then ['\\', 'n']
  else if c = '\r' then ['\\', 'r']
  else if c = '\t' then ['\\', 't']
  else if c.toNat < 0x20 then
    ['\\', 'u', '0', '0', Radix.char (c.toNat / 16), Radix.char (c.toNat % 16)]
  else [c]

/-- A string in quotation marks. -/
def quoted (s : String) : List Char :=
  '"' :: (s.toList.flatMap escape ++ ['"'])

/-- A whole number. -/
def number (n : Int) : List Char :=
  if n < 0 then '-' :: Decimal.write n.natAbs else Decimal.write n.natAbs

mutual

/-- The compact text of a value. -/
def compactChars : Json → List Char
  | .null => ['n', 'u', 'l', 'l']
  | .bool true => ['t', 'r', 'u', 'e']
  | .bool false => ['f', 'a', 'l', 's', 'e']
  | .int n => number n
  | .real => ['0', '.', '0']
  | .str s => quoted s
  | .arr items => '[' :: compactItems items
  | .obj fields => '\x7b' :: compactFields fields

/-- The items of an array, up to and with the closing bracket. -/
def compactItems : List Json → List Char
  | [] => [']']
  | [v] => compactChars v ++ [']']
  | v :: w :: rest => compactChars v ++ ',' :: compactItems (w :: rest)

/-- The fields of an object, up to and with the closing brace. -/
def compactFields : List (String × Json) → List Char
  | [] => ['\x7d']
  | [(name, v)] => quoted name ++ ':' :: (compactChars v ++ ['\x7d'])
  | (name, v) :: f :: rest =>
    quoted name ++ ':' :: (compactChars v ++ ',' :: compactFields (f :: rest))

end

/-- The compact text of a value, as a string. -/
def compact (v : Json) : String :=
  String.ofList (compactChars v)

/-! ### The spread form -/

/-- The start of a line at a level. -/
def margin (level : Nat) : List Char :=
  '\n' :: List.replicate (2 * level) ' '

mutual

/-- The spread text of a value whose line starts at `level`. -/
def spreadChars (level : Nat) : Json → List Char
  | .arr [] => ['[', ']']
  | .arr (v :: rest) => '[' :: spreadItems (level + 1) (v :: rest)
  | .obj [] => ['\x7b', '\x7d']
  | .obj (f :: rest) => '\x7b' :: spreadFields (level + 1) (f :: rest)
  | .null => ['n', 'u', 'l', 'l']
  | .bool true => ['t', 'r', 'u', 'e']
  | .bool false => ['f', 'a', 'l', 's', 'e']
  | .int n => number n
  | .real => ['0', '.', '0']
  | .str s => quoted s

/-- The items of an array, each on its own line, up to and with the closing bracket. -/
def spreadItems (level : Nat) : List Json → List Char
  | [] => margin (level - 1) ++ [']']
  | [v] => margin level ++ spreadChars level v ++ margin (level - 1) ++ [']']
  | v :: w :: rest =>
    margin level ++ spreadChars level v ++ ',' :: spreadItems level (w :: rest)

/-- The fields of an object, each on its own line, up to and with the closing brace. -/
def spreadFields (level : Nat) : List (String × Json) → List Char
  | [] => margin (level - 1) ++ ['\x7d']
  | [(name, v)] =>
    margin level ++ quoted name ++ ':' :: ' ' :: spreadChars level v ++ margin (level - 1) ++
      ['\x7d']
  | (name, v) :: f :: rest =>
    margin level ++ quoted name ++ ':' :: ' ' :: spreadChars level v ++
      ',' :: spreadFields level (f :: rest)

end

/-- The spread text of a value, as a string. -/
def spread (v : Json) : String :=
  String.ofList (spreadChars 0 v)

/-! ### Compact text stands on one line -/

theorem newline_ne_char {n : Nat} (h : n < 16) : '\n' ≠ Radix.char n := by
  revert n; decide

theorem newline_not_mem_escape (c : Char) : '\n' ∉ escape c := by
  intro hm
  unfold escape at hm
  repeat' split at hm
  any_goals simp at hm
  · next h =>
    rcases hm with hm | hm
    · exact newline_ne_char (by omega) hm
    · exact newline_ne_char (Nat.mod_lt _ (by decide)) hm
  · next h _ _ _ => exact h hm.symm

theorem newline_not_mem_quoted (s : String) : '\n' ∉ quoted s := by
  simp only [quoted, List.mem_cons, List.mem_append, List.mem_flatMap, not_or, List.not_mem_nil]
  refine ⟨by decide, fun ⟨c, _, h⟩ => newline_not_mem_escape c h, by decide, id⟩

theorem newline_not_mem_number (n : Int) : '\n' ∉ number n := by
  have h : '\n' ∉ Decimal.write n.natAbs := fun hm => by
    have := List.all_eq_true.1 (Decimal.all_isDigit_write n.natAbs) _ hm
    simp [Char.isDigit] at this
  unfold number
  split <;> simp [h]

mutual

theorem newline_not_mem_compactChars : (v : Json) → '\n' ∉ compactChars v
  | .null => by simp [compactChars]
  | .bool true => by simp [compactChars]
  | .bool false => by simp [compactChars]
  | .int n => by simpa [compactChars] using newline_not_mem_number n
  | .real => by simp [compactChars]
  | .str s => by simpa [compactChars] using newline_not_mem_quoted s
  | .arr items => by simpa [compactChars] using newline_not_mem_compactItems items
  | .obj fields => by simpa [compactChars] using newline_not_mem_compactFields fields

theorem newline_not_mem_compactItems : (l : List Json) → '\n' ∉ compactItems l
  | [] => by simp [compactItems]
  | [v] => by simpa [compactItems] using newline_not_mem_compactChars v
  | v :: w :: rest => by
    simpa [compactItems] using
      ⟨newline_not_mem_compactChars v, newline_not_mem_compactItems (w :: rest)⟩

theorem newline_not_mem_compactFields : (l : List (String × Json)) → '\n' ∉ compactFields l
  | [] => by simp [compactFields]
  | [(name, v)] => by
    simpa [compactFields] using ⟨newline_not_mem_quoted name, newline_not_mem_compactChars v⟩
  | (name, v) :: f :: rest => by
    simpa [compactFields] using ⟨newline_not_mem_quoted name, newline_not_mem_compactChars v,
      newline_not_mem_compactFields (f :: rest)⟩

end

/-- Compact text has no line feed. -/
theorem newline_not_mem_compact (v : Json) : '\n' ∉ (compact v).toList := by
  simpa [compact] using newline_not_mem_compactChars v

end FaultDrill.Json
