import FaultDrill.Json.Writer
import FaultDrill.Toml.Value

/-!
# FaultDrill.Toml.Writer

Writing TOML documents. A table gives first the keys with simple values, then its inner tables, each
after a blank line and with the whole path in its header. A string stands in the plainest form that
it allows: in quotation marks without escapes, then in apostrophes, then over several lines, and
with escapes only if nothing else will do.
-/

namespace FaultDrill.Toml

open FaultDrill.Text

/-! ### From JSON values -/

mutual

/-- The TOML value of the same shape; `null` has none. -/
def Value.ofJson? : Json → Option Value
  | .null => none
  | .bool b => some (.boolean b)
  | .int n => some (.integer n)
  | .real => some .float
  | .str s => some (.string s)
  | .arr items => some (.array (valuesOfJson items))
  | .obj fields => some (.table (entriesOfJson fields))

/-- The TOML values of the items of an array. -/
def valuesOfJson : List Json → List Value
  | [] => []
  | v :: rest =>
    match Value.ofJson? v with
    | some v => v :: valuesOfJson rest
    | none => valuesOfJson rest

/-- The entries of the fields of an object; a field with `null` has none. -/
def entriesOfJson : List (String × Json) → List (String × Value)
  | [] => []
  | (key, v) :: rest =>
    match Value.ofJson? v with
    | some v => (key, v) :: entriesOfJson rest
    | none => entriesOfJson rest

end

/-! ### Strings -/

/-- The longest run of a character. -/
def longestRun (mark : Char) (s : List Char) : Nat :=
  (s.foldl (fun (best, run) c =>
    if c = mark then (max best (run + 1), run + 1) else (best, 0)) (0, 0)).1

/-- Whether some character needs an escape wherever it stands. -/
def needsEscape (s : List Char) : Bool :=
  s.any fun c => (c.toNat < 0x20 && c ≠ '\t' && c ≠ '\n') || c.toNat == 0x7F

/-- The escape of a character in quotation marks. -/
def escaped (c : Char) : List Char :=
  if c = '\x08' then ['\\', 'b']
  else if c = '\t' then ['\\', 't']
  else if c = '\n' then ['\\', 'n']
  else if c = '\x0C' then ['\\', 'f']
  else if c = '\r' then ['\\', 'r']
  else if c = '"' then ['\\', '"']
  else if c = '\\' then ['\\', '\\']
  else if c.toNat < 0x20 ∨ c.toNat = 0x7F then
    ['\\', 'u', '0', '0', (Radix.char (c.toNat / 16)).toUpper,
      (Radix.char (c.toNat % 16)).toUpper]
  else [c]

/-- A string in quotation marks on one line. -/
def basic (s : List Char) : List Char :=
  '"' :: (s.flatMap escaped ++ ['"'])

/-- The characters of a string over several lines, where every third quotation mark of a run is
escaped. -/
def longChars (run : Nat) : List Char → List Char
  | [] => []
  | c :: rest =>
    if c = '"' then
      if run < 2 then c :: longChars (run + 1) rest else '\\' :: '"' :: longChars 0 rest
    else if c = '\n' then c :: longChars 0 rest
    else escaped c ++ longChars 0 rest

/-- Marks around a string over several lines, which starts on a line of its own. -/
def long (mark : Char) (s body : List Char) : List Char :=
  let marks := List.replicate 3 mark
  marks ++ (if s.contains '\n' then ['\n'] else []) ++ body ++ marks

/-- A string in the plainest form that it allows. -/
def string (s : List Char) : List Char :=
  let newline := s.contains '\n'
  let backslash := s.contains '\\'
  let quotes := longestRun '"' s
  let apostrophes := longestRun '\'' s
  if needsEscape s then
    if newline then long '"' s (longChars 0 s) else basic s
  else if !backslash && quotes == 0 && !newline then basic s
  else if apostrophes == 0 && !newline then '\'' :: (s ++ ['\''])
  else if !backslash && quotes ≤ 2 then long '"' s (longChars 0 s)
  else if apostrophes ≤ 2 then long '\'' s s
  else if newline then long '"' s (longChars 0 s)
  else basic s

/-! ### Keys -/

/-- A key in the plainest form that it allows. -/
def key (s : String) : List Char :=
  let chars := s.toList
  if chars ≠ [] ∧ chars.all fun c => c.isAlphanum || c = '_' || c = '-' then chars
  else if needsEscape chars ∨ chars.contains '\n' then basic chars
  else if !chars.contains '\\' && !chars.contains '"' then basic chars
  else if !chars.contains '\'' then '\'' :: (chars ++ ['\''])
  else basic chars

/-- The header line of a table. -/
def headerLine (path : List String) (item : Bool) : List Char :=
  let inner := ['.'].intercalate (path.map key)
  if item then '[' :: '[' :: (inner ++ [']', ']', '\n']) else '[' :: (inner ++ [']', '\n'])

/-! ### Values and tables -/

/-- Whether a value is written as tables of its own: a table, or an array of tables. -/
def isTables : Value → Bool
  | .table _ => true
  | .array (.table _ :: _) => true
  | _ => false

/-- A value without tables of its own. -/
def simple : Value → List Char
  | .string s => string s.toList
  | .integer n => Json.number n
  | .float => ['0', '.', '0']
  | .boolean true => ['t', 'r', 'u', 'e']
  | .boolean false => ['f', 'a', 'l', 's', 'e']
  | .datetime text => text.toList
  | .array _ => ['[', ']']
  | .table _ => ['\x7b', '\x7d']

/-- The lines of the keys with simple values. -/
def simpleLines (entries : List (String × Value)) : List Char :=
  (entries.filter (!isTables ·.2)).flatMap fun (k, v) =>
    key k ++ [' ', '=', ' '] ++ simple v ++ ['\n']

mutual

/-- The sections of a value at a path. -/
def sections (path : List String) : Value → List (List Char)
  | .table entries => (headerLine path false ++ simpleLines entries) :: innerSections path entries
  | .array items => itemSections path items
  | _ => []

/-- The sections of the inner tables of a table. -/
def innerSections (path : List String) : List (String × Value) → List (List Char)
  | [] => []
  | (k, v) :: rest => sections (path ++ [k]) v ++ innerSections path rest

/-- The sections of an array of tables. -/
def itemSections (path : List String) : List Value → List (List Char)
  | [] => []
  | .table entries :: rest =>
    (headerLine path true ++ simpleLines entries) :: innerSections path entries ++
      itemSections path rest
  | _ :: rest => itemSections path rest

end

/-- The text of a document. -/
def write : Value → String
  | .table entries =>
    let first := simpleLines entries
    let others := innerSections [] entries
    String.ofList (['\n'].intercalate (if first.isEmpty then others else first :: others))
  | _ => ""

end FaultDrill.Toml
