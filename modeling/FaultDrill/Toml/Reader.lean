import FaultDrill.Toml.Document
import FaultDrill.Toml.Scalar

/-!
# FaultDrill.Toml.Reader

Reading TOML documents. Every function takes what remains of the text and gives back what it leaves.
Values nest no deeper than a limit, and the length of the text bounds the recursion. A failure
carries no text: the document is either read or not.
-/

namespace FaultDrill.Toml

/-- How many arrays and tables may stand within one another, and how many parts a key may have. -/
def maxNesting : Nat := 80

/-! ### Blanks, comments and line ends -/

/-- The control characters that may stand nowhere. -/
def isControl (c : Char) : Bool :=
  (c.toNat < 0x20 && c ≠ '\t') || c.toNat == 0x7F

/-- A blank within a line. -/
def isGap (c : Char) : Bool :=
  c = ' ' || c = '\t'

/-- The text from its next character that is no gap. -/
def skipGap (s : List Char) : List Char :=
  s.dropWhile isGap

/-- The text after blanks, comments and line ends. -/
def skipLines (inComment : Bool) : List Char → Option (List Char)
  | [] => some []
  | '\n' :: rest => skipLines false rest
  | '\r' :: '\n' :: rest => skipLines false rest
  | c :: rest =>
    if inComment then if isControl c then none else skipLines true rest
    else if isGap c then skipLines false rest
    else if c = '#' then skipLines true rest
    else some (c :: rest)

/-- The text after the end of the line, before which only a comment may stand. -/
def lineEnd (inComment : Bool) : List Char → Option (List Char)
  | [] => some []
  | '\n' :: rest => some rest
  | '\r' :: '\n' :: rest => some rest
  | c :: rest =>
    if inComment then if isControl c then none else lineEnd true rest
    else if isGap c then lineEnd false rest
    else if c = '#' then lineEnd true rest
    else none

/-! ### Strings -/

/-- The character of `n` hexadecimal digits, and what follows them. -/
def hexChar? (n : Nat) (s : List Char) : Option (Char × List Char) := do
  let digits ← (s.take n).mapM (Text.Radix.digit? 16)
  if digits.length ≠ n then none
  else
    let code := Text.Radix.ofDigits 16 digits
    if h : code.isValidChar then some (Char.ofNatAux code h, s.drop n) else none

/-- The character of an escape after the backslash, and what follows it. -/
def escape? : List Char → Option (Char × List Char)
  | 'b' :: rest => some ('\x08', rest)
  | 't' :: rest => some ('\t', rest)
  | 'n' :: rest => some ('\n', rest)
  | 'f' :: rest => some ('\x0C', rest)
  | 'r' :: rest => some ('\r', rest)
  | 'e' :: rest => some ('\x1B', rest)
  | '"' :: rest => some ('"', rest)
  | '\\' :: rest => some ('\\', rest)
  | 'x' :: rest => hexChar? 2 rest
  | 'u' :: rest => hexChar? 4 rest
  | 'U' :: rest => hexChar? 8 rest
  | _ => none

/-- The rest of a string on one line, after its quotation mark. The first argument bounds the number
of characters. -/
def readBasic (read : List Char) : Nat → List Char → Option (String × List Char)
  | 0, _ | _, [] => none
  | fuel + 1, c :: rest =>
    if c = '"' then some (String.ofList read.reverse, rest)
    else if c = '\\' then
      match escape? rest with
      | some (e, rest) => readBasic (e :: read) fuel rest
      | none => none
    else if isControl c then none
    else readBasic (c :: read) fuel rest

/-- The rest of a string without escapes, after its apostrophe. -/
def readLiteral (s : List Char) : Option (String × List Char) :=
  let body := s.takeWhile (· ≠ '\'')
  match s.dropWhile (· ≠ '\'') with
  | _ :: rest => if body.any isControl then none else some (String.ofList body, rest)
  | [] => none

/-- What follows a backslash that ends a line: all blanks and line ends are passed over. -/
def afterLineBreak? (s : List Char) : Option (List Char) :=
  match skipGap s with
  | '\n' :: rest | '\r' :: '\n' :: rest =>
    some (rest.dropWhile fun c => isGap c || c = '\n' || c = '\r')
  | _ => none

/-- The rest of a string over several lines, which ends with three of its marks; up to two more
before them belong to it. Line ends stay as they are. -/
def readLong (mark : Char) (escapes : Bool) (read : List Char) :
    Nat → List Char → Option (String × List Char)
  | 0, _ | _, [] => none
  | fuel + 1, c :: rest =>
    if c = mark then
      -- of a run of marks the last three close the string
      let marks := min 5 ((c :: rest).takeWhile (· = mark)).length
      if 3 ≤ marks then
        some (String.ofList (List.replicate (marks - 3) mark ++ read).reverse,
          (c :: rest).drop marks)
      else readLong mark escapes (c :: read) fuel rest
    else if c = '\\' ∧ escapes then
      match escape? rest with
      | some (e, rest) => readLong mark escapes (e :: read) fuel rest
      | none =>
        match afterLineBreak? rest with
        | some rest => readLong mark escapes read fuel rest
        | none => none
    else if c = '\n' then readLong mark escapes (c :: read) fuel rest
    else if c = '\r' then
      match rest with
      | '\n' :: rest => readLong mark escapes ('\n' :: '\r' :: read) fuel rest
      | _ => none
    else if isControl c then none
    else readLong mark escapes (c :: read) fuel rest

/-- The text without the line end at its start. -/
def dropLineEnd : List Char → List Char
  | '\n' :: rest => rest
  | '\r' :: '\n' :: rest => rest
  | rest => rest

/-- A string of one of the four kinds. -/
def readString? (s : List Char) : Option (String × List Char) :=
  match s with
  | '"' :: '"' :: '"' :: rest => readLong '"' true [] s.length (dropLineEnd rest)
  | '\'' :: '\'' :: '\'' :: rest => readLong '\'' false [] s.length (dropLineEnd rest)
  | '"' :: rest => readBasic [] s.length rest
  | '\'' :: rest => readLiteral rest
  | _ => none

/-! ### Keys -/

/-- The characters of a key without quotation marks. -/
def isBare (c : Char) : Bool :=
  c.isAlphanum || c = '_' || c = '-'

/-- One part of a key. -/
def readKeyPart (s : List Char) : Option (String × List Char) :=
  match s with
  | '"' :: rest => readBasic [] s.length rest
  | '\'' :: rest => readLiteral rest
  | _ =>
    let part := s.takeWhile isBare
    if part.isEmpty then none else some (String.ofList part, s.dropWhile isBare)

/-- Parts with dots between them. The first argument bounds their number. -/
def readKeyParts : Nat → List Char → Option (List String × List Char)
  | 0, _ => none
  | fuel + 1, s => do
    let (part, rest) ← readKeyPart s
    match skipGap rest with
    | '.' :: rest =>
      let (parts, rest) ← readKeyParts fuel (skipGap rest)
      return (part :: parts, rest)
    | rest => return ([part], rest)

/-- A key. -/
def readKey (s : List Char) : Option (List String × List Char) :=
  readKeyParts maxNesting s

/-! ### Values -/

/-- The characters of an unquoted scalar. -/
def isScalarChar (c : Char) : Bool :=
  c.isAlphanum || c = '_' || c = '-' || c = '+' || c = '.' || c = ':'

/-- An unquoted scalar. A date may be parted from its time by one blank. -/
def readScalar (s : List Char) : Option (Value × List Char) :=
  let first := s.takeWhile isScalarChar
  let rest := s.dropWhile isScalarChar
  match rest with
  | ' ' :: d :: more =>
    -- a blank may stand between a date and its time, but not after any other scalar
    if isDate first ∧ d.isDigit then
      let time := (d :: more).takeWhile isScalarChar
      (scalar? (first ++ ' ' :: time)).map (·, (d :: more).dropWhile isScalarChar)
    else (scalar? first).map (·, rest)
  | _ => (scalar? first).map (·, rest)

mutual

/-- A value. `levels` says how many arrays and tables may stand within one another in it; the first
argument bounds the recursion. -/
def readValue : Nat → Nat → List Char → Option (Value × List Char)
  | 0, _, _ => none
  | fuel + 1, levels, s =>
    match s, levels with
    | '"' :: _, _ | '\'' :: _, _ => (readString? s).map fun (text, rest) => (.string text, rest)
    | '[' :: _, 0 | '\x7b' :: _, 0 => none
    | '[' :: rest, levels + 1 =>
      (readItems fuel levels rest).map fun (items, rest) => (.array items, rest)
    | '\x7b' :: rest, levels + 1 =>
      (readPairs fuel levels [] rest).map fun (entries, rest) =>
        (.table (entriesToValues entries), rest)
    | _, _ => readScalar s

/-- The items of an array, up to and with the closing bracket. -/
def readItems : Nat → Nat → List Char → Option (List Value × List Char)
  | 0, _, _ => none
  | fuel + 1, levels, s =>
    match skipLines false s with
    | some (']' :: rest) => some ([], rest)
    | some s =>
      match readValue fuel levels s with
      | none => none
      | some (v, rest) =>
        match skipLines false rest with
        | some (',' :: rest) =>
          (readItems fuel levels rest).map fun (items, rest) => (v :: items, rest)
        | some (']' :: rest) => some ([v], rest)
        | _ => none
    | none => none

/-- The entries of a table within a value, up to and with the closing brace. -/
def readPairs : Nat → Nat → Entries → List Char → Option (Entries × List Char)
  | 0, _, _, _ => none
  | fuel + 1, levels, entries, s =>
    match skipLines false s with
    | some ('\x7d' :: rest) => some (entries, rest)
    | some s =>
      -- around the equals sign lines may end, which they may not in the lines of a document
      match (readKey s).bind fun (path, rest) => (skipLines false rest).map (path, ·) with
      | some (path, '=' :: rest) =>
        match (skipLines false rest).bind (readValue fuel levels) with
        | none => none
        | some (v, rest) =>
          match Entries.assign v path entries, skipLines false rest with
          | some entries, some (',' :: rest) => readPairs fuel levels entries rest
          | some entries, some ('\x7d' :: rest) => some (entries, rest)
          | _, _ => none
      | _ => none
    | none => none

end

/-! ### Documents -/

/-- One line with a header or with a key and its value. -/
def readLine (d : Document) (s : List Char) : Option (Document × List Char) :=
  match s with
  | '[' :: '[' :: rest => do
    let rest := skipGap rest
    match ← readKey rest with
    | (path, ']' :: ']' :: rest) => return (← d.openItem path, rest)
    | _ => none
  | '[' :: rest => do
    let rest := skipGap rest
    match ← readKey rest with
    | (path, ']' :: rest) => return (← d.openTable path, rest)
    | _ => none
  | _ => do
    match ← readKey s with
    | (path, '=' :: rest) =>
      let (v, rest) ← readValue (rest.length + 1) maxNesting (skipGap rest)
      return (← d.assign path v, rest)
    | _ => none

/-- The lines of a document. The first argument bounds their number. -/
def readLines (d : Document) : Nat → List Char → Option Document
  | 0, _ => none
  | fuel + 1, s =>
    match skipLines false s with
    | none => none
    | some [] => some d
    | some s =>
      match readLine d s with
      | none => none
      | some (d, rest) =>
        match lineEnd false rest with
        | none => none
        | some rest => readLines d fuel rest

/-- The table that a text denotes. A mark of byte order at its start is passed over. -/
def read? (text : String) : Option Value :=
  let s := match text.toList with
    | '\uFEFF' :: rest => rest
    | s => s
  (readLines {} (s.length + 1) s).map Document.toValue

end FaultDrill.Toml
