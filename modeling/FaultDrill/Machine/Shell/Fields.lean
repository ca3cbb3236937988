import FaultDrill.Machine.Shell.Pattern

/-!
# FaultDrill.Machine.Shell.Fields

Splitting what a word expands to into fields. Only what comes from parameters and commands outside
quotation marks is split. Blanks among the separators end a field that has begun, and any other
separator ends a field even if it is empty.
-/

namespace FaultDrill.Shell

/-- A piece of what a word expands to. -/
inductive Glyph where
  /-- A character, whether it stands in quotation marks, and whether it may separate fields. -/
  | char (c : Char) (quoted splits : Bool)
  /-- A quoted text, which makes a field even if it is empty. -/
  | quotes
  /-- The end of an argument among all arguments. -/
  | boundary
  deriving DecidableEq, Repr

/-- A field before pathnames are looked for. -/
abbrev Field := List Pattern.Mark

/-- The text of a field. -/
def Field.text (f : Field) : String :=
  String.ofList (f.map (·.1))

/-- The pieces of a text. -/
def glyphs (quoted splits : Bool) (s : String) : List Glyph :=
  s.toList.map fun c => .char c quoted splits

/-- The characters of pieces. -/
def marksOf (gs : List Glyph) : Field :=
  gs.filterMap fun
    | .char c quoted _ => some (c, quoted)
    | _ => none

/-- The text of pieces. -/
def textOf (gs : List Glyph) : String :=
  Field.text (marksOf gs)

/-- The separators that count as blanks. -/
def isBlankSeparator (c : Char) : Bool :=
  c = ' ' || c = '\t' || c = '\n'

/-- Fields while a word is split, the latest first. -/
structure Splitting where
  complete : List Field := []
  /-- The field that goes on, its latest character first. -/
  current : Option Field := none
  /-- Whether a blank has ended a field and another separator may still belong to it. -/
  afterBlank : Bool := false

namespace Splitting

/-- Ends the field that goes on. -/
def close (s : Splitting) : Splitting :=
  match s.current with
  | some f => { s with complete := f.reverse :: s.complete, current := none }
  | none => s

/-- Takes a piece. -/
def step (separators : List Char) (s : Splitting) : Glyph → Splitting
  | .quotes => { s with current := some (s.current.getD []), afterBlank := false }
  | .boundary => { s.close with afterBlank := false }
  | .char c quoted splits =>
    if splits && separators.contains c then
      if isBlankSeparator c then
        if s.current.isSome then { s.close with afterBlank := true } else s
      else if s.current.isNone && s.afterBlank then { s with afterBlank := false }
      else
        let s := { s with current := some (s.current.getD []) }
        { s.close with afterBlank := false }
    else { s with current := some ((c, quoted) :: s.current.getD []), afterBlank := false }

end Splitting

/-- The fields of what a word expands to. -/
def splitFields (separators : List Char) (gs : List Glyph) : List Field :=
  (gs.foldl (Splitting.step separators) {}).close.complete.reverse

/-- The fields of a line for so many names. The last name gets all that is left, without the blanks
at its end. -/
def splitLine (separators : List Char) : Nat → List Pattern.Mark → List Field
  | 0, _ => []
  | names + 1, s =>
    let isBlank := fun (c, escaped) => !escaped && separators.contains c && isBlankSeparator c
    let isOther := fun (c, escaped) => !escaped && separators.contains c && !isBlankSeparator c
    let s := s.dropWhile isBlank
    if s.isEmpty then []
    else
      let field := s.takeWhile fun m => !isBlank m && !isOther m
      let rest := (s.drop field.length).dropWhile isBlank
      let rest := match rest with
        | m :: after => if isOther m then after.dropWhile isBlank else m :: after
        | [] => []
      if names = 0 && !rest.isEmpty then [(s.reverse.dropWhile isBlank).reverse]
      else field :: splitLine separators names rest

end FaultDrill.Shell
