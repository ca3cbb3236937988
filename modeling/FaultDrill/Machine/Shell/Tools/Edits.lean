import FaultDrill.Machine.Shell.Regex
import FaultDrill.Machine.Shell.Tools.Basic

/-!
# FaultDrill.Machine.Shell.Tools.Edits

Scripts that edit lines: each edit is an action with the lines on which it is done. Edits are
numbered in the order of the script, and jumps name the label that they lead to.
-/

namespace FaultDrill.Shell.Tools

open FaultDrill.Text

/-! ### Edits -/

/-- A line, or lines, on which an edit is done. -/
inductive Address where
  | line (n : Nat)
  | last
  /-- The lines that match an expression, or else the one that has been used last. -/
  | matching (folded : Bool) (r : Option Regex)
  /-- Every so many lines from one on. -/
  | each (first step : Nat)

/-- Where the lines end on which an edit is done. -/
inductive Extent where
  | upTo (a : Address)
  /-- So many lines after the first one. -/
  | more (n : Nat)
  /-- The next line whose number is a multiple. -/
  | multiple (n : Nat)

/-- How letters of a replacement are written. -/
inductive Casing where
  | upper
  | lower
  | upperNext
  | lowerNext
  | plain

/-- What a replacement consists of. -/
inductive Replacement where
  | char (c : Char)
  /-- The text of a group, which is the whole match for the group zero. -/
  | group (n : Nat)
  /-- From here on letters are written in some way. -/
  | casing (c : Casing)

/-- How matches in a line are replaced. -/
structure Substitution where
  /-- What is looked for. Without it, it is the expression that has been used last. -/
  old : Option Regex
  new : List Replacement
  all : Bool := false
  folded : Bool := false
  shows : Bool := false
  /-- Which match is the first one that is replaced. -/
  nth : Nat := 1
  /-- The file to which a changed line is written. -/
  file : Option String := none

/-- When a jump is made: always, or by whether the line has been changed. -/
inductive JumpCondition where
  | always
  | changed
  | unchanged

/-- What is done to a line. -/
inductive Action where
  | substitute (s : Substitution)
  | translate (table : List (Char × Char))
  | delete
  | deleteFirst
  | print
  | printFirst
  | quit (status : Nat) (silently : Bool)
  | next
  | append
  /-- A text before, after, or in the place of a line. -/
  | text (kind : Char) (lines : List Char)
  | number
  /-- Shows the line with escapes, cut into pieces. -/
  | reveal
  | hold (appends : Bool)
  | fetch (appends : Bool)
  | exchange
  | clear
  | read (file : String)
  | write (file : String)
  | beginGroup
  | endGroup
  | label (name : String)
  | jump (condition : JumpCondition) (name : String)

/-- An edit with the lines on which it is done. -/
structure Edit where
  index : Nat
  first : Option Address := none
  last : Option Extent := none
  negated : Bool := false
  action : Action

/-! ### Reading -/

/-- Why a text is no script, and how much of it has not been read then. -/
structure EditFault where
  message : String
  left : Nat

/-- A reader of a part of a script. -/
abbrev EditReader := StateT (List Char) (Except EditFault)

namespace EditReader

/-- Gives up. -/
def fail {α : Type} (message : String) : EditReader α := do
  throw ⟨message, (← get).length⟩

/-- Passes characters over. -/
def skip (p : Char → Bool) : EditReader Unit :=
  modify (·.dropWhile p)

/-- The next characters that satisfy a test. -/
def taken (p : Char → Bool) : EditReader (List Char) := do
  let s ← get
  let text := s.takeWhile p
  set (s.drop text.length)
  return text

/-- Takes a character if it is the next one. -/
def accept (c : Char) : EditReader Bool := do
  match ← get with
  | d :: rest =>
    if c = d then
      set rest
      return true
    else return false
  | [] => return false

/-- A number, if there is one. -/
def number? : EditReader (Option Nat) := do
  let digits ← taken Char.isDigit
  return if digits.isEmpty then none else some (Decimal.value 0 digits)

/-- The length of a list of characters in brackets, after the opening one, if it has an end. -/
def bracketLength? (s : List Char) : Option Nat :=
  let head := match s with
    | '^' :: ']' :: _ => 2
    | '^' :: _ | ']' :: _ => 1
    | _ => 0
  go (s.length + 1) head (s.drop head)
where
  /-- Goes on to the closing bracket. -/
  go : Nat → Nat → List Char → Option Nat
    | 0, _, _ | _, _, [] => none
    | fuel + 1, n, '[' :: c :: rest =>
      if [':', '.', '='].contains c then
        let inner := rest.takeWhile (· ≠ c)
        go fuel (n + inner.length + 4) (rest.drop (inner.length + 2))
      else go fuel (n + 1) (c :: rest)
    | _ + 1, n, ']' :: _ => some (n + 1)
    | fuel + 1, n, _ :: rest => go fuel (n + 1) rest

/-- The text up to a mark that has no backslash before it, and what follows the mark. A backslash
before the mark is dropped. In an expression a mark in brackets stands for itself. -/
def splitAtMark (mark : Char) (inRegex : Bool) : Nat → List Char → Option (List Char × List Char)
  | 0, _ | _, [] => none
  | fuel + 1, '\\' :: c :: rest => do
    let (text, left) ← splitAtMark mark inRegex fuel rest
    return (if c = mark then c :: text else if c = 'n' && mark ≠ 'n' then '\n' :: text
      else '\\' :: c :: text, left)
  | fuel + 1, c :: rest =>
    if c = mark then some ([], rest)
    else do
      let n := if inRegex && c = '[' then (bracketLength? rest).getD 0 else 0
      let (text, left) ← splitAtMark mark inRegex fuel (rest.drop n)
      return (c :: rest.take n ++ text, left)

/-- Takes the text up to a mark. -/
def upTo (mark : Char) (inRegex : Bool) (message : String) : EditReader (List Char) := do
  let s ← get
  match splitAtMark mark inRegex (s.length + 1) s with
  | some (text, left) =>
    set left
    return text
  | none =>
    set ([] : List Char)
    fail message

/-- A regular expression from its text, which may be missing. -/
def regex (extended : Bool) (text : List Char) : EditReader (Option Regex) := do
  if text.isEmpty then return none
  match Regex.ofText extended text with
  | .ok r => return some r
  | .error fault => fail fault.message

/-- An address, if there is one. -/
def address? (extended : Bool) : EditReader (Option Address) := do
  let matching := fun (mark : Char) => do
    let text ← upTo mark true "unterminated address regex"
    let folded ← accept 'I'
    return some (.matching folded (← regex extended text))
  if ← accept '$' then return some .last
  if ← accept '/' then return ← matching '/'
  if ← accept '\\' then
    match ← get with
    | mark :: rest =>
      set rest
      return ← matching mark
    | [] => fail "unexpected end of the address"
  match ← number? with
  | none => return none
  | some n =>
    if ← accept '~' then return some (.each n ((← number?).getD 0))
    else return some (.line n)

/-- The end of the lines of an edit, if there is one. -/
def extent? (extended : Bool) : EditReader (Option Extent) := do
  if ← accept '+' then return some (.more ((← number?).getD 0))
  if ← accept '~' then return some (.multiple ((← number?).getD 0))
  return (← address? extended).map .upTo

/-- The end of the lines of an edit after a comma, if there is one. -/
def lastLine? (extended : Bool) : EditReader (Option Extent) := do
  if ← accept ',' then
    match ← extent? extended with
    | some e => return some e
    | none =>
      modify (·.drop 1)
      fail "unexpected `,'"
  else return none

/-- The file name up to the end of the line. -/
def fileName : EditReader String := do
  skip (· = ' ')
  let name ← taken (· ≠ '\n')
  if name.isEmpty then fail "missing filename in r/R/w/W commands"
  return String.ofList name

/-- The flags after a substitution. -/
def substitutionFlags : Nat → Substitution → EditReader Substitution
  | 0, s => return s
  | fuel + 1, s => do
    if ← accept 'g' then
      if s.all then fail "multiple `g' options to `s' command"
      substitutionFlags fuel { s with all := true }
    else if ← accept 'p' then
      if s.shows then fail "multiple `p' options to `s' command"
      substitutionFlags fuel { s with shows := true }
    else if (← accept 'i') || (← accept 'I') then
      substitutionFlags fuel { s with folded := true }
    else if ← accept 'w' then
      return { s with file := some (← fileName) }
    else
      match ← number? with
      | some 0 => fail "number option to `s' command may not be zero"
      | some n => substitutionFlags fuel { s with nth := n }
      | none => return s

/-- How the letter after a backslash changes the writing of letters. -/
def casing? : Char → Option Casing
  | 'U' => some .upper
  | 'L' => some .lower
  | 'u' => some .upperNext
  | 'l' => some .lowerNext
  | 'E' => some .plain
  | _ => none

/-- The groups that a regular expression has. -/
def groupsOf : Regex → List Nat
  | .group n r => n :: groupsOf r
  | .both a b | .either a b => groupsOf a ++ groupsOf b
  | .repeated r _ _ => groupsOf r
  | _ => []

/-- The parts of a replacement. -/
def replacement : List Char → List Replacement
  | '\\' :: c :: rest =>
    (if c.isDigit then .group (c.toNat - '0'.toNat)
      else match casing? c with
        | some casing => .casing casing
        | none => .char (match c with
          | 'n' => '\n'
          | 't' => '\t'
          | c => c)) :: replacement rest
  | '&' :: rest => .group 0 :: replacement rest
  | c :: rest => .char c :: replacement rest
  | [] => []

/-- A substitution after its letter. -/
def substitution (extended : Bool) : EditReader Action := do
  let message := "unterminated `s' command"
  match ← get with
  | [] => fail message
  | mark :: rest =>
    set rest
    let old ← upTo mark true message
    let new ← upTo mark false message
    let s : Substitution := { old := none, new := replacement new }
    let s ← substitutionFlags ((← get).length + 1) s
    let r ← regex extended old
    let missing := s.new.findSome? fun
      | .group n => if n = 0 || (r.map groupsOf).any (·.contains n) then none else some n
      | _ => none
    match missing with
    | some n => fail s!"invalid reference \\{n} on `s' command's RHS"
    | none => return .substitute { s with old := r }

/-- A table of characters after its letter. -/
def translation : EditReader Action := do
  let message := "unterminated `y' command"
  match ← get with
  | [] => fail message
  | mark :: rest =>
    set rest
    let old ← upTo mark false message
    let new ← upTo mark false message
    if old.length ≠ new.length then
      fail "strings for `y' command are different lengths"
    return .translate (old.zip new)

/-- The lines of a text, which goes on after a line that ends in a backslash. -/
def textLines : Nat → EditReader (List Char)
  | 0 => return []
  | fuel + 1 => do
    let line ← taken fun c => c ≠ '\n' && c ≠ '\\'
    if ← accept '\\' then
      match ← get with
      | c :: rest =>
        set rest
        return line ++ c :: (← textLines fuel)
      | [] => return line
    else return line

/-- A text after its letter. -/
def text (kind : Char) : EditReader Action := do
  let isBlank := fun (c : Char) => c = ' ' || c = '\t'
  skip isBlank
  if ← accept '\\' then
    let rest ← get
    if (rest.dropWhile isBlank).head? = some '\n' then
      skip isBlank
      let _ ← accept '\n'
  if (← get).isEmpty then fail "expected \\ after `a', `c' or `i'"
  return .text kind (← textLines ((← get).length + 1))

/-- The name of a label, which may be missing. -/
def labelName : EditReader String := do
  skip (· = ' ')
  return String.ofList (← taken fun c => c ≠ '\n' && c ≠ ';' && c ≠ ' ' && c ≠ '\x7d')

/-- The action of a letter. -/
def actionOf (extended : Bool) (c : Char) : EditReader Action := do
  match c with
  | 's' => substitution extended
  | 'y' => translation
  | 'd' => return .delete
  | 'D' => return .deleteFirst
  | 'p' => return .print
  | 'P' => return .printFirst
  | 'n' => return .next
  | 'N' => return .append
  | '=' => return .number
  | 'l' => return .reveal
  | 'h' => return .hold false
  | 'H' => return .hold true
  | 'g' => return .fetch false
  | 'G' => return .fetch true
  | 'x' => return .exchange
  | 'z' => return .clear
  | 'r' => return .read (← fileName)
  | 'w' => return .write (← fileName)
  | '\x7b' => return .beginGroup
  | '\x7d' => return .endGroup
  | 'q' | 'Q' =>
    skip (· = ' ')
    return .quit ((← number?).getD 0) (c = 'Q')
  | 'a' | 'i' | 'c' => text c
  | ':' =>
    skip (· = ' ')
    let name ← taken fun c => c ≠ '\n' && c ≠ ';' && c ≠ ' '
    if name.isEmpty then fail "\":\" lacks a label"
    return .label (String.ofList name)
  | 'b' => return .jump .always (← labelName)
  | 't' => return .jump .changed (← labelName)
  | 'T' => return .jump .unchanged (← labelName)
  | c => fail ("unknown command: `" ++ String.singleton c ++ "'")

/-- The end of an edit. -/
def endOfEdit (a : Action) : EditReader Unit := do
  match a with
  | .text .. | .beginGroup => return ()
  | _ =>
    skip (· = ' ')
    match ← get with
    | c :: rest =>
      if c = ';' || c = '\n' then set rest
      else if c ≠ '\x7d' && c ≠ '#' then
        set rest
        fail (if a matches .substitute _ then "unknown option to `s'"
          else "extra characters after command")
    | [] => return ()

/-- Fails where the action of a letter cannot have addresses. -/
def checkAddresses (first : Option Address) (last : Option Extent) (c : Char) :
    EditReader Unit := do
  match first, last with
  | some (.line 0), some (.upTo (.matching ..)) => return ()
  | some (.line 0), _ => fail "invalid usage of line address 0"
  | none, _ => return ()
  | some _, last =>
    if c = ':' then fail ": doesn't want any addresses"
    else if (c = 'q' || c = 'Q') && last.isSome then fail "command only uses one address"

/-- The edits of a script, from some number on. The answer also says how many groups are open at the
end. -/
def edits (extended : Bool) : Nat → Nat → Nat → EditReader (List Edit × Nat)
  | 0, _, opened => return ([], opened)
  | fuel + 1, index, opened => do
    skip fun c => c = ' ' || c = '\t' || c = '\n' || c = ';'
    match ← get with
    | [] => return ([], opened)
    | '#' :: rest =>
      set (rest.dropWhile (· ≠ '\n'))
      edits extended fuel index opened
    | _ =>
      let first ← address? extended
      let last ← if first.isSome then lastLine? extended else pure none
      skip (· = ' ')
      let negated ← accept '!'
      if negated then
        skip (· = ' ')
        if ← accept '!' then fail "multiple `!'s"
      let action ← match ← get with
        | [] => fail "missing command"
        | c :: rest => do
          set rest
          checkAddresses first last c
          if c = '\x7d' && opened = 0 then fail "unexpected `\x7d'"
          actionOf extended c
      endOfEdit action
      let opened := match action with
        | .beginGroup => opened + 1
        | .endGroup => opened - 1
        | _ => opened
      let (others, open_) ← edits extended fuel (index + 1) opened
      return (⟨index, first, last, negated, action⟩ :: others, open_)

end EditReader

/-- The edits after a label. The empty name stands for the end. -/
def editsAfterLabel (name : String) (script : List Edit) : Option (List Edit) :=
  if name = "" then some []
  else
    match script.dropWhile fun d => match d.action with
      | .label other => other ≠ name
      | _ => true with
    | _ :: rest => some rest
    | [] => none

/-- The edits after the end of a group. -/
def editsAfterGroup : Nat → List Edit → List Edit
  | _, [] => []
  | depth, d :: rest =>
    match d.action, depth with
    | .beginGroup, _ => editsAfterGroup (depth + 1) rest
    | .endGroup, 0 => rest
    | .endGroup, depth + 1 => editsAfterGroup depth rest
    | _, _ => editsAfterGroup depth rest

/-- In which of the scripts that follow each other a place is, from one on, and where in it. -/
def placeIn : Nat → Nat → List (List Char) → Nat × Nat
  | number, place, script :: next :: rest =>
    if place ≤ script.length then (number, place)
    else placeIn (number + 1) (place - script.length - 1) (next :: rest)
  | number, place, _ => (number, place)

/-- The edits of scripts that follow each other, or why they are none with the status for it. -/
def readEdits (extended : Bool) (scripts : List (List Char)) :
    Except (String × Nat) (List Edit) :=
  let script := (['\n']).intercalate scripts
  match (EditReader.edits extended (script.length + 1) 0 0).run script with
  | .error fault =>
    let (number, place) := placeIn 1 (script.length - fault.left) scripts
    .error (s!"-e expression #{number}, char {place}: {fault.message}", 1)
  | .ok ((edits, opened), _) =>
    let lost := edits.filterMap fun d => match d.action with
      | .jump _ name => if (editsAfterLabel name edits).isNone then some name else none
      | _ => none
    if 0 < opened then .error ("-e expression #1, char 0: unmatched `\x7b'", 1)
    else
      match lost with
      | [] => .ok edits
      | name :: _ => .error ("can't find label for jump to `" ++ name ++ "'", 4)

end FaultDrill.Shell.Tools
