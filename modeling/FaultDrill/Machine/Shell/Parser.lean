import FaultDrill.Machine.Shell.Token

/-!
# FaultDrill.Machine.Shell.Parser

Reading commands. A script is read one list of commands at a time, up to the end of a line, so that
what stands before a fault has been run when the fault is seen. How deep commands stand within one
another is bounded by the length of the script.
-/

namespace FaultDrill.Shell

/-- Commands in a row as one command. -/
def Command.ofList : List Command → Command
  | [] => .nothing
  | [c] => c
  | commands => .sequence commands

/-- Takes a keyword. -/
def readKeyword (inner : InnerReader) (word : String) (skipsLines : Bool) : Reader Unit := do
  match ← readToken inner skipsLines skipsLines with
  | .keyword w => if w = word then return else refuseToken (.keyword w) (some word)
  | t => refuseToken t (some word)

/-- Redirections after a command. -/
def readRedirects (inner : InnerReader) : Nat → Reader (List Redirect)
  | 0 => refuse .nesting
  | fuel + 1 => do
    match ← readToken inner false true with
    | .redirect stream sign =>
      let r ← readTarget inner stream sign
      return r :: (← readRedirects inner fuel)
    | t =>
      pushBack t
      return []

/-! ### Compound commands -/

/-- A condition with what depends on it, after its first keyword. -/
def readChoice (inner : InnerReader) : Nat → Reader Command
  | 0 => refuse .nesting
  | fuel + 1 => do
    let condition ← inner false
    readKeyword inner "then" false
    let yes ← inner false
    match ← readToken inner false false with
    | .keyword "elif" => return .choose condition yes (← readChoice inner fuel)
    | .keyword "else" =>
      let no ← inner false
      readKeyword inner "fi" false
      return .choose condition yes no
    | .keyword "fi" => return .choose condition yes .nothing
    | t => refuseToken t (some "fi")

/-- Words up to the end of a line. -/
def readItems (inner : InnerReader) : Nat → Reader (List Word)
  | 0 => refuse .nesting
  | fuel + 1 => do
    match ← readToken inner false false with
    | .word w => return w :: (← readItems inner fuel)
    | .newline | .operator ";" => return []
    | t => refuseToken t none

/-- A loop over words, after its keyword. -/
def readFor (inner : InnerReader) (line : Nat) : Reader Command := do
  let name ← match ← readToken inner false false with
    | .word [.text s false] => if isName s then pure s else refuse .loopName
    | _ => refuse .loopName
  let items ← match ← readToken inner true true with
    | .keyword "in" => readItems inner (← remaining)
    | .operator ";" => pure [Word.allArguments]
    | t =>
      pushBack t
      pure [Word.allArguments]
  readKeyword inner "do" true
  let body ← inner false
  readKeyword inner "done" false
  return .each line name items body

/-- The pattern that a token is. -/
def Token.pattern : Token → Word
  | .word w => w
  | .keyword s => [.text s false]
  | _ => []

/-- The patterns of a case up to the closing parenthesis. -/
def readPatterns (inner : InnerReader) (first : Token) : Nat → Reader (List Word)
  | 0 => refuse .nesting
  | fuel + 1 => do
    match ← readToken inner false false with
    | .operator "|" =>
      let next ← readToken inner false false
      return first.pattern :: (← readPatterns inner next fuel)
    | .operator ")" => return [first.pattern]
    | t => refuseToken t (some ")")

/-- The cases of a selection up to its last keyword. -/
def readCases (inner : InnerReader) : Nat → Reader (List (List Word × Command))
  | 0 => refuse .nesting
  | fuel + 1 => do
    match ← readToken inner true true with
    | .keyword "esac" => return []
    | t =>
      let first ← match t with
        | .operator "(" => readToken inner false false
        | t => pure t
      let patterns ← readPatterns inner first (← remaining)
      let body ← inner true
      match ← readToken inner true true with
      | .keyword "esac" => return [(patterns, body)]
      | .operator ";;" => return (patterns, body) :: (← readCases inner fuel)
      | t => refuseToken t (some ";;")

/-- A selection by patterns, after its keyword. -/
def readCase (inner : InnerReader) (line : Nat) : Reader Command := do
  match ← readToken inner false false with
  | .word subject =>
    match ← readToken inner true true with
    | .keyword "in" => return .select line subject (← readCases inner (← remaining))
    | t => refuseToken t (some "in")
  | t => refuse (.unexpected t.name (some "word"))

/-! ### Commands -/

/-- The commands after which no function can be named. -/
def unnamable : List String :=
  [".", ":", "break", "continue", "eval", "exec", "exit", "export", "local", "readonly", "return",
    "set", "shift", "times", "trap", "unset"]

/-- A simple command while it is read, its latest parts first. -/
structure Unfinished where
  assignments : List (String × Word) := []
  words : List Word := []
  redirects : List Redirect := []

/-- The rest of a simple command, and the name of a function if one is defined instead. -/
def readSimple (inner : InnerReader) (line : Nat) :
    Nat → Unfinished → Reader (Command ⊕ String)
  | 0, _ => refuse .nesting
  | fuel + 1, u => do
    match ← readToken inner false false with
    | .word w =>
      match u.words, Word.assignment? w, w with
      | [], some a, _ => readSimple inner line fuel { u with assignments := a :: u.assignments }
      | [], none, [.text s false] =>
        if ← replaceAlias s true then readSimple inner line fuel u
        else readSimple inner line fuel { u with words := [w] }
      | words, _, _ => readSimple inner line fuel { u with words := w :: words }
    | .redirect stream sign =>
      let r ← readTarget inner stream sign
      readSimple inner line fuel { u with redirects := r :: u.redirects }
    | t =>
      match t, u with
      | .operator "(", ⟨[], [name], []⟩ =>
        match ← readToken inner false false with
        | .operator ")" =>
          match Word.plain? name with
          | some name =>
            if !isName name || unnamable.contains name then refuse .functionName
            return .inr name
          | none => refuse .functionName
        | t => refuseToken t (some ")")
      | _, _ =>
        pushBack t
        return .inl (.simple line u.assignments.reverse u.words.reverse u.redirects.reverse)

/-- A command. -/
def readCommand (inner : InnerReader) (skipsLines : Bool) : Nat → Reader Command
  | 0 => refuse .nesting
  | fuel + 1 => do
    let t ← readToken inner skipsLines true
    let line := (← get).line
    let c : Command ← match t with
      | .keyword "if" => readChoice inner (← remaining)
      | .keyword "while" | .keyword "until" =>
        let condition ← inner false
        readKeyword inner "do" false
        let body ← inner false
        readKeyword inner "done" false
        pure (.repeated (t matches .keyword "until") condition body)
      | .keyword "for" => readFor inner line
      | .keyword "case" => readCase inner line
      | .operator "(" =>
        let body ← inner false
        match ← readToken inner false false with
        | .operator ")" => pure (.isolated line body)
        | t => refuseToken t (some ")")
      | .keyword "\x7b" =>
        let body ← inner false
        readKeyword inner "\x7d" false
        pure body
      | .word _ | .redirect .. =>
        pushBack t
        match ← readSimple inner line (← remaining) {} with
        | .inl c => return c
        | .inr name => return .define name (← readCommand inner true fuel)
      | t => refuseToken t none
    let redirects ← readRedirects inner (← remaining)
    return if redirects.isEmpty then c else .redirected line c redirects

/-- What follows a command in a pipe. -/
def readPiped (inner : InnerReader) : Nat → Reader (List Command)
  | 0 => refuse .nesting
  | fuel + 1 => do
    match ← readToken inner false false with
    | .operator "|" =>
      let c ← readCommand inner true (← remaining)
      return c :: (← readPiped inner fuel)
    | t =>
      pushBack t
      return []

/-- Commands with pipes between them. -/
def readPipe (inner : InnerReader) (skipsLines : Bool) : Reader Command := do
  let t ← readToken inner skipsLines true
  let inverted := t matches .keyword "!"
  if !inverted then pushBack t
  let first ← readCommand inner false (← remaining)
  let c ← match ← readPiped inner (← remaining) with
    | [] => pure first
    | others => pure (.pipe (first :: others))
  return if inverted then .invert c else c

/-- What follows a command in a chain of "and" and "or". -/
def readOthers (inner : InnerReader) : Nat → Command → Reader Command
  | 0, _ => refuse .nesting
  | fuel + 1, first => do
    match ← readToken inner false false with
    | .operator "&&" => readOthers inner fuel (.both first (← readPipe inner true))
    | .operator "||" => readOthers inner fuel (.either first (← readPipe inner true))
    | t =>
      pushBack t
      return first

/-- Commands up to a token that cannot follow them, or up to the end of the line if the list is one
of whole lines. The first flag says whether the list may end before the next token. The answer says
whether the script is over. -/
def readListFrom (inner : InnerReader) (wholeLine : Bool) :
    Nat → Bool → List Command → Reader (Command × Bool)
  | 0, _, _ => refuse .nesting
  | fuel + 1, mayEnd, read => do
    match ← readToken inner (!wholeLine) true with
    | .newline => return (.ofList read.reverse, false)
    | .endOfFile =>
      pushBack .endOfFile
      return (.ofList read.reverse, true)
    | t =>
      pushBack t
      if mayEnd && !wholeLine && t.endsList then return (.ofList read.reverse, false)
      let c ← readOthers inner (← remaining) (← readPipe inner false)
      let t ← readToken inner false false
      let read := (if t matches .operator "&" then Command.aside c else c) :: read
      match t with
      | .endOfFile =>
        pushBack .endOfFile
        return (.ofList read.reverse, true)
      | .newline =>
        pushBack .newline
        readListFrom inner wholeLine fuel true read
      | .operator "&" | .operator ";" => readListFrom inner wholeLine fuel true read
      | t =>
        if wholeLine then refuseToken t none
        pushBack t
        return (.ofList read.reverse, false)

/-- The reader of commands that stand so deep within others at most. -/
def readInner : Nat → InnerReader
  | 0, _ => refuse .nesting
  | depth + 1, mayBeEmpty => do
    let (c, _) ← readListFrom (readInner depth) false (← remaining) mayBeEmpty []
    return c

/-- What can be read next of a script: commands, or nothing at its end. The flag says whether the
script ends with them. -/
def Source.next (s : Source) : Except SyntaxFault (Option (Command × Bool) × Source) := do
  let size := s.chars.length + s.room
  let s := { s with pushed := none, awaited := [], documents := [] }
  let ((c, isOver), after) ← (readListFrom (readInner size) true size false []).run s
  return (if isOver && (c matches .nothing) then none else some (c, isOver), after)

end FaultDrill.Shell
