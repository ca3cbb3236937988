import FaultDrill.Machine.Shell.Basic

/-!
# FaultDrill.Machine.Shell.Source

A script while it is read: what remains of it, the line that has been reached, and the texts in the
script that begin on the next line. Commands stand in words and words in commands; what reads the
one is given what reads the other. What cannot be read is a fault of syntax.
-/

namespace FaultDrill.Shell

/-! ### Faults of syntax -/

/-- Why a script cannot be read. -/
inductive SyntaxCause where
  /-- A token that cannot stand where it does, and the one that had to, if only one could. -/
  | unexpected (token : String) (expected : Option String)
  | openQuotes
  | openBraces
  | openExpression
  | openBackquote
  | loopName
  | functionName
  | streamNumber
  /-- The script nests deeper than its length allows. -/
  | nesting
  deriving DecidableEq, Repr

/-- The wording of a cause. -/
def SyntaxCause.message : SyntaxCause → String
  | .unexpected token none => s!"{token} unexpected"
  | .unexpected token (some expected) => s!"{token} unexpected (expecting {expected})"
  | .openQuotes => "Unterminated quoted string"
  | .openBraces => "Missing '\x7d'"
  | .openExpression => "Missing '))'"
  | .openBackquote => "EOF in backquote substitution"
  | .loopName => "Bad for loop variable"
  | .functionName => "Bad function name"
  | .streamNumber => "Bad fd number"
  | .nesting => "stack overflow"

/-- Why a script cannot be read, and the line on which that is seen. -/
structure SyntaxFault where
  line : Nat
  cause : SyntaxCause
  deriving DecidableEq, Repr

/-- The wording of a fault, without its line. -/
def SyntaxFault.message (fault : SyntaxFault) : String :=
  "Syntax error: " ++ fault.cause.message

/-! ### Tokens -/

/-- A redirection before its target is read. -/
inductive RedirectSign where
  | kind (k : RedirectKind)
  /-- A text in the script, from whose lines leading tabs may be dropped. -/
  | document (dropTabs : Bool)

/-- What a script consists of. -/
inductive Token where
  | endOfFile
  | newline
  | operator (s : String)
  | keyword (s : String)
  | word (w : Word)
  | redirect (stream : Nat) (sign : RedirectSign)

/-- The words that put commands together. -/
def keywords : List String :=
  ["!", "case", "do", "done", "elif", "else", "esac", "fi", "for", "if", "in", "then", "until",
    "while", "\x7b", "\x7d"]

/-- A token in messages. -/
def Token.name : Token → String
  | .endOfFile => "end of file"
  | .newline => "newline"
  | .operator s | .keyword s => s!"\"{s}\""
  | .word _ => "word"
  | .redirect .. => "redirection"

/-- Whether a list of commands ends before a token. -/
def Token.endsList : Token → Bool
  | .endOfFile => true
  | .operator s => s = ")" || s = ";;"
  | .keyword s => ["do", "done", "elif", "else", "esac", "fi", "then", "\x7d"].contains s
  | _ => false

/-- A text in the script that is still to come. -/
structure Awaited where
  number : Nat
  /-- The line that ends it. -/
  mark : String
  /-- Whether nothing in it is expanded. -/
  quoted : Bool
  dropTabs : Bool

/-- What remains of a script, and what has been seen of it. -/
structure Source where
  chars : List Char
  /-- Words that stand for the starts of commands. -/
  aliases : List (String × String) := []
  /-- The words that are being replaced, with how much of the script comes after each. -/
  replaced : List (String × Nat) := []
  /-- How much comes after a replacement whose next word may be replaced too. -/
  goesOn : Option Nat := none
  line : Nat := 1
  /-- A token that has been read too early. -/
  pushed : Option Token := none
  awaited : List Awaited := []
  /-- The texts in the script, by their numbers. -/
  documents : List (Nat × Word) := []
  nextDocument : Nat := 0

/-- A reader of a part of a script. -/
abbrev Reader (α : Type) := StateT Source (Except SyntaxFault) α

/-- Reads the commands within a word or within another command. The flag says whether there may be
none. -/
abbrev InnerReader := Bool → Reader Command

/-- Refuses the script at the place that has been reached. -/
def refuse {α : Type} (cause : SyntaxCause) : Reader α := do
  throw ⟨(← get).line, cause⟩

/-- Refuses a token. -/
def refuseToken {α : Type} (t : Token) (expected : Option String) : Reader α :=
  refuse (.unexpected t.name (expected.map fun s => s!"\"{s}\""))

/-- Takes a token back. -/
def pushBack (t : Token) : Reader Unit :=
  modify fun s => { s with pushed := some t }

/-! ### Characters -/

/-- What remains after line ends with a backslash before them, and the line that is reached. -/
def dropContinuations (line : Nat) : List Char → Nat × List Char
  | '\\' :: '\n' :: rest => dropContinuations (line + 1) rest
  | rest => (line, rest)

/-- The next character. Line ends with a backslash before them are passed over. -/
def peek : Reader (Option Char) := do
  let s ← get
  let (line, chars) := dropContinuations s.line s.chars
  set { s with line := line, chars := chars }
  return chars.head?

/-- Passes over the next character. -/
def advance : Reader Unit :=
  modify fun s => match s.chars with
    | c :: rest => { s with chars := rest, line := if c = '\n' then s.line + 1 else s.line }
    | [] => s

/-- Takes the next character as it stands. -/
def takeChar : Reader (Option Char) := do
  let c := (← get).chars.head?
  advance
  return c

/-- Passes over the next character if it is the one that is wanted. -/
def accept (c : Char) : Reader Bool := do
  if (← peek) = some c then
    advance
    return true
  else return false

/-- Takes characters as long as they satisfy a condition. -/
def takeChars (p : Char → Bool) : Nat → Reader (List Char)
  | 0 => return []
  | fuel + 1 => do
    match ← peek with
    | some c =>
      if p c then
        advance
        return c :: (← takeChars p fuel)
      else return []
    | none => return []

/-- How many tokens more there may be than characters, since words may stand for others. -/
def Source.room (s : Source) : Nat :=
  if s.aliases.isEmpty then 3 else 10000

/-- More than the number of tokens that can still be read, one put back and the end among them. -/
def remaining : Reader Nat := do
  let s ← get
  return s.chars.length + s.room

/-- Puts what a word stands for in its place. Says whether it stands for something. A word is not
replaced again within what it stands for. -/
def replaceAlias (word : String) (isFirst : Bool) : Reader Bool := do
  let s ← get
  let left := s.chars.length
  let follows := (s.goesOn.map fun n => decide (left < n)).getD false
  let s := if follows then { s with goesOn := none } else s
  let s := { s with replaced := s.replaced.filter fun (_, n) => n ≤ left }
  match if isFirst || follows then s.aliases.lookup word else none with
  | some value =>
    if s.replaced.any (·.1 = word) then
      set s
      return false
    else
      let endsBlank := (value.toList.getLast?.map fun c => c = ' ' || c = '\t').getD false
      set { s with
        chars := value.toList ++ s.chars
        replaced := (word, left) :: s.replaced
        goesOn := if endsBlank then some left else s.goesOn }
      return true
  | none =>
    set s
    return false

/-- Takes a name. -/
def takeName : Reader String := do
  return String.ofList (← takeChars isNameChar (← remaining))

/-- Takes digits. -/
def takeDigits : Reader String := do
  return String.ofList (← takeChars Char.isDigit (← remaining))

/-- Reads another text with a reader, from its first line. What the text holds that is still to come
is lost with it. -/
def readFrom {α : Type} (text : List Char) (read : Reader α) : Reader α := do
  let outer ← get
  set { outer with chars := text, line := 1, pushed := none, awaited := [] }
  let answer ← read
  modify fun s => { outer with documents := s.documents, nextDocument := s.nextDocument }
  return answer

end FaultDrill.Shell
