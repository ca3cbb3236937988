import FaultDrill.Files.Tree
import FaultDrill.Machine.Ending

/-!
# FaultDrill.Machine.Shell.Basic

The command language of probes, cleanup commands and network templates: words with quotes and
parameters, simple commands with redirections, and the ways to put commands together. The language
works on bytes, so all its texts are texts of octets.
-/

namespace FaultDrill.Shell

/-! ### Names -/

/-- The characters with which a name can start. -/
def startsName (c : Char) : Bool :=
  c.isAlpha || c = '_'

/-- The characters of a name. -/
def isNameChar (c : Char) : Bool :=
  c.isAlphanum || c = '_'

/-- Whether a text is a name. -/
def isName (s : String) : Bool :=
  match s.toList with
  | c :: rest => startsName c && rest.all isNameChar
  | [] => false

/-! ### Commands -/

/-- What takes the place of a parameter that has no value, or of one that has a value. -/
inductive Fallback where
  /-- A word in the place of no value. -/
  | other
  /-- A word in the place of a value. -/
  | instead
  /-- A word in the place of no value, which becomes the value. -/
  | assigned
  /-- No value is an error. -/
  | required
  deriving DecidableEq, Repr

/-- What a redirection does. -/
inductive RedirectKind where
  /-- Opens a file for writing. The flag says whether that may be done to any file. -/
  | write (force : Bool)
  | append
  | read
  | readWrite
  /-- Connects a stream with what another stream is connected with. -/
  | duplicate
  /-- Lets a stream read the text with a number that stands in the script. -/
  | document (number : Nat)
  deriving DecidableEq, Repr

mutual

/-- A part of a word. What stands in quotation marks is never split. -/
inductive Part where
  /-- Characters. A quoted text without characters still makes a word. -/
  | text (s : String) (quoted : Bool)
  | parameter (name : String) (use : Use) (quoted : Bool)
  /-- The number that an expression denotes. -/
  | arithmetic (expression : List Part) (quoted : Bool)
  /-- What a command writes to its output. -/
  | output (command : Command) (quoted : Bool)

/-- What is done with a parameter. -/
inductive Use where
  | value
  | length
  /-- Looks whether there is a value, or one that is not empty. -/
  | check (fallback : Fallback) (orEmpty : Bool) (word : List Part)
  /-- Drops what matches a pattern at one end. -/
  | trim (atEnd longest : Bool) (pattern : List Part)
  /-- What no parameter can be used for. -/
  | unknown

/-- The redirection of a stream. -/
inductive Redirect where
  | mk (stream : Nat) (kind : RedirectKind) (target : List Part)

/-- A command. Commands that can go wrong before they run know the line they stand on. -/
inductive Command where
  | nothing
  | simple (line : Nat) (assignments : List (String × List Part)) (words : List (List Part))
      (redirects : List Redirect)
  | sequence (commands : List Command)
  /-- The second command runs only if the first one succeeds. -/
  | both (first second : Command)
  /-- The second command runs only if the first one fails. -/
  | either (first second : Command)
  | invert (c : Command)
  | pipe (commands : List Command)
  /-- Goes on without waiting for the command. -/
  | aside (c : Command)
  | each (line : Nat) (name : String) (items : List (List Part)) (body : Command)
  | choose (condition yes no : Command)
  /-- Repeats a command as long as the condition holds, or until it does. -/
  | repeated (untilTrue : Bool) (condition body : Command)
  | select (line : Nat) (subject : List Part) (cases : List (List (List Part) × Command))
  /-- A command in a shell of its own. -/
  | isolated (line : Nat) (c : Command)
  | redirected (line : Nat) (c : Command) (redirects : List Redirect)
  | define (name : String) (body : Command)

end

instance : Inhabited Command := ⟨.nothing⟩

/-- A word before it is expanded. -/
abbrev Word := List Part

/-- Whether a part stands in quotation marks. -/
def Part.isQuoted : Part → Bool
  | .text _ quoted | .parameter _ _ quoted | .arithmetic _ quoted | .output _ quoted => quoted

/-- The text of a word without quotation marks and parameters. -/
def Word.plain? : Word → Option String
  | [] => some ""
  | [.text s false] => some s
  | _ => none

/-- The word that stands for all arguments. -/
def Word.allArguments : Word :=
  [.parameter "@" .value true]

/-- The name and the value of an assignment. -/
def Word.assignment? : Word → Option (String × Word)
  | .text s false :: rest =>
    let chars := s.toList
    let name := String.ofList (chars.takeWhile isNameChar)
    match chars.dropWhile isNameChar with
    | '=' :: value =>
      if isName name then
        some (name, if value.isEmpty then rest else .text (String.ofList value) false :: rest)
      else none
    | _ => none
  | _ => none

/-! ### Runs -/

/-- What has been written to a stream in a run. All times are in nanoseconds since its start. -/
structure Transcript where
  /-- Bytes with the times when they were written, in the order of time. -/
  chunks : List (Nat × Bytes) := []
  /-- When the last process that could write has ended. -/
  closed : Nat := 0

/-- All bytes that have been written. -/
def Transcript.bytes (t : Transcript) : Bytes :=
  t.chunks.flatMap (·.2)

/-- What is left of a run. -/
structure Outcome where
  ending : Ending
  stdout : Transcript
  stderr : Transcript
  files : FileTree
  /-- How long it took, in nanoseconds. -/
  elapsed : Nat

namespace Outcome

/-- When the run has ended and all has been written. -/
def drained (out : Outcome) : Nat :=
  max out.elapsed (max out.stdout.closed out.stderr.closed)

/-- The outcome for somebody who reads all that is written but does not wait longer than so many
nanoseconds. -/
def within (limit : Nat) (out : Outcome) : Outcome :=
  if out.drained < limit then { out with elapsed := out.drained }
  else { out with ending := .expired, elapsed := limit }

end Outcome

end FaultDrill.Shell
