import FaultDrill.Text.Decimal

/-!
# FaultDrill.Cli.Grammar

What a command line may say. A level has options, which go by a name, possibly one operand, which
goes by its place, and commands, each of which is a level of its own. Words that say something else
are a fault of usage; a request for help or for the version is one too, but no mistake.
-/

namespace FaultDrill.Cli

open FaultDrill.Text

/-! ### Faults of usage -/

/-- Why words make no invocation. -/
inductive UsageFault where
  | helpAsked
  | versionAsked
  /-- Nothing is said at a place where a command has to follow. -/
  | nothingSaid
  /-- No command follows, though something else has been said. -/
  | commandMissing
  | unknownCommand
  | unknownArgument
  /-- An argument has to be there and is not. -/
  | argumentMissing
  /-- An argument that may stand once stands twice. -/
  | repeated
  /-- An option has no value, or not one of its words. -/
  | invalidValue
  /-- A value is no number, or one out of range. -/
  | refusedValue
  /-- A value is given to an option that takes none. -/
  | needlessValue
  deriving DecidableEq, Repr

/-- The exit code of a usage fault. -/
def UsageFault.exitCode : UsageFault → Nat
  | .helpAsked | .versionAsked => 0
  | _ => 2

/-- The name and the version of the program. -/
def versionText : String := "faultline 0.1.0\n"

/-- The output of a usage fault. Only the version is told by this program itself. -/
def UsageFault.output : UsageFault → String
  | .versionAsked => versionText
  | _ => ""

/-! ### Values -/

/-- What a value has to be. -/
inductive ValueKind where
  | text
  /-- A path, which is not empty. -/
  | path
  /-- A whole number of thirty-two bits. -/
  | count
  /-- One of some words. -/
  | choice (words : List String)
  deriving Repr

/-- The number of a text. A minus sign is read, and is refused with all numbers but zero. -/
def count? (s : String) : Option UInt32 :=
  match s.toList with
  | '-' :: digits =>
    if digits.head? ≠ some '+' ∧ Decimal.read? 1 digits = some 0 then some 0 else none
  | digits => Decimal.read32? digits

/-- Refuses a value of another kind. -/
def ValueKind.check (kind : ValueKind) (value : String) : Except UsageFault Unit :=
  match kind with
  | .text => .ok ()
  | .path => if value.isEmpty then .error .invalidValue else .ok ()
  | .count => if (count? value).isNone then .error .refusedValue else .ok ()
  | .choice words => if words.contains value then .ok () else .error .invalidValue

/-- An option with a value, or an operand. -/
structure Argument where
  name : String
  kind : ValueKind
  /-- The letter that stands for an option. -/
  letter : Option Char := none
  required : Bool := false
  repeatable : Bool := false
  /-- Whether the value of an option may look like an option. -/
  dashes : Bool := false
  deriving Repr

/-- What may be said at a level. -/
structure Grammar where
  options : List Argument := []
  operand : Option Argument := none
  commands : List (String × Grammar) := []
  /-- Whether the version can be asked for. -/
  hasVersion : Bool := false

namespace Grammar

/-- The option of a name. -/
def option? (g : Grammar) (name : String) : Option Argument :=
  g.options.find? (·.name = name)

/-- The option of a letter. -/
def optionOfLetter? (g : Grammar) (letter : Char) : Option Argument :=
  g.options.find? (·.letter = some letter)

/-- The command of a name. -/
def command? (g : Grammar) (name : String) : Option Grammar :=
  g.commands.lookup name

/-- Whether a word is a command; `help` is one wherever there are others. -/
def isCommand (g : Grammar) (word : String) : Bool :=
  !g.commands.isEmpty && (word == "help" || (g.command? word).isSome)

/-- The arguments that have to be there. -/
def required (g : Grammar) : List Argument :=
  (g.operand.toList ++ g.options).filter (·.required)

end Grammar

end FaultDrill.Cli
