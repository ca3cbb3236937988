import FaultDrill.Cli.Grammar
import FaultDrill.Text.Pieces

/-!
# FaultDrill.Cli.Reader

Reading the words of a command line by a grammar. The values of an argument are checked when the
next argument begins, or at the end of the level, so a word that nothing knows is found before a
wrong value in front of it. After two dashes every word is an operand. A command is read to its end
before the level that it belongs to is checked.
-/

namespace FaultDrill.Cli

open FaultDrill.Text

/-- The form of a word. -/
inductive Word where
  /-- Two dashes alone. -/
  | divider
  /-- A name after two dashes, with what follows an equals sign. -/
  | named (name : String) (value : Option String)
  /-- Letters after one dash. -/
  | letters (first : Char) (rest : List Char)
  | plain
  deriving DecidableEq, Repr

/-- The form of a word. -/
def Word.of (s : String) : Word :=
  match s.toList with
  | ['-', '-'] => .divider
  | '-' :: '-' :: rest =>
    match cut? '=' rest with
    | some (name, value) => .named (String.ofList name) (some (String.ofList value))
    | none => .named (String.ofList rest) none
  | '-' :: c :: rest => .letters c rest
  | _ => .plain

/-- The values that the arguments of a level have, in order. -/
abbrev Values := List (String × String)

/-- What has been read of a level. -/
structure Reading where
  values : Values := []
  /-- The argument that has begun, with values that are not checked yet. -/
  pending : Option (Argument × List String) := none
  /-- The option that the next word is a value of. -/
  awaiting : Option Argument := none
  /-- Whether the operand is there. -/
  hasOperand : Bool := false
  /-- Whether two dashes have been read. -/
  divided : Bool := false

namespace Reading

/-- Enters the values of an argument. -/
def enter (r : Reading) (a : Argument) (values : List String) : Except UsageFault Reading := do
  if values.isEmpty then throw .invalidValue
  if !a.repeatable && (r.values.lookup a.name).isSome then throw .repeated
  values.forM a.kind.check
  return { r with values := r.values ++ values.map (a.name, ·) }

/-- Ends the argument that has begun. -/
def settle (r : Reading) : Except UsageFault Reading :=
  match r.pending with
  | none => .ok r
  | some (a, values) => ({ r with pending := none } : Reading).enter a values

/-- Begins an option. Its value may be attached to it. -/
def openOption (r : Reading) (a : Argument) (attached : Option String) :
    Except UsageFault Reading := do
  let r ← r.settle
  match attached with
  | some value => ({ r with awaiting := none } : Reading).enter a [value]
  | none => return { r with pending := some (a, []), awaiting := some a }

/-- Stops to show something. -/
def stop (r : Reading) (fault : UsageFault) : Except UsageFault Reading := do
  let _ ← r.settle
  throw fault

/-- A value of the option that waits for one. -/
def supply (r : Reading) (a : Argument) (value : String) : Reading :=
  { r with pending := some (a, [value]), awaiting := none }

/-- An option that is given by its name. -/
def readNamed (g : Grammar) (r : Reading) (name : String) (value : Option String) :
    Except UsageFault Reading :=
  match g.option? name with
  | some a => r.openOption a value
  | none =>
    let flag := if name = "help" then some UsageFault.helpAsked
      else if name = "version" ∧ g.hasVersion then some .versionAsked else none
    match flag, value with
    | some fault, none => r.stop fault
    | some _, some _ => .error .needlessValue
    | none, _ => .error .unknownArgument

/-- Options that are given by their letters. -/
def readLetters (g : Grammar) (r : Reading) (first : Char) (rest : List Char) :
    Except UsageFault Reading :=
  match g.optionOfLetter? first with
  | some a =>
    r.openOption a (match rest with
      | [] => none
      | '=' :: value => some (String.ofList value)
      | value => some (String.ofList value))
  | none =>
    if first = 'h' then r.stop .helpAsked
    else if first = 'V' ∧ g.hasVersion then r.stop .versionAsked
    else .error .unknownArgument

/-- An operand. -/
def readOperand (g : Grammar) (r : Reading) (word : String) : Except UsageFault Reading :=
  match g.operand with
  | some a =>
    if r.hasOperand && !a.repeatable then .error .unknownArgument
    else
      match r.pending with
      | some (b, values) =>
        if b.name = a.name then .ok { r with pending := some (a, values ++ [word]) }
        else do
          let r ← r.settle
          return { r with pending := some (a, [word]), awaiting := none, hasOperand := true }
      | none => .ok { r with pending := some (a, [word]), awaiting := none, hasOperand := true }
  | none =>
    if g.commands.isEmpty || (r.divided && g.isCommand word) then .error .unknownArgument
    else .error .unknownCommand

/-- A word that is no command. -/
def step (g : Grammar) (r : Reading) (word : String) : Except UsageFault Reading :=
  if r.divided then r.readOperand g word
  else
    match r.awaiting with
    | some a =>
      if a.dashes then .ok (r.supply a word)
      else
        match Word.of word with
        | .divider => .ok { r with divided := true }
        | .named name value => r.readNamed g name value
        | .letters first rest => r.readLetters g first rest
        | .plain => .ok (r.supply a word)
    | none =>
      match Word.of word with
      | .divider => .ok { r with divided := true }
      | .named name value => r.readNamed g name value
      | .letters first rest => r.readLetters g first rest
      | .plain => r.readOperand g word

/-- The values of a level at its end. The flag says whether a command has followed. -/
def finish (g : Grammar) (r : Reading) (commanded : Bool) : Except UsageFault Values := do
  let r ← r.settle
  if !commanded && !g.commands.isEmpty then
    throw (if r.values.isEmpty then .nothingSaid else .commandMissing)
  if g.required.any fun a => (r.values.lookup a.name).isNone then throw .argumentMissing
  return r.values

/-- The name of the command that a word is at this point. -/
def commandOf? (g : Grammar) (r : Reading) (word : String) : Option String :=
  if !r.divided && r.awaiting.isNone && g.isCommand word then some word else none

end Reading

/-- What help is asked about: nothing, or a command after the other. -/
def helpFault (g : Grammar) : List String → UsageFault
  | [] => .helpAsked
  | word :: rest =>
    match g.command? word with
    | some below => helpFault below rest
    | none => if g.isCommand word then helpFault {} rest else .unknownCommand

/-- Reads the words of a level. Gives the values of the level, and after it the name and the values
of each level below. -/
def readLevel (g : Grammar) (r : Reading) : List String →
    Except UsageFault (Values × List (String × Values))
  | [] => return (← r.finish g false, [])
  | word :: rest =>
    match r.commandOf? g word with
    | some name =>
      match g.command? name with
      | some below => do
        let (inner, further) ← readLevel below {} rest
        return (← r.finish g true, (name, inner) :: further)
      | none => .error (helpFault g rest)
    | none => do readLevel g (← r.step g word) rest

end FaultDrill.Cli
