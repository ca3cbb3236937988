import FaultDrill.Cli.Reader
import FaultDrill.Trial.Script

/-!
# FaultDrill.Cli.Invocation

What the command line is asked to do, and how the words for it are read. The level of the log and
the form of the output may be given at every level, and the innermost one counts.
-/

namespace FaultDrill.Cli

/-- The form of the output: for people or for programs. -/
inductive OutputFormat where
  | text
  | json
  deriving DecidableEq, Repr

/-- The name of a form. -/
def OutputFormat.name : OutputFormat → String
  | .text => "text"
  | .json => "json"

/-- The scripts of a trial as they are given. -/
structure ScriptChoice where
  driver : String
  driverArgs : List String := []
  cleanup : Option String := none
  deriving DecidableEq, Repr

namespace ScriptChoice

/-- The files that may be looked at before a trial. -/
def paths (c : ScriptChoice) : List String :=
  c.driver :: c.driverArgs ++ c.cleanup.toList

/-- The driver with its arguments. -/
def driverScript (c : ScriptChoice) : Script :=
  ⟨c.driver, c.driverArgs⟩

/-- The cleanup, which has no arguments. -/
def cleanupScript (c : ScriptChoice) : Option Script :=
  c.cleanup.map fun program => ⟨program, []⟩

end ScriptChoice

/-- What there is to do. -/
inductive Command where
  | replay (plan : String) (scripts : ScriptChoice)
  | campaign (plan invariants : String) (trials : Option UInt32) (scripts : ScriptChoice)
  | select (invariants : String) (chosen : List String) (scripts : ScriptChoice)
  | planValidate (paths : List String)
  | planShow (path : String)
  | configValidate
  | configShow (part : Option String)
  deriving DecidableEq, Repr

/-- A whole invocation. -/
structure Invocation where
  config : String
  logLevel : Option String
  output : OutputFormat
  command : Command
  deriving DecidableEq, Repr

/-- The files that a command names. -/
def Command.paths : Command → List String
  | .replay plan scripts => plan :: scripts.paths
  | .campaign plan list _ scripts => plan :: list :: scripts.paths
  | .select list _ scripts => list :: scripts.paths
  | .planValidate paths => paths
  | .planShow path => [path]
  | .configValidate | .configShow _ => []

namespace Invocation

/-- The files that an invocation names. -/
def paths (i : Invocation) : List String :=
  i.config :: i.command.paths

/-! ### The grammar -/

/-- The options of every level. -/
def everywhere : List Argument := [
  { name := "log-level", kind := .text },
  { name := "output", kind := .choice ["text", "json"] }]

/-- The options for the scripts of a trial. -/
def scriptOptions : List Argument := [
  { name := "driver", kind := .path, required := true },
  { name := "driver-arg", kind := .text, repeatable := true, dashes := true },
  { name := "cleanup", kind := .path }]

/-- The option for a list of invariants. -/
def listOption : Argument :=
  { name := "invariants", kind := .path }

/-- A path that has to be there. -/
def pathOperand (name : String) : Argument :=
  { name := name, kind := .path, required := true }

/-- The commands on plans. -/
def planGrammar : Grammar where
  options := everywhere
  commands := [
    ("validate", { options := everywhere
                   operand := some { pathOperand "paths" with repeatable := true } }),
    ("show", { options := everywhere, operand := some (pathOperand "path") })]

/-- The commands on configurations. -/
def configGrammar : Grammar where
  options := everywhere
  commands := [
    ("validate", { options := everywhere }),
    ("show", { options := { name := "section", kind := .text } :: everywhere })]

/-- The whole command line. -/
def grammar : Grammar where
  options := { name := "config", kind := .path, letter := some 'c' } :: everywhere
  hasVersion := true
  commands := [
    ("replay", { options := scriptOptions ++ everywhere, operand := some (pathOperand "plan") }),
    ("campaign", { options := listOption :: { name := "trials", kind := .count } ::
                     scriptOptions ++ everywhere
                   operand := some (pathOperand "plan") }),
    ("select", { options := listOption ::
                   { name := "invariant", kind := .text, repeatable := true } ::
                   scriptOptions ++ everywhere }),
    ("plan", planGrammar),
    ("config", configGrammar)]

/-! ### From values to an invocation -/

/-- All values of an argument, in order. -/
def all (v : Values) (name : String) : List String :=
  (v.filter (·.1 = name)).map (·.2)

/-- The value of an argument, or its default. -/
def valueOr (default : String) (v : Values) (name : String) : String :=
  (v.lookup name).getD default

/-- The list of invariants that is taken unless another one is given. -/
def defaultList : String := "selected-invariants.txt"

/-- The configuration that is taken unless another one is given. -/
def defaultConfig : String := "faultline.toml"

/-- The scripts of a trial. -/
def scriptsOf (v : Values) : ScriptChoice where
  driver := valueOr "" v "driver"
  driverArgs := all v "driver-arg"
  cleanup := v.lookup "cleanup"

/-- What there is to do at the innermost level, reached by the names of commands. The grammar allows
no other names than these. -/
def commandOf (v : Values) : List String → Command
  | ["replay"] => .replay (valueOr "" v "plan") (scriptsOf v)
  | ["campaign"] =>
    .campaign (valueOr "" v "plan") (valueOr defaultList v "invariants")
      (v.lookup "trials" >>= count?) (scriptsOf v)
  | ["select"] => .select (valueOr defaultList v "invariants") (all v "invariant") (scriptsOf v)
  | ["plan", "validate"] => .planValidate (all v "paths")
  | ["plan", "show"] => .planShow (valueOr "" v "path")
  | ["config", "show"] => .configShow (v.lookup "section")
  | _ => .configValidate

/-- The invocation of the values of all levels. -/
def ofLevels (outer : Values) (inner : List (String × Values)) : Invocation :=
  let levels := outer :: inner.map (·.2)
  let innermost := fun name => levels.reverse.findSome? (·.lookup name)
  { config := valueOr defaultConfig outer "config"
    logLevel := innermost "log-level"
    output := if innermost "output" = some "json" then .json else .text
    command := commandOf ((levels.getLast?).getD []) (inner.map (·.1)) }

/-- Reads an invocation. -/
def parse (words : List String) : Except UsageFault Invocation := do
  let (outer, inner) ← readLevel grammar {} words
  return ofLevels outer inner

end Invocation

end FaultDrill.Cli
