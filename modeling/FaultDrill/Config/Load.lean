import FaultDrill.Config.Codec
import FaultDrill.Config.Environment
import FaultDrill.Config.Validation
import FaultDrill.Files.Tree
import FaultDrill.Toml.Reader
import FaultDrill.Toml.Writer

/-!
# FaultDrill.Config.Load

The configuration in a file, and the texts in which it is shown. A file is validated as it stands
before the environment is applied, and once more afterwards.
-/

namespace FaultDrill

/-- Why a configuration cannot be had. -/
inductive LoadError where
  | config (cause : ConfigError)
  | io (cause : FileError)
  deriving DecidableEq, Repr

namespace Config

/-- The configuration that a text denotes. A section may be an array of any length. -/
def parse (text : String) : Except ConfigError Config :=
  match (Toml.read? text).bind fun v => ofJson? .anyLength v.toJson with
  | some c => .ok c
  | none => .error .parseFailed

/-- The configuration in a file, without the environment. -/
def fromFile (files : FileTree) (path : String) : Except LoadError Config := do
  let text ← match files.readText path with
    | .ok text => .ok text
    | .error .notFound => .error (.config (.fileNotFound path))
    | .error e => .error (.io e)
  let c ← (parse text).mapError .config
  (validate c).mapError .config
  return c

/-- The configuration with the environment, if it is valid then. -/
def overridden (env : Environment) (c : Config) : Except LoadError Config := do
  let c := c.withEnvironment env
  (validate c).mapError .config
  return c

/-- The configuration in a file, with the environment. -/
def load (files : FileTree) (env : Environment) (path : String) : Except LoadError Config := do
  overridden env (← fromFile files path)

/-- The configuration in a file, or the default if there is no file, with the environment. -/
def loadOrDefault (files : FileTree) (env : Environment) (path : String) :
    Except LoadError Config :=
  if files.exists? path then load files env path else overridden env {}

/-! ### Showing -/

/-- The text of a whole configuration. -/
def text (c : Config) : String :=
  ((Toml.Value.ofJson? c.toJson).map Toml.write).getD ""

/-- The text of one section. -/
def sectionText? (c : Config) (name : String) : Option String :=
  (c.toJson.field? name).bind fun v => (Toml.Value.ofJson? v).map Toml.write

end Config

end FaultDrill
