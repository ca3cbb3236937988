/-!
# FaultDrill.Config.Error

Why a configuration is refused, and the wording of each cause.
-/

namespace FaultDrill

/-- Why a configuration is refused. -/
inductive ConfigError where
  | fileNotFound (path : String)
  /-- The file is no TOML document, or a value in it has another type than its setting. -/
  | parseFailed
  | invalidValue (field reason : String)
  deriving DecidableEq, Repr

/-- The wording of an error. -/
def ConfigError.message : ConfigError → String
  | .fileNotFound path => s!"config file not found: {path}"
  | .parseFailed => "failed to parse config"
  | .invalidValue field reason => s!"invalid config value for '{field}': {reason}"

/-- Refuses a setting unless a condition holds. -/
def ConfigError.require (holds : Bool) (field reason : String) : Except ConfigError Unit :=
  if holds then .ok () else .error (.invalidValue field reason)

end FaultDrill
