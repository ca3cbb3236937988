/-!
# FaultDrill.Check.Error

Why a reference cannot be turned into a check, and the wording of each cause.
-/

namespace FaultDrill

/-- What is wrong with the argument of a reference. -/
inductive ArgumentFault where
  | noArgument
  | argumentCount (strategy usage : String) (count : Nat)
  | variableAndValue (strategy : String)
  deriving DecidableEq, Repr

/-- The wording of a cause. -/
def ArgumentFault.message : ArgumentFault → String
  | .noArgument => "exit-status takes no argument"
  | .argumentCount strategy usage count => s!"{strategy} expects {usage} (got {count} argument(s))"
  | .variableAndValue strategy => s!"{strategy} expects <variable> <value>"

/-- Why a reference cannot be turned into a check. -/
inductive CheckError where
  | invalidArgument (invariant : String) (cause : ArgumentFault)
  /-- Neither the reference nor the settings say how to check. -/
  | unresolved (invariant : String)
  deriving DecidableEq, Repr

/-- The wording of an error. -/
def CheckError.message : CheckError → String
  | .invalidArgument invariant cause => s!"invariant '{invariant}': {cause.message}"
  | .unresolved invariant => s!"cannot resolve invariant '{invariant}'"

end FaultDrill
