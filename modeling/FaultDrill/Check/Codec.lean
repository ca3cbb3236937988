import FaultDrill.Check.Basic
import FaultDrill.Settings

/-!
# FaultDrill.Check.Codec

A check as a JSON value: which check it is, what it is about, and how it is carried out.
-/

namespace FaultDrill.Check

/-- The name of a check and what it is about. -/
def fields : Check → String × List (String × Json)
  | .outputMarker marker => ("OutputMarker", [("marker", .str marker)])
  | .exitStatus => ("ExitStatus", [])
  | .constant variable_ expected =>
    ("Constant", [("variable", .str variable_), ("expected", .str expected)])
  | .equality left right => ("Equality", [("left", .str left), ("right", .str right)])
  | .reaches checkpoint => ("Reaches", [("checkpoint", .str checkpoint)])
  | .ordered first second => ("Ordered", [("first", .str first), ("second", .str second)])
  | .exclusive variable_ value =>
    ("Exclusive", [("variable", .str variable_), ("value", .str value)])
  | .probe p =>
    ("Probe", [("invariant", .str p.invariant), ("command", .str p.command),
      ("timeout_ms", p.timeout.toJson)])

/-- A check as a JSON value. -/
def toJson (c : Check) : Json :=
  .obj [("strategy", .str c.fields.1), ("fields", .obj c.fields.2),
    ("label", .str c.strategy.token),
    ("kind", .str c.kind), ("time_bound_ms", c.timeBound.toJson),
    ("marker", .ofOption .str c.watchedMarker?)]

end FaultDrill.Check
