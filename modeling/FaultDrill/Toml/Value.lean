import FaultDrill.Json.Value

/-!
# FaultDrill.Toml.Value

The values of TOML documents. Floats and times are only recognised, since no setting has such a
value.
-/

namespace FaultDrill.Toml

/-- A TOML value. -/
inductive Value where
  | string (s : String)
  | integer (n : Int)
  | float
  | boolean (b : Bool)
  | datetime (text : String)
  | array (items : List Value)
  | table (entries : List (String × Value))
  deriving Inhabited, Repr

namespace Value

mutual

/-- The JSON value of the same shape. A time becomes an object with one field of its own. -/
def toJson : Value → Json
  | .string s => .str s
  | .integer n => .int n
  | .float => .real
  | .boolean b => .bool b
  | .datetime text => .obj [("$__toml_private_datetime", .str text)]
  | .array items => .arr (itemsToJson items)
  | .table entries => .obj (entriesToJson entries)

/-- The JSON values of the items of an array. -/
def itemsToJson : List Value → List Json
  | [] => []
  | v :: rest => v.toJson :: itemsToJson rest

/-- The JSON fields of the entries of a table. -/
def entriesToJson : List (String × Value) → List (String × Json)
  | [] => []
  | (key, v) :: rest => (key, v.toJson) :: entriesToJson rest

end

end Value

end FaultDrill.Toml
