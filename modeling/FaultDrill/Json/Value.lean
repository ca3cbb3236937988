import FaultDrill.Collections.SortedMap

/-!
# FaultDrill.Json.Value

JSON values. Whole numbers are kept exactly; a number with a fraction or an exponent, or one beyond
the range of sixty-four bits, is kept only as "some other number", since no record of this library
has a field for it. The fields of an object keep their order.
-/

namespace FaultDrill

/-- A JSON value. -/
inductive Json where
  | null
  | bool (b : Bool)
  | int (n : Int)
  /-- A number that is not a whole number of sixty-four bits. -/
  | real
  | str (s : String)
  | arr (items : List Json)
  | obj (fields : List (String × Json))
  deriving Inhabited, Repr

namespace Json

/-- A natural number. -/
def nat (n : Nat) : Json :=
  .int n

/-- The value of an optional field: `null` stands for its absence. -/
def ofOption {α : Type} (f : α → Json) : Option α → Json
  | none => .null
  | some a => f a

/-- A list of strings. -/
def strings (l : List String) : Json :=
  .arr (l.map .str)

/-- A map as an object. -/
def ofMap {α : Type} (f : α → Json) (m : SortedMap String α) : Json :=
  .obj (m.toList.map fun (name, a) => (name, f a))

/-- The last field of that name. -/
def lastField? (name : String) (fields : List (String × Json)) : Option Json :=
  fields.foldl (fun found f => if f.1 = name then some f.2 else found) none

/-- A field of an object. -/
def field? (name : String) : Json → Option Json
  | .obj fields => lastField? name fields
  | _ => none

end Json

end FaultDrill
