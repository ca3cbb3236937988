import FaultDrill.Collections.SortedMap
import FaultDrill.Json.Value

/-!
# FaultDrill.Json.Decode

From JSON values to the values of a record. A record is read from an object, where fields of other
names are passed over and `null` stands for an absent optional field, or from an array with its
fields in their declared order. A failure carries no text: it says only that the value has another
shape.
-/

namespace FaultDrill.Json

/-- A string. -/
def asString? : Json → Option String
  | .str s => some s
  | _ => none

/-- A truth value. -/
def asBool? : Json → Option Bool
  | .bool b => some b
  | _ => none

/-- A whole number below a bound. -/
def asNat? (bound : Nat) : Json → Option Nat
  | .int (.ofNat n) => if n < bound then some n else none
  | _ => none

/-- A whole number of thirty-two bits. -/
def asUInt32? (v : Json) : Option UInt32 :=
  (v.asNat? UInt32.size).map UInt32.ofNat

/-- A whole number of sixty-four bits. -/
def asUInt64? (v : Json) : Option UInt64 :=
  (v.asNat? UInt64.size).map UInt64.ofNat

/-- A signed whole number of thirty-two bits. -/
def asInt32? : Json → Option Int
  | .int n => if -2147483648 ≤ n ∧ n ≤ 2147483647 then some n else none
  | _ => none

/-- An array whose items all have the shape that `f` reads. -/
def asList? {α : Type} (f : Json → Option α) : Json → Option (List α)
  | .arr items => items.mapM f
  | _ => none

/-- An object as a map, every field of the shape that `f` reads. -/
def asMap? {α : Type} (f : Json → Option α) : Json → Option (SortedMap String α)
  | .obj fields => do
    let read ← fields.mapM fun (name, v) => do return (name, ← f v)
    return SortedMap.ofList read
  | _ => none

/-- An optional value: `null` is none. -/
def asOption? {α : Type} (f : Json → Option α) : Json → Option (Option α)
  | .null => some none
  | v => (f v).map some

/-- The name of a case without fields: a string, or an object with that one field and `null`. -/
def asCase? : Json → Option String
  | .str s => some s
  | .obj [(name, .null)] => some name
  | _ => none

/-! ### Records -/

/-- Which arrays stand for a record. -/
inductive Listing where
  /-- Those with an item for each field. -/
  | complete
  /-- Also those that leave out fields at the end, which a record with defaults allows. -/
  | shorter
  /-- Those of any length, where surplus items are passed over. -/
  | anyLength
  deriving DecidableEq, Repr

/-- Whether so many items can stand for so many fields. -/
def Listing.allows (items fields : Nat) : Listing → Bool
  | .complete => items = fields
  | .shorter => items ≤ fields
  | .anyLength => true

/-- The fields of a record in their declared order. -/
def fields? (names : List String) (listing : Listing) : Json → Option (List (Option Json))
  | .obj fields => some (names.map (lastField? · fields))
  | .arr items =>
    if listing.allows items.length names.length then
      some ((items.take names.length).map some ++
        List.replicate (names.length - items.length) none)
    else none
  | _ => none

/-- A field that has to be there. -/
def required? {α : Type} (f : Json → Option α) : Option Json → Option α
  | none => none
  | some v => f v

/-- A field whose absence means none. -/
def optional? {α : Type} (f : Json → Option α) : Option Json → Option (Option α)
  | none => some none
  | some v => v.asOption? f

/-- A field with a default. -/
def defaulted? {α : Type} (f : Json → Option α) (default : α) : Option Json → Option α
  | none => some default
  | some v => f v

/-! ### Tagged cases -/

/-- The name of the case that a tag gives: the name itself, or its place among `numbered`. -/
def tagName? (numbered : List String) : Json → Option String
  | .str s => some s
  | .int (.ofNat n) => numbered[n]?
  | _ => none

/-- The case of a tagged value and what holds the fields of the case. A value inside another tagged
value may give its case by number, and `numbered` lists the cases for that. -/
def tagged? (tag : String) (numbered : List String) : Json → Option (String × Json)
  | .obj fields => do
    let v ← lastField? tag fields
    return (← tagName? numbered v, .obj (fields.filter (·.1 ≠ tag)))
  | .arr (v :: rest) => do return (← tagName? numbered v, .arr rest)
  | _ => none

end FaultDrill.Json
