import FaultDrill.Json.Decode
import FaultDrill.Plan.Basic

/-!
# FaultDrill.Plan.Codec

Plans, events and references as JSON values. A delay is kept in whole milliseconds. Reading checks
only the shape: a plan read from JSON need not be one that the text form allows.
-/

namespace FaultDrill

open Json (required?)

/-! ### Writing -/

namespace Corruption

/-- A corruption as a JSON value. -/
def toJson : Corruption → Json
  | .truncate path length =>
    .obj [("kind", .str "truncate"), ("path", .str path), ("len", .nat length.toNat)]
  | .flip path offset count =>
    .obj [("kind", .str "flip_bytes"), ("path", .str path), ("offset", .nat offset.toNat),
      ("count", .nat count.toNat)]
  | .zero path offset length =>
    .obj [("kind", .str "zero"), ("path", .str path), ("offset", .nat offset.toNat),
      ("len", .nat length.toNat)]

/-- The fields of a corruption of the given kind. -/
def ofFields? (kind : String) (body : Json) : Option Corruption :=
  match kind with
  | "truncate" => do
    match ← body.fields? ["path", "len"] .complete with
    | [path, length] =>
      return .truncate (← required? Json.asString? path) (← required? Json.asUInt64? length)
    | _ => none
  | "flip_bytes" => do
    match ← body.fields? ["path", "offset", "count"] .complete with
    | [path, offset, count] =>
      return .flip (← required? Json.asString? path) (← required? Json.asUInt64? offset)
        (← required? Json.asUInt64? count)
    | _ => none
  | "zero" => do
    match ← body.fields? ["path", "offset", "len"] .complete with
    | [path, offset, length] =>
      return .zero (← required? Json.asString? path) (← required? Json.asUInt64? offset)
        (← required? Json.asUInt64? length)
    | _ => none
  | _ => none

/-- A corruption from a JSON value. -/
def ofJson? (v : Json) : Option Corruption := do
  let (kind, body) ← v.tagged? "kind" []
  ofFields? kind body

/-- A corruption inside a fault, where the kind may also be given by its number. -/
def ofInnerJson? (v : Json) : Option Corruption := do
  let (kind, body) ← v.tagged? "kind" ["truncate", "flip_bytes", "zero"]
  ofFields? kind body

end Corruption

namespace Fault

/-- A fault as a JSON value. -/
def toJson (f : Fault) : Json :=
  .obj (("action", .str f.kind) :: match f with
    | .kill | .pause | .resume => []
    | .delay duration => [("duration", .nat duration.millisClamped)]
    | .partition peers => [("peers", .strings peers.toList)]
    | .corrupt damage => [("spec", damage.toJson)])

/-- A record without fields. -/
def ofNoFields? (fault : Fault) : Json → Option Fault
  | .obj _ | .arr [] => some fault
  | _ => none

/-- A record with one field. -/
def ofOneField? (name : String) (f : Json → Option Fault) (body : Json) : Option Fault := do
  match ← body.fields? [name] .complete with
  | [v] => required? f v
  | _ => none

/-- A fault from a JSON value. -/
def ofJson? (v : Json) : Option Fault := do
  let (kind, body) ← v.tagged? "action" []
  match kind with
  | "kill" => ofNoFields? .kill body
  | "pause" => ofNoFields? .pause body
  | "resume" => ofNoFields? .resume body
  | "delay" =>
    ofOneField? "duration" (fun ms => ms.asUInt64?.map fun ms => .delay (.ofMillis ms)) body
  | "partition" =>
    ofOneField? "peers" (fun peers => (peers.asList? Json.asString?).map fun names =>
      .partition (.ofList names)) body
  | "corrupt" =>
    ofOneField? "spec" (fun damage => (Corruption.ofInnerJson? damage).map .corrupt) body
  | _ => none

end Fault

namespace Event

/-- An event as a JSON value. -/
def toJson (e : Event) : Json :=
  .obj [("checkpoint", .str e.checkpoint), ("target", .str e.target), ("action", e.fault.toJson)]

/-- An event from a JSON value. -/
def ofJson? (v : Json) : Option Event := do
  match ← v.fields? ["checkpoint", "target", "action"] .complete with
  | [checkpoint, target, fault] =>
    return ⟨← required? Json.asString? checkpoint, ← required? Json.asString? target,
      ← required? Fault.ofJson? fault⟩
  | _ => none

end Event

namespace Reference

/-- A reference as a JSON value. -/
def toJson (r : Reference) : Json :=
  .obj [("name", .str r.name), ("strategy", .str r.strategy.name), ("argument", .str r.argument)]

/-- A reference from a JSON value. -/
def ofJson? (v : Json) : Option Reference := do
  match ← v.fields? ["name", "strategy", "argument"] .complete with
  | [name, strategy, argument] =>
    let strategy ← required? Json.asCase? strategy
    return ⟨← required? Json.asString? name, ← Strategy.ofName? strategy,
      ← required? Json.asString? argument⟩
  | _ => none

end Reference

namespace Plan

/-- A plan as a JSON value. -/
def toJson (p : Plan) : Json :=
  .obj [("id", .str p.id), ("invariant", p.invariant.toJson),
    ("events", .arr (p.events.map Event.toJson)),
    ("metadata", Json.ofMap .str p.metadata)]

/-- A plan from a JSON value. -/
def ofJson? (v : Json) : Option Plan := do
  match ← v.fields? ["id", "invariant", "events", "metadata"] .complete with
  | [id, invariant, events, metadata] =>
    return ⟨← required? Json.asString? id, ← required? Reference.ofJson? invariant,
      ← required? (Json.asList? Event.ofJson?) events,
      ← required? (Json.asMap? Json.asString?) metadata⟩
  | _ => none

end Plan

end FaultDrill
