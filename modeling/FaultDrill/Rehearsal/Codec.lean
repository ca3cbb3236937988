import FaultDrill.Json.Decode
import FaultDrill.Rehearsal.Scene

/-!
# FaultDrill.Rehearsal.Codec

What happens in a rehearsal, from JSON values: the steps of the stand-in and of the reporter, and
how faults reach their targets. A step is an object with one field, whose name is that of the step.
An array gives the steps that can be read, and passes over all others.
-/

namespace FaultDrill

/-- The text of a field of an object, empty if there is none. -/
def Json.fieldText (name : String) (v : Json) : String :=
  ((v.field? name).bind Json.asString?).getD ""

/-- The process identifiers of an array. -/
def pidsOf (v : Option Json) : List UInt32 :=
  match v with
  | some (.arr items) => items.filterMap Json.asUInt32?
  | _ => []

/-- The report of a name and what is reported. -/
def Report.ofJson? (name : String) (v : Json) : Option Report :=
  match name with
  | "checkpoint" => v.asString?.map .checkpoint
  | "state" => some (.state (v.fieldText "variable") (v.fieldText "value"))
  | "target" => do return .target (v.fieldText "name") (← v.field? "pid" >>= Json.asUInt32?)
  | _ => none

namespace Rehearsal

open FaultDrill.Text

/-- So many milliseconds in nanoseconds. -/
def millis? (v : Json) : Option Nat :=
  (v.asNat? UInt64.size).map (· * nanosPerMilli)

mutual

/-- The steps of a stand-in. -/
def Step.listOfJson : List Json → List Step
  | [] => []
  | v :: rest => (Step.ofJson? v).toList ++ Step.listOfJson rest

/-- A step of a stand-in. -/
def Step.ofJson? : Json → Option Step
  | .obj [("then", .arr steps), ("if_invariant", .str start)]
  | .obj [("if_invariant", .str start), ("then", .arr steps)] =>
    some (.whenInvariant start (Step.listOfJson steps))
  | .obj [("late", .arr steps)] => some (.detach (Step.listOfJson steps))
  | .obj [("send", v)] => v.asString?.map .send
  | .obj [("print", .str line)] => some (.write .stdout (Utf8.encode (line ++ "\n")))
  | .obj [("eprint", .str line)] => some (.write .stderr (Utf8.encode (line ++ "\n")))
  | .obj [("print_hex", .str digits)] => (Hex.read? digits.toList).map (.write .stdout)
  | .obj [("env", v)] => v.asString?.map .showVariable
  | .obj [("cat_hex", v)] => v.asString?.map .showFile
  | .obj [("sleep_ms", v)] => (millis? v).map .sleep
  | .obj [("exit", v)] => (v.asNat? (UInt32.size / 2)).map .exit
  | .obj [("signal", _)] => some .die
  | .obj [("hang", _)] => some .hang
  | .obj [("gate", _)] => some .gate
  | _ => none

end

/-- A step of a reporter. -/
def ReporterStep.ofJson? : Json → Option ReporterStep
  | .obj [("cancel", _)] => some .cancel
  | .obj [("sleep_ms", v)] => (millis? v).map .sleep
  | .obj [(name, v)] => (Report.ofJson? name v).map .report
  | _ => none

end Rehearsal

/-- The word of a scripted stand-in; any other word is as good as none. -/
def Scripted.ofName : String → Scripted
  | "gone" => .gone
  | "fail" => .fail
  | "hang" => .hang
  | _ => .ok

/-- How faults reach their targets, with templates for the network in case that the processes are
those of the machine. -/
def Controller.ofJson (partitionCommand healCommand : String) (v : Json) : Controller :=
  match v.field? "process", v.field? "script" with
  | some (.bool true), _ => .machine .empty partitionCommand healCommand
  | _, some (.arr words) =>
    let alive := match v.field? "alive" with
      | some (.arr flags) => flags.filterMap Json.asBool?
      | _ => []
    .scripted ((words.filterMap Json.asString?).map .ofName) alive
  | _, _ =>
    .simulated (pidsOf (v.field? "processes"))
      (((v.field? "transient_failures").bind (Json.asNat? UInt32.size)).getD 0)
      (pidsOf (v.field? "unresponsive"))
      (((v.field? "fail_actions").bind Json.asBool?).getD false)

end FaultDrill
