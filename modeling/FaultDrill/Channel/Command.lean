import FaultDrill.Channel.Message
import FaultDrill.Text.Blank
import FaultDrill.Text.Pieces

/-!
# FaultDrill.Channel.Command

The line protocol of the reporting channel. A line is a verb, in letters of either case, and what
belongs to it: a checkpoint, which may hold blanks; a variable and its value, which may hold blanks;
or a target and the number of its process.
-/

namespace FaultDrill

open FaultDrill.Text

/-- A line of the protocol. -/
inductive Command where
  | report (r : Report)
  | ping
  deriving DecidableEq, Repr

/-- Why a line is no command. -/
inductive CommandFault where
  | usage (form : String)
  | invalidPid (text : String)
  | unknown (verb : String)
  deriving DecidableEq, Repr

/-- The wording of a fault. -/
def CommandFault.message : CommandFault → String
  | .usage form => s!"usage: {form}"
  | .invalidPid text => s!"invalid pid '{text}'"
  | .unknown verb => s!"unknown command '{verb}'"

namespace Command

/-- The number of a process, which is not zero. -/
def pid? (s : List Char) : Option UInt32 :=
  match Decimal.read32? s with
  | some pid => if pid = 0 then none else some pid
  | none => none

/-- A report of a variable, after the verb. -/
def readState (rest : List Char) : Except CommandFault Command :=
  match cutWhere? isBlank rest with
  | some (var, value) => .ok (.report (.state (String.ofList var) (String.ofList (trim value))))
  | none => .error (.usage "state <variable> <value>")

/-- A report of a target, after the verb. -/
def readTarget (rest : List Char) : Except CommandFault Command :=
  match words rest with
  | [name, pid] =>
    match pid? pid with
    | some n => .ok (.report (.target (String.ofList name) n))
    | none => .error (.invalidPid (String.ofList pid))
  | _ => .error (.usage "target <name> <pid>")

/-- Reads a line that has no blanks at its ends. -/
def parse (line : List Char) : Except CommandFault Command :=
  let (verb, rest) :=
    match cutWhere? isBlank line with
    | some (verb, rest) => (verb, trim rest)
    | none => (line, [])
  match String.ofList (lower verb) with
  | "checkpoint" =>
    if rest.isEmpty then .error (.usage "checkpoint <id>")
    else .ok (.report (.checkpoint (String.ofList rest)))
  | "state" => readState rest
  | "target" => readTarget rest
  | "ping" => .ok .ping
  | other => .error (.unknown other)

/-- Writes a command as a line. -/
def text : Command → String
  | .report (.checkpoint id) => s!"checkpoint {id}"
  | .report (.state var value) => s!"state {var} {value}"
  | .report (.target name pid) => s!"target {name} {pid.toNat}"
  | .ping => "ping"

end Command

end FaultDrill
