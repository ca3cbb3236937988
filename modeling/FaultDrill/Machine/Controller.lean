import FaultDrill.Injection.Site
import FaultDrill.Machine.Shell.Run

/-!
# FaultDrill.Machine.Controller

Ways in which signals and network faults reach their targets: a stand-in that knows which processes
live and can be told to fail, a stand-in that answers as a script says, and the processes of a
machine with command templates for the network. The stand-ins write down every call.
-/

namespace FaultDrill

open FaultDrill.Text

/-- A word of the script of a stand-in. -/
inductive Scripted where
  | ok
  /-- The process is gone. -/
  | gone
  | fail
  /-- The call never ends. -/
  | hang
  deriving DecidableEq, Repr

/-- The state of a process of the machine. -/
inductive ProcessState where
  | sleeping
  | stopped
  | zombie
  deriving DecidableEq, Repr

/-- The letter of a state. -/
def ProcessState.letter : ProcessState → String
  | .sleeping => "S"
  | .stopped => "T"
  | .zombie => "Z"

/-- How faults reach their targets. -/
inductive Controller where
  /-- Knows the living processes. Fails always, or a number of times. -/
  | simulated (alive : List UInt32) (failures : Nat) (survivors : List UInt32) (failing : Bool)
  /-- Answers as a script says. -/
  | scripted (script : List Scripted) (alive : List Bool)
  /-- The processes of the machine, and the templates for the network. -/
  | machine (processes : SortedMap UInt32 ProcessState) (partitionCommand healCommand : String)

/-- What faults and probes act on: files, a clock, and the way to the targets. -/
structure Machine where
  /-- Nanoseconds since the start. -/
  clock : Nat := 0
  files : FileTree := {}
  /-- The calls that stand-ins have written down. -/
  calls : List String := []
  controller : Controller := .simulated [] 0 [] false

namespace Machine

/-- The machine after some time. -/
def sleep (n : Nat) (m : Machine) : Machine :=
  { m with clock := m.clock + n }

/-- Writes a call down. -/
def record (m : Machine) (call : String) : Machine :=
  { m with calls := m.calls ++ [call] }

/-- The process of an identifier, if it is one of the machine. -/
def process? (pid : UInt32) (m : Machine) : Option ProcessState :=
  match m.controller with
  | .machine processes _ _ => processes.get? pid
  | _ => none

/-- Starts a process that sleeps. -/
def spawn (pid : UInt32) (m : Machine) : Machine :=
  match m.controller with
  | .machine processes partitionCommand healCommand =>
    { m with controller := .machine (processes.insert pid .sleeping) partitionCommand healCommand }
  | _ => m

/-! ### Calls -/

/-- A call to the first stand-in. -/
def simulatedCall (m : Machine) (alive : List UInt32) (failures : Nat) (survivors : List UInt32)
    (failing : Bool) (call : String) : Except InjectionError Unit × Machine :=
  let m := m.record call
  if failing then (.error (.actionFailed "mock" call "mock failure"), m)
  else
    match failures with
    | 0 => (.ok (), m)
    | failures + 1 =>
      (.error (.actionFailed "mock" call "transient mock failure"),
        { m with controller := .simulated alive failures survivors failing })

/-- A call to the second stand-in. -/
def scriptedCall (m : Machine) (script : List Scripted) (alive : List Bool) (deadline : Nat)
    (pid : UInt32) (call : String) : Option (Except InjectionError Unit) × Machine :=
  let m := { m.record call with controller := .scripted (script.drop 1) alive }
  match script.head? with
  | none | some .ok => (some (.ok ()), m)
  | some .gone => (some (.error (.processGone pid)), m)
  | some .fail => (some (.error (.actionFailed "script" call "scripted failure")), m)
  | some .hang => (none, { m with clock := max m.clock deadline })

/-- The state of a process after a signal. A zombie takes signals without effect. -/
def afterSignal (g : Signal) : ProcessState → ProcessState
  | .zombie => .zombie
  | _ =>
    match g with
    | .kill => .zombie
    | .stop => .stopped
    | .resume => .sleeping

/-- A signal to a process. -/
def signal (deadline : Nat) (pid : UInt32) (g : Signal) (m : Machine) :
    Option (Except InjectionError Unit) × Machine :=
  let call := s!"{g.name} {pid.toNat}"
  match m.controller with
  | .simulated alive failures survivors failing =>
    if alive.contains pid then
      match simulatedCall m alive failures survivors failing call with
      | (.ok (), m) =>
        if g = .kill ∧ !survivors.contains pid then
          (some (.ok ()), { m with
            controller := .simulated (alive.filter (· ≠ pid)) failures survivors failing })
        else (some (.ok ()), m)
      | (.error e, m) => (some (.error e), m)
    else (some (.error (.processGone pid)), m)
  | .scripted script alive => scriptedCall m script alive deadline pid call
  | .machine processes partitionCommand healCommand =>
    match processes.get? pid with
    | none => (some (.error (.processGone pid)), m)
    | some state =>
      (some (.ok ()), { m with
        controller := .machine (processes.insert pid (afterSignal g state)) partitionCommand
          healCommand })

/-- Whether a process lives. -/
def isAlive (pid : UInt32) (m : Machine) : Bool × Machine :=
  match m.controller with
  | .simulated alive _ _ _ => (alive.contains pid, m)
  | .scripted script alive =>
    (alive.headD false, { m with controller := .scripted script (alive.drop 1) })
  | .machine processes _ _ =>
    (match processes.get? pid with
      | some .zombie | none => false
      | some _ => true, m)

/-- Runs a command for the network. -/
def runTemplate (m : Machine) (deadline : Nat) (action template : String) (target peer : Endpoint) :
    Option (Except InjectionError Unit) × Machine :=
  let command := Endpoint.fill template target peer
  let limit := deadline - m.clock
  let failed := fun (reason : String) =>
    Except.error (InjectionError.actionFailed target.name action reason)
  match Shell.start (Shell.scriptWords command) [] m.files (some limit) with
  | .error cause => (some (failed s!"failed to spawn '{command}': {cause.message}"), m)
  | .ok out =>
    let out := out.within limit
    let m := { m with files := out.files, clock := m.clock + out.elapsed }
    match out.ending with
    | .expired => (none, m)
    | .exited 0 => (some (.ok ()), m)
    | ending =>
      let errors := trimmed (Utf8.lenient out.stderr.bytes)
      (some (failed s!"'{command}' exited with {ending.text}: {errors}"), m)

/-- A change of the network. -/
def network (call action : String) (template : String → String → String) (deadline : Nat)
    (target peer : Endpoint) (m : Machine) : Option (Except InjectionError Unit) × Machine :=
  let call := s!"{call} {target.name} {peer.name}"
  match m.controller with
  | .simulated alive failures survivors failing =>
    let (answer, m) := simulatedCall m alive failures survivors failing call
    (some answer, m)
  | .scripted script alive => scriptedCall m script alive deadline 0 call
  | .machine _ partitionCommand healCommand =>
    runTemplate m deadline action (template partitionCommand healCommand) target peer

/-! ### Files -/

/-- Writes a file. -/
def write (path : String) (content : Bytes) (m : Machine) : Except FileError Unit × Machine :=
  match m.files.write path content with
  | .ok files => (.ok (), { m with files := files })
  | .error e => (.error e, m)

/-- The machine as a place to inject faults. Work on files takes no time. -/
def site : Site Machine where
  now m := m.clock
  sleep n m := m.sleep n
  signal := signal
  isAlive := isAlive
  block := network "partition" "partition" fun cut _ => cut
  unblock := network "heal" "heal_partition" fun _ heal => heal
  sizeBy _ path m := (some (m.files.sizeOf path), m)
  readBy _ path m := (some (m.files.read path), m)
  writeBy _ path content m :=
    let (answer, m) := m.write path content
    (some answer, m)
  read path m := (m.files.read path, m)
  write := write
  add_le_now_sleep _ _ := by simp [sleep]
  now_le_now_isAlive pid m := by
    unfold isAlive
    split <;> simp

end Machine

end FaultDrill
