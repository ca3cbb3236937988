import FaultDrill.Channel.Address
import FaultDrill.Injection.Settings
import FaultDrill.Rehearsal.Scene

/-!
# FaultDrill.Rehearsal.Bench

The scene of a rehearsal as a bench for trials. Faults act on its machine; the driver is the
stand-in if it goes by its name, and else a program of the machine.
-/

namespace FaultDrill.Rehearsal

open FaultDrill.Text

/-- The name of the stand-in for the driver. -/
def standInName : String := "<sut>"

namespace Scene

/-- The words of a script. -/
def wordsOf (script : Script) : List String :=
  script.program :: script.args

/-- Starts the driver. -/
def launch (script : Script) (bindings : List (String × String)) (s : Scene) :
    Except FileError Unit × Scene :=
  let now := s.machine.clock
  if script.program = standInName then
    (.ok (), { s with driver := some (.start (.steps s.standIn) bindings now) })
  else
    let words := wordsOf script
    match Shell.start words bindings s.machine.files none with
    | .error e => (.error e, s)
    | .ok out =>
      let p := Process.start (.words words) bindings now
      let due := if out.ending = .expired then none else some (now + out.elapsed)
      (.ok (), { s with driver := some { p with due := due } })

/-- Kills the driver. -/
def terminate (s : Scene) : Option DriverExit × Scene :=
  match s.driver with
  | none => (none, s)
  | some p =>
    let e := p.kill s.machine.clock s.machine.files
    (e.process.exit, { s.after s.machine.clock e with driver := some e.process })

/-- The lines that the driver has written. Others that it has started may go on writing for a
while. -/
def output (s : Scene) : List String × Scene :=
  match s.driver with
  | none => ([], s)
  | some p =>
    let time := p.readUntil s.machine.clock
    (outputLines (p.readBy time), s.sleep (time - s.machine.clock))

/-- Opens a channel for the next trial. An address without a port of its own gets one. -/
def openChannel (address : String) (s : Scene) : Except ChannelError String × Scene :=
  match SocketAddress.fault? address with
  | some reason => (.error (.bind address reason), s)
  | none =>
    let given := match cutLast? ':' address.toList with
      | some (host, ['0']) => String.ofList host ++ ":31570"
      | _ => address
    (.ok given, { s with lobby := .new 16 })

/-- Shuts the channel down. -/
def shutDown (s : Scene) : Scene :=
  s.changeLobby s.machine.clock Lobby.close

/-- Gives the channel up. -/
def abandon (s : Scene) : Scene :=
  s.changeLobby s.machine.clock Lobby.abandon

/-- Runs a script to its end or to its limit. The stand-in does nothing as a cleanup. -/
def runProgram (script : Script) (bindings : List (String × String)) (limit : Nat) (s : Scene) :
    Except FileError (Ending × Bytes) × Scene :=
  if script.program = standInName then (.ok (.exited 0, []), s)
  else
    match Shell.start (wordsOf script) bindings s.machine.files (some limit) with
    | .error e => (.error e, s)
    | .ok out =>
      let out := out.within limit
      (.ok (out.ending, out.stderr.bytes), settled { s with machine := { s.machine with
        files := out.files, clock := s.machine.clock + out.elapsed } })

/-- What happens on the machine, and then all that was due meanwhile. -/
def onMachine {α : Type} (f : Machine → α × Machine) (s : Scene) : α × Scene :=
  let (answer, m) := f s.machine
  (answer, settled { s with machine := m })

/-- Writes a file. Meanwhile a reporter takes its first step, and whoever else is due moves. -/
def write (path : String) (content : Bytes) (s : Scene) : Except FileError Unit × Scene :=
  let (answer, m) := Machine.site.write path content s.machine
  (answer, sleep (2 * stepTime) { s with machine := m })

/-- The scene with targets that are processes of its machine. -/
def withProcesses (settings : InjectorSettings) (s : Scene) : Scene :=
  { s with machine.controller :=
      .machine .empty settings.partitionCommand settings.healCommand }

/-- The identifier of the next trial. -/
def freshId (s : Scene) : TrialId × Scene :=
  (TrialId.ofNat (s.trials + 1), { s with trials := s.trials + 1 })

/-- The scene as a bench. -/
def bench : Bench Scene where
  now s := s.machine.clock
  sleep := sleep
  signal deadline pid g := onMachine (Machine.site.signal deadline pid g)
  isAlive pid := onMachine (Machine.site.isAlive pid)
  block deadline a b := onMachine (Machine.site.block deadline a b)
  unblock deadline a b := onMachine (Machine.site.unblock deadline a b)
  sizeBy deadline path := onMachine (Machine.site.sizeBy deadline path)
  readBy deadline path := onMachine (Machine.site.readBy deadline path)
  writeBy deadline path content := onMachine (Machine.site.writeBy deadline path content)
  read path := onMachine (Machine.site.read path)
  write := write
  add_le_now_sleep _ _ := Nat.le_refl _
  now_le_now_isAlive pid s := Machine.site.now_le_now_isAlive pid s.machine
  cancelled := cancelled
  wallClock s := UInt64.ofNat (s.machine.clock / nanosPerMilli)
  freshId := freshId
  files s := s.machine.files
  setFiles files s := { s with machine := { s.machine with files := files } }
  openChannel := openChannel
  answer ticket s := s.changeLobby s.machine.clock (·.answer ticket)
  shutDown := shutDown
  abandon := abandon
  launch := launch
  wait := wait
  terminate := terminate
  output := output
  ask p trialId := onMachine (Machine.probe p trialId)
  cleanUp script bindings limit := runProgram script bindings limit

end Scene

end FaultDrill.Rehearsal
