import FaultDrill.Text.Radix
import FaultDrill.Machine.Shell.Run
import FaultDrill.Trial.Bench
import FaultDrill.Trial.Capture

/-!
# FaultDrill.Rehearsal.Process

The processes of a rehearsal, in which a trial runs without a system under test. The driver is a
stand-in that goes through a list of steps, or a program of the machine, which does all its work at
the moment of its end. There is no network in a rehearsal, so a stand-in that wants to report over a
connection finds none.
-/

namespace FaultDrill.Rehearsal

open FaultDrill.Text

/-- A step of a stand-in. -/
inductive Step where
  /-- Tries to send a line over a connection. -/
  | send (line : String)
  | write (stream : Stream) (bytes : Bytes)
  /-- Prints a variable of the environment. -/
  | showVariable (name : String)
  /-- Prints the bytes of a file. -/
  | showFile (path : String)
  | sleep (nanos : Nat)
  | exit (code : Nat)
  /-- Ends itself by a signal. -/
  | die
  /-- Does nothing until it is killed. -/
  | hang
  /-- Waits until the reporter has finished. -/
  | gate
  /-- Starts a process of its own that goes through steps. -/
  | detach (steps : List Step)
  /-- Goes through steps if the invariant of the trial starts with a text. -/
  | whenInvariant (start : String) (steps : List Step)

/-- What a process runs. -/
inductive Program where
  | steps (left : List Step)
  /-- A program of the machine with its arguments. -/
  | words (words : List String)

/-- A process. -/
structure Process where
  program : Program
  bindings : List (String × String)
  started : Nat
  /-- When it goes on, unless it waits for something. -/
  due : Option Nat
  /-- What it has written, with the times of writing. -/
  written : List (Nat × Stream × Bytes) := []
  /-- When nobody can write to its streams any more. -/
  closed : Stream → Nat := fun _ => 0
  exit : Option DriverExit := none

/-- How long a process takes to start, in nanoseconds. -/
def startTime : Nat := nanosPerMilli

/-- How long a step takes, in nanoseconds. -/
def stepTime : Nat := 20000

/-- The process of a program. -/
def Process.start (program : Program) (bindings : List (String × String)) (now : Nat) :
    Process where
  program := program
  bindings := bindings
  started := now
  due := some (now + startTime)

/-- What a step of a process leads to. -/
structure Effect where
  process : Process
  /-- The line that could not be sent. -/
  unsent : Option String := none
  /-- The steps of a new process. -/
  detached : Option (List Step) := none
  files : FileTree

/-- The end of a process as the end of a driver. A script without an end goes on for ever. -/
def exitOf : Ending → Option DriverExit
  | .exited code => some (.exited code)
  | .signaled _ => some .signaled
  | .expired => none

namespace Process

/-- Writes bytes to a stream. -/
def put (now : Nat) (stream : Stream) (bytes : Bytes) (p : Process) : Process :=
  { p with written := p.written ++ [(now, stream, bytes)] }

/-- Writes a line to the output. -/
def print (now : Nat) (line : String) (p : Process) : Process :=
  p.put now .stdout (Utf8.encode (line ++ "\n"))

/-- The value of a variable of the environment. -/
def valueOf? (p : Process) (name : String) : Option String :=
  p.bindings.lookup name

/-- What a run has written to both streams, in the order of time. -/
def writtenIn (started : Nat) (out : Shell.Outcome) : List (Nat × Stream × Bytes) :=
  let of := fun (stream : Stream) (t : Shell.Transcript) =>
    t.chunks.map fun (time, bytes) => (started + time, stream, bytes)
  (of .stdout out.stdout ++ of .stderr out.stderr).mergeSort fun a b => a.1 ≤ b.1

/-- The run of a program for at most so many nanoseconds. One that has become impossible since it
was started is taken as one that goes on. -/
def runWords (p : Process) (words : List String) (limit : Option Nat) (files : FileTree) : Effect :=
  match Shell.start words p.bindings files limit with
  | .error _ => { process := { p with due := none }, files := files }
  | .ok out =>
    { process := { p with
        due := none
        written := p.written ++ writtenIn p.started out
        closed := fun
          | .stdout => p.started + out.stdout.closed
          | .stderr => p.started + out.stderr.closed
        exit := exitOf out.ending }
      files := out.files }

/-- A step of a process. The flag says whether the gate is open. -/
def step (now : Nat) (gateOpen : Bool) (files : FileTree) (p : Process) : Effect :=
  match p.program with
  | .words words => p.runWords words none files
  | .steps [] => { process := { p with due := none, exit := some (.exited 0) }, files := files }
  | .steps (s :: rest) =>
    let next := { p with program := .steps rest, due := some (now + stepTime) }
    match s with
    | .send line => { process := next, unsent := some line, files := files }
    | .write stream bytes =>
      { process := next.put now stream bytes, files := files }
    | .showVariable name =>
      let value := (p.valueOf? name).getD "<unset>"
      { process := next.print now s!"{name}={value}", files := files }
    | .showFile path =>
      let shown := match files.read path with
        | .ok bytes => String.ofList (Hex.write bytes)
        | .error _ => "<unreadable>"
      { process := next.print now s!"{path}={shown}", files := files }
    | .sleep nanos => { process := { next with due := some (now + nanos) }, files := files }
    | .exit code =>
      { process := { next with due := none, exit := some (.exited (code % 256)) }, files := files }
    | .die => { process := { next with due := none, exit := some .signaled }, files := files }
    | .hang => { process := { next with due := none }, files := files }
    | .gate =>
      { process := if gateOpen then next else { p with due := none }, files := files }
    | .detach steps => { process := next, detached := some steps, files := files }
    | .whenInvariant start steps =>
      let invariant := (p.valueOf? "FAULTLINE_INVARIANT").getD ""
      let left := if start.toList.isPrefixOf invariant.toList then steps ++ rest else rest
      { process := { next with program := .steps left }, files := files }

/-- Kills a process that has not ended. A program has done what it had time for. -/
def kill (now : Nat) (files : FileTree) (p : Process) : Effect :=
  match p.exit, p.program with
  | some _, _ => { process := p, files := files }
  | none, .steps _ => { process := { p with due := none, exit := some .signaled }, files := files }
  | none, .words words =>
    let e := p.runWords words (some (now - p.started)) files
    { e with process := { e.process with exit := some .signaled } }

/-- Lets a process go on that waits at the gate. -/
def passGate (now : Nat) (p : Process) : Process :=
  match p.program with
  | .steps (.gate :: rest) => { p with program := .steps rest, due := some (now + startTime) }
  | _ => p

end Process

/-- How long readers wait for more after the end of a process, each of them, in nanoseconds. -/
def readerGrace : Nat := 2 * nanosPerSecond

/-- When the readers of both streams have stopped, of which the second waits after the first. -/
def Process.readUntil (now : Nat) (p : Process) : Nat :=
  let wait := fun (now closed : Nat) => max now (min closed (now + readerGrace))
  wait (wait now (p.closed .stdout)) (p.closed .stderr)

/-- What the readers have read by a time. -/
def Process.readBy (time : Nat) (p : Process) : List (Stream × Bytes) :=
  (p.written.filter fun (t, _) => t ≤ time).map (·.2)

/-- How many steps are left at most, with those of the processes that will be started. -/
def weight : List Step → Nat
  | [] => 1
  | .detach steps :: rest => 1 + weight steps + weight rest
  | .whenInvariant _ steps :: rest => 1 + weight steps + weight rest
  | _ :: rest => 1 + weight rest

/-- How many steps a process has left at most. -/
def Process.weight (p : Process) : Nat :=
  match p.program with
  | .steps left => Rehearsal.weight left
  | .words _ => 1

end FaultDrill.Rehearsal
