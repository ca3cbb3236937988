import FaultDrill.Channel.Lobby
import FaultDrill.Machine.Probe
import FaultDrill.Rehearsal.Process

/-!
# FaultDrill.Rehearsal.Scene

The scene of a rehearsal: a machine, the driver and the processes that it has started, and possibly
a reporter in the process of the runner. Whatever is due happens in the order of time, and at one
time first the driver moves, then the processes that it has started, then the reporter. Time passes
only while somebody sleeps or waits.
-/

namespace FaultDrill.Rehearsal

/-- A step of a reporter. -/
inductive ReporterStep where
  /-- Reports, and waits until the report is dealt with. -/
  | report (r : Report)
  /-- Asks for a stop. -/
  | cancel
  | sleep (nanos : Nat)

/-- A reporter in the process of the runner. It stops at the first report that fails. -/
structure Reporter where
  steps : List ReporterStep
  /-- When it goes on, unless it waits for an answer or has finished. -/
  due : Option Nat
  /-- The report that has not been dealt with. -/
  ticket : Option Ticket := none
  /-- What became of the steps. -/
  outcomes : List (Except ChannelError Unit) := []
  finished : Bool := false

/-- The scene of a rehearsal. -/
structure Scene where
  machine : Machine := {}
  /-- The steps of the stand-in for the driver. -/
  standIn : List Step := []
  driver : Option Process := none
  /-- The processes that the driver has started. -/
  detached : List Process := []
  reporter : Option Reporter := none
  lobby : Lobby := .new 16
  gateOpen : Bool := false
  /-- Whether a stop has been asked for. -/
  cancelled : Bool := false
  /-- The lines that could not be sent. -/
  unsent : List String := []
  /-- The number of trials that have been given an identifier. -/
  trials : Nat := 0

namespace Scene

/-! ### The reporter -/

/-- Lets the reporter go on if its report has been dealt with. -/
def wakeReporter (now : Nat) (s : Scene) : Scene :=
  match s.reporter with
  | none => s
  | some r =>
    match r.ticket with
    | none => s
    | some ticket =>
      match s.lobby.progress[ticket]? with
      | some .done =>
        { s with reporter := some { r with
            ticket := none, due := some (now + stepTime), outcomes := r.outcomes ++ [.ok ()] } }
      | some (.failed e) =>
        { s with reporter := some { r with
            ticket := none, due := some (now + stepTime), steps := []
            outcomes := r.outcomes ++ [.error e] } }
      | _ => s

/-- Changes the channel. -/
def changeLobby (now : Nat) (f : Lobby → Lobby) (s : Scene) : Scene :=
  wakeReporter now { s with lobby := f s.lobby }

/-- The reporter leaves the channel, and the gate opens. -/
def finishReporter (now : Nat) (r : Reporter) (s : Scene) : Scene :=
  { s with
    reporter := some { r with due := none, finished := true }
    lobby := s.lobby.stopAdmitting
    gateOpen := true
    driver := s.driver.map (·.passGate now)
    detached := s.detached.map (·.passGate now) }

/-- The reporter takes a step. -/
def stepReporter (now : Nat) (r : Reporter) (s : Scene) : Scene :=
  match r.steps with
  | [] => s.finishReporter now r
  | step :: rest =>
    let next := { r with steps := rest, due := some (now + stepTime) }
    match step with
    | .report report =>
      let ticket := s.lobby.progress.length
      changeLobby now (·.send report)
        { s with reporter := some { next with due := none, ticket := some ticket } }
    | .cancel =>
      { s with
        cancelled := true
        reporter := some { next with outcomes := r.outcomes ++ [.ok ()] } }
    | .sleep nanos =>
      { s with reporter := some { next with
          due := some (now + nanos), outcomes := r.outcomes ++ [.ok ()] } }

/-! ### The processes -/

/-- The scene after a process other than the driver has been started. -/
def launchDetached (now : Nat) (bindings : List (String × String)) (steps : List Step)
    (s : Scene) : Scene :=
  { s with detached := s.detached ++ [.start (.steps steps) bindings now] }

/-- The scene after an effect on its files, without the process itself. -/
def after (now : Nat) (e : Effect) (s : Scene) : Scene :=
  let s := { s with
    machine := { s.machine with files := e.files }
    unsent := s.unsent ++ e.unsent.toList }
  match e.detached with
  | some steps => s.launchDetached now e.process.bindings steps
  | none => s

/-! ### What happens next -/

/-- Who moves. -/
inductive Mover where
  | driver (p : Process)
  | detached (index : Nat) (p : Process)
  | reporter (r : Reporter)

/-- All who can move, with the time at which they do. -/
def movers (s : Scene) : List (Nat × Mover) :=
  ((s.driver.bind fun p => p.due.map (·, .driver p)).toList ++
    s.detached.zipIdx.filterMap fun (p, i) => p.due.map (·, .detached i p)) ++
    (s.reporter.bind fun r => r.due.map (·, .reporter r)).toList

/-- The earliest of those who can move. -/
def earliest : List (Nat × Mover) → Option (Nat × Mover)
  | [] => none
  | m :: rest =>
    match earliest rest with
    | some other => if other.1 < m.1 then some other else some m
    | none => some m

/-- Somebody moves. -/
def move (now : Nat) (s : Scene) : Mover → Scene
  | .driver p =>
    let e := p.step now s.gateOpen s.machine.files
    { s.after now e with driver := some e.process }
  | .detached i p =>
    let e := p.step now s.gateOpen s.machine.files
    let s := s.after now e
    { s with detached := s.detached.set i e.process }
  | .reporter r => s.stepReporter now r

/-- How many moves are left at most. -/
def weight (s : Scene) : Nat :=
  (s.driver.toList ++ s.detached).foldl (fun n p => n + p.weight) 0 +
    ((s.reporter.map fun r => 2 * r.steps.length + 2).getD 0) + 1

/-- All moves up to a time. -/
def catchUp (time : Nat) : Nat → Scene → Scene
  | 0, s => s
  | moves + 1, s =>
    match earliest s.movers with
    | some (due, m) => if due ≤ time then catchUp time moves (s.move due m) else s
    | none => s

/-- The scene at its present time, with all moves up to it. -/
def settled (s : Scene) : Scene :=
  { s.catchUp s.machine.clock s.weight with machine.clock := s.machine.clock }

/-- Lets time pass. -/
def sleep (n : Nat) (s : Scene) : Scene :=
  let time := s.machine.clock + n
  { s.catchUp time s.weight with machine.clock := time }

/-! ### Waiting -/

/-- What ends a wait at the present moment. A request to stop comes first, then messages, then the
end of the driver. -/
def wake? (w : Watch) (s : Scene) : Option (Wake × Scene) :=
  if s.cancelled then some (.cancelled, s)
  else
    match if w.channel then s.lobby.receive else none with
    | some (m, lobby) => some (.received m, wakeReporter s.machine.clock { s with lobby := lobby })
    | none =>
      if w.channel && s.lobby.isDeserted then some (.deserted, s)
      else
        match if w.driver then s.driver.bind (·.exit) else none with
        | some exit => some (.exited exit, s)
        | none => if w.deadline ≤ s.machine.clock then some (.timedOut, s) else none

/-- Waits until the watch ends, one move after the other. -/
def waitFor (w : Watch) : Nat → Scene → Wake × Scene
  | 0, s => (.timedOut, s.sleep (w.deadline - s.machine.clock))
  | moves + 1, s =>
    match s.wake? w with
    | some (wake, s) => (wake, s)
    | none =>
      match earliest s.movers with
      | some (due, m) =>
        if due ≤ w.deadline then
          let s := s.move due m
          waitFor w moves { s with machine.clock := max s.machine.clock due }
        else (.timedOut, { s with machine.clock := w.deadline })
      | none => (.timedOut, { s with machine.clock := w.deadline })

/-- Waits until the watch ends. -/
def wait (w : Watch) (s : Scene) : Wake × Scene :=
  waitFor w (s.weight + 1) s.settled

/-! ### A new rehearsal on the same scene -/

/-- Places the reporter of the next trial. -/
def placeReporter (steps : List ReporterStep) (s : Scene) : Scene :=
  { s with
    reporter := some ⟨steps, some (s.machine.clock + 2 * stepTime), none, [], false⟩
    lobby := .new 16
    gateOpen := false }

/-- Lets the reporter come to its end. -/
def finish (s : Scene) : Scene :=
  go (s.weight + 1) s
where
  /-- One move after the other, until the reporter has finished. -/
  go : Nat → Scene → Scene
    | 0, s => s
    | moves + 1, s =>
      match s.reporter, earliest s.movers with
      | some r, some (due, m) =>
        if r.finished then s
        else
          let s := s.move due m
          go moves { s with machine.clock := max s.machine.clock due }
      | _, _ => s

end Scene

end FaultDrill.Rehearsal
