import FaultDrill.Machine.Shell.Parser
import FaultDrill.Machine.Shell.State

/-!
# FaultDrill.Machine.Shell.Lifetime

Running the texts of scripts, what is done on signals and at the end of a process, and commands that
run beside a shell. Such a command runs when the shell waits for it, when enough time has passed, or
after the shell has ended.
-/

namespace FaultDrill.Shell

/-! ### Texts -/

/-- Runs what is left of a script. The flag says whether a command has been run. -/
def runSource (go : Runner) (manner : Manner) : Nat → Bool → State → Source → State
  | 0, _, s, _ => s.expire
  | fuel + 1, begun, s, source =>
    match { source with aliases := s.aliases }.next with
    | .error fault => { s with line := fault.line }.fail fault.message
    | .ok (none, _) => if begun then s else s.done 0
    | .ok (some (c, isOver), source) =>
      let s := { s with
        documents := source.documents ++ s.documents, nextDocument := source.nextDocument }
      let isEmpty := c matches .nothing
      let s := if isEmpty then s
        else go { manner with last := manner.last && isOver } s c
      if s.isActive then runSource go manner fuel (begun || !isEmpty) s source else s

/-- Runs the text of a script. -/
def runText (go : Runner) (manner : Manner) (text : String) (s : State) : State :=
  runSource go manner (text.length + 2) false s
    { chars := text.toList, nextDocument := s.nextDocument }

/-! ### Traps -/

/-- Runs what is to be done on the signals that have come. The status stays what it was. -/
def runTraps (go : Runner) (s : State) : State :=
  if s.pending.isEmpty || !s.isActive then s
  else
    s.pending.foldl (fun s n =>
      if !s.isActive then s
      else
        match s.traps.get? n with
        | some action =>
          let status := s.status
          let s := runText go {} action s
          if s.isActive then { s with status := status } else s
        | none => s) { s with pending := [] }

/-- What is done at the end of a shell. The status stays what it was, unless the end itself gives
another one. -/
def runEndTrap (go : Runner) (s : State) : State :=
  match s.flow, s.traps.get? 0 with
  | some (.ended _), _ | _, none => s
  | _, some action =>
    let status := s.status
    let t := runText go {} action
      { s with flow := none, loops := 0, traps := s.traps.erase 0, endStatus := some status }
    match t.flow with
    | some (.leaving _) | some (.ended _) => t
    | _ => { t with status := status }

/-! ### Jobs -/

/-- How long it takes until a job has begun, in nanoseconds. -/
def startDelay : Nat := 200000

/-- Runs a job from its start to its end. Gives how it ends. -/
def Job.run (go : Runner) (finish : State → State) (world : World) (j : Job) : Ending × State :=
  let deadline := match j.stopped, world.deadline with
    | some (_, time), some deadline => some (min time deadline)
    | some (_, time), none => some time
    | none, deadline => deadline
  let start : State :=
    { j.process with world := { world with deadline := deadline }, now := j.started }
  let start := start.pass startDelay
  let s := finish (if start.isActive then go { last := true } start j.command else start)
  let e := match j.stopped, s.ending with
    | some (n, time), .expired => if s.now = time then .signaled n else .expired
    | _, e => e
  (e, { s with world.deadline := world.deadline })

/-- The shell after those of its jobs have run that have ended by now, or all of them. -/
def settleJobs (go : Runner) (finish : State → State) (all : Bool) (s : State) : State :=
  if s.jobs.all fun j => j.outcome.isSome then s
  else
    s.jobs.foldl (fun s j =>
      match j.outcome with
      | some _ => { s with jobs := s.jobs ++ [j] }
      | none =>
        let (e, t) := j.run go finish s.world
        if all || t.now ≤ s.now then
          { s with world := t.world, jobs := s.jobs ++ [{ j with outcome := some (e, t.now) }] }
        else { s with jobs := s.jobs ++ [j] }) { s with jobs := [] }

/-- A process at its end, after all that was left to be done. The number bounds how many jobs can
stand within one another. -/
def finish (go : Runner) : Nat → State → State
  | 0, s => s.close
  | depth + 1, s =>
    let s := (runEndTrap go s).close
    if s.jobs.isEmpty then s else settleJobs go (finish go depth) true s

/-- How many jobs can stand within one another. -/
def maxJobDepth : Nat := 8

/-- Runs a command in a process of its own to its end. -/
def finishWith (go : Runner) (manner : Manner) (s : State) (c : Command) : State :=
  finish go maxJobDepth (go manner s c)

/-- The shell after the jobs have run that have ended by now. -/
def settle (go : Runner) (s : State) : State :=
  settleJobs go (finish go maxJobDepth) false s

/-- How long it takes until a process has begun for which its shell waits, in nanoseconds. -/
def forkTime : Nat := 300000

/-- The shell after it has started another process, which runs in its place for a while. -/
def fork (go : Runner) (s : State) : State :=
  let s := s.pass forkTime
  if s.isActive && !s.jobs.isEmpty then settle go s else s

/-- Starts a command beside the shell. -/
def startJob (s : State) (c : Command) : State :=
  let child := s.child
  let s := { s with world := child.world, asidePid := some child.pid, status := 0 }
  let child := child.connectNew 0 (.device .null) true false
  -- the number of a job that has been waited for is free again
  let jobs := s.jobs.filter fun j => !(j.waited && j.outcome.isSome)
  let number := ((List.range (jobs.length + 1)).find? fun n =>
    !jobs.any fun j => j.number = n + 1).getD jobs.length + 1
  let j : Job :=
    { number := number, pid := child.pid, process := child.toProcess, command := c
      started := s.now }
  { s with world := child.world, jobs := jobs ++ [j] }

/-- The shell and a job after the job has run, and how it has ended. -/
def completeJob (go : Runner) (s : State) (j : Job) : (Ending × Nat) × State :=
  match j.outcome with
  | some outcome => (outcome, s)
  | none =>
    let (e, t) := j.run go (finish go maxJobDepth) s.world
    let j := { j with outcome := some (e, t.now) }
    ((e, t.now), { s with
      world := t.world, jobs := s.jobs.map fun k => if k.pid = j.pid then j else k })

/-- The shell after it has waited for a job. It tells about a signal that has ended the job, unless
that has been seen before. -/
def waitForJob (go : Runner) (s : State) (j : Job) : State :=
  let j := (s.jobs.find? fun k => k.pid = j.pid).getD j
  let ((e, time), s) := completeJob go s j
  let s := s.waitUntil time
  let s := { s with
    jobs := s.jobs.map fun k => if k.pid = j.pid then { k with waited := true } else k }
  if !s.isActive then s
  else
    match j.outcome, e with
    | some _, .signaled n => s.done (128 + n)
    | _, e => s.seen e

/-- The shell after it has waited for all its jobs. -/
def waitForAll (go : Runner) (s : State) : State :=
  s.jobs.foldl (fun s j =>
    if !s.isActive then s
    else
      let j := (s.jobs.find? fun k => k.pid = j.pid).getD j
      let ((e, time), s) := completeJob go s j
      let s := s.waitUntil time
      let s := if e = .expired && s.isActive then s.expire else s
      { s with jobs := s.jobs.map fun k => { k with waited := k.waited || k.pid = j.pid } }) s

end FaultDrill.Shell
