import FaultDrill.Injection.Ledger
import FaultDrill.Injection.Retry
import FaultDrill.Plan.Fault

/-!
# FaultDrill.Injection.Injector

Carrying out events and taking them back. Whatever can be taken back is entered in the ledger, a
damaged file even before the damage is done, so that a write that fails midway can still be undone.
Healing goes through the whole ledger, whatever fails on the way, and keeps just the entries that
could not be undone.
-/

namespace FaultDrill

/-- The injector: its settings, the known targets, and the ledger. -/
structure Injector where
  settings : InjectorSettings
  registry : Registry
  ledger : Ledger := {}

/-- What an injection has done. -/
structure InjectionRecord where
  /-- How long the release of the checkpoint has to wait. -/
  releaseDelay : Option Duration := none
  /-- Whether the fault was in effect already, so that nothing had to be done. -/
  noop : Bool := false
  deriving DecidableEq, Repr

namespace Injector

variable {σ : Type}

/-- The injector of settings, with the targets of the configuration. -/
def new (settings : InjectorSettings) : Injector where
  settings := settings
  registry := .ofSpecs settings.targets

/-- Registers the process of a target. -/
def registerTarget (j : Injector) (name : String) (pid : UInt32) : Injector :=
  { j with registry := j.registry.register name pid }

/-- Forgets the registered processes; the ledger stays. -/
def resetRuntimeTargets (j : Injector) : Injector :=
  { j with registry := j.registry.clearRuntime }

/-! ### Processes -/

/-- The process of a target. -/
def resolvePid (site : Site σ) (j : Injector) (target : String) (s : σ) :
    Except InjectionError UInt32 × σ :=
  match j.registry.pidSource target with
  | .error cause => (.error (.targetNotFound cause), s)
  | .ok (.known pid) => (.ok pid, s)
  | .ok (.file path) =>
    let (content, s) := site.read path s
    ((Registry.pidOfFile target path content).mapError .targetNotFound, s)

/-- Sends a signal to a process, with retries. -/
def signal (site : Site σ) (j : Injector) (target name : String) (pid : UInt32) (g : Signal)
    (s : σ) : Except InjectionError Unit × σ :=
  Retry.run site j.settings target name (fun deadline s => site.signal deadline pid g s) s

/-- Looks at a process until it is dead or the deadline has passed. The answer says whether it
died. -/
def awaitDeath (site : Site σ) (poll deadline : Nat) (pid : UInt32) (s : σ) : Bool × σ :=
  let seen := site.isAlive pid s
  if seen.1 then
    if _h : deadline ≤ site.now seen.2 then (false, seen.2)
    else awaitDeath site poll deadline pid (site.sleep (max 1 poll) seen.2)
  else (true, seen.2)
termination_by deadline - site.now s
decreasing_by
  have h₁ := site.now_le_now_isAlive pid s
  have h₂ := site.add_le_now_sleep (max 1 poll) (site.isAlive pid s).2
  simp only [seen] at _h
  omega

/-- The error of a process that survives its signal. -/
def survivor (j : Injector) (target : String) (pid : UInt32) : InjectionError :=
  .unresponsive target
    s!"pid {pid.toNat} still alive {j.settings.killGraceMs.toNat}ms after SIGKILL"

/-- Looks at a process that has been killed, until it is dead or its grace has passed. -/
def watchDeath (site : Site σ) (j : Injector) (pid : UInt32) (s : σ) : Bool × σ :=
  awaitDeath site j.settings.killPollInterval.nanos (site.now s + j.settings.killGrace.nanos) pid s

/-- What comes of a kill: `sent` is what came of its signal, and `death` waits for the process to
die. -/
def killOutcome (survivor : InjectionError) (death : σ → Bool × σ)
    (sent : Except InjectionError Unit × σ) : Except InjectionError Unit × σ :=
  match sent with
  | (.ok (), s) =>
    match death s with
    | (true, s) => (.ok (), s)
    | (false, s) => (.error survivor, s)
  -- a process that is gone before the signal has met its end
  | (.error (.processGone _), s) => (.ok (), s)
  | (.error e, s) => (.error e, s)

/-- Kills a process and waits for its death. -/
def killProcess (site : Site σ) (j : Injector) (target : String) (pid : UInt32) (s : σ) :
    Except InjectionError Unit × σ :=
  killOutcome (survivor j target pid) (watchDeath site j pid)
    (signal site j target "kill" pid .kill s)

/-- Kills a target. -/
def kill (site : Site σ) (j : Injector) (target : String) (s : σ) :
    Except InjectionError InjectionRecord × Injector × σ :=
  match resolvePid site j target s with
  | (.error e, s) => (.error e, j, s)
  | (.ok pid, s) =>
    match killProcess site j target pid s with
    | (.error e, s) => (.error e, j, s)
    | (.ok (), s) =>
      (.ok {}, { j with ledger.paused := j.ledger.paused.erase target }, s)

/-- Pauses a target. -/
def pause (site : Site σ) (j : Injector) (target : String) (s : σ) :
    Except InjectionError InjectionRecord × Injector × σ :=
  if j.ledger.paused.contains target then (.ok { noop := true }, j, s)
  else
    match resolvePid site j target s with
    | (.error e, s) => (.error e, j, s)
    | (.ok pid, s) =>
      match signal site j target "pause" pid .stop s with
      | (.error e, s) => (.error e, j, s)
      | (.ok (), s) =>
        (.ok {}, { j with ledger.paused := j.ledger.paused.insert target pid }, s)

/-- Resumes a target, with the process that was paused. -/
def resume (site : Site σ) (j : Injector) (target : String) (s : σ) :
    Except InjectionError InjectionRecord × Injector × σ :=
  match j.ledger.paused.get? target with
  | none => (.ok { noop := true }, j, s)
  | some pid =>
    match signal site j target "resume" pid .resume s with
    | (.error e, s) => (.error e, j, s)
    | (.ok (), s) =>
      (.ok {}, { j with ledger.paused := j.ledger.paused.erase target }, s)

/-! ### Connections -/

/-- Cuts a target off from peers, one after the other. The answer says whether any was cut off. -/
def cutOff (site : Site σ) (j : Injector) (target : String) (here : Endpoint) (any : Bool) :
    List String → σ → Except InjectionError Bool × Injector × σ
  | [], s => (.ok any, j, s)
  | peer :: rest, s =>
    -- a pair that is cut already stays as it is
    if j.ledger.partitions.contains (target, peer) then cutOff site j target here any rest s
    else
      match j.registry.endpoint peer with
      | .error e => (.error e, j, s)
      | .ok there =>
        match Retry.run site j.settings target "partition"
            (fun deadline s => site.block deadline here there s) s with
        | (.error e, s) => (.error e, j, s)
        | (.ok (), s) =>
          let j := { j with
            ledger.partitions := j.ledger.partitions.insert (target, peer) (here, there) }
          cutOff site j target here true rest s

/-- Cuts a target off from its peers. -/
def partition (site : Site σ) (j : Injector) (target : String) (peers : NameSet) (s : σ) :
    Except InjectionError InjectionRecord × Injector × σ :=
  match j.registry.endpoint target with
  | .error e => (.error e, j, s)
  | .ok here =>
    match cutOff site j target here false peers.toList s with
    | (.error e, j, s) => (.error e, j, s)
    | (.ok any, j, s) => (.ok { noop := !any }, j, s)

/-! ### Files -/

/-- The content of a file that is small enough to be damaged, had before a deadline. -/
def snapshot (site : Site σ) (deadline : Nat) (path : String) (s : σ) :
    Except DamageFault Bytes × σ :=
  match site.sizeBy deadline path s with
  | (none, s) => (.error .timedOut, s)
  | (some (.error e), s) => (.error (.stat e), s)
  | (some (.ok size), s) =>
    if maxDamagedSize < size then (.error (.tooLarge size), s)
    else
      match site.readBy deadline path s with
      | (none, s) => (.error .timedOut, s)
      | (some (.error e), s) => (.error (.read e), s)
      | (some (.ok bytes), s) => (.ok bytes, s)

/-- Damages a file, whose content is saved first. A damage is not tried twice, since doing it again
would not give the same file. -/
def damage (site : Site σ) (j : Injector) (target : String) (c : Corruption) (s : σ) :
    Except InjectionError InjectionRecord × Injector × σ :=
  if j.registry.contains target then
    let path := j.registry.resolvePath target c.path
    let timeout := j.settings.actionTimeout.nanos
    match snapshot site (site.now s + timeout) path s with
    | (.error fault, s) => (.error (.damage path fault), j, s)
    | (.ok current, s) =>
      match c.apply current with
      | .error beyond => (.error (.damage path (.beyondEnd beyond)), j, s)
      | .ok damaged =>
        -- the file is saved first: a write that fails midway has damaged it all the same
        let j := { j with ledger := j.ledger.saveFile target path current }
        match site.writeBy (site.now s + timeout) path damaged s with
        | (some (.ok ()), s) => (.ok {}, j, s)
        | (some (.error e), s) => (.error (.damage path (.write e)), j, s)
        | (none, s) => (.error (.damage path .timedOut), j, s)
  else (.error (.targetNotFound (.unknown target)), j, s)

/-! ### Events -/

/-- Carries out an event. -/
def inject (site : Site σ) (j : Injector) (e : Event) (s : σ) :
    Except InjectionError InjectionRecord × Injector × σ :=
  match e.fault with
  | .kill => kill site j e.target s
  | .pause => pause site j e.target s
  | .resume => resume site j e.target s
  | .delay duration =>
    if j.registry.contains e.target then (.ok { releaseDelay := some duration }, j, s)
    else (.error (.targetNotFound (.unknown e.target)), j, s)
  | .partition peers => partition site j e.target peers s
  | .corrupt c => damage site j e.target c s

/-! ### Healing -/

/-- Tries to undo entries one after the other. Gives those that could not be undone, each with its
message. -/
def undoAll {α : Type} (undo : α → σ → Option String × σ) :
    List α → σ → List (α × String) × σ
  | [], s => ([], s)
  | entry :: rest, s =>
    let (failure, s) := undo entry s
    let (failed, s) := undoAll undo rest s
    match failure with
    | some message => ((entry, message) :: failed, s)
    | none => (failed, s)

/-- Resumes a paused process. One that is gone needs nothing. -/
def undoPause (site : Site σ) (j : Injector) (entry : String × UInt32) (s : σ) :
    Option String × σ :=
  match signal site j entry.1 "resume" entry.2 .resume s with
  | (.ok (), s) | (.error (.processGone _), s) => (none, s)
  | (.error e, s) => (some s!"resume {entry.1}: {e.message}", s)

/-- Restores a connection. -/
def undoPartition (site : Site σ) (j : Injector)
    (entry : (String × String) × Endpoint × Endpoint) (s : σ) : Option String × σ :=
  match Retry.run site j.settings entry.1.1 "heal_partition"
      (fun deadline s => site.unblock deadline entry.2.1 entry.2.2 s) s with
  | (.ok (), s) => (none, s)
  | (.error e, s) =>
    (some s!"heal partition {entry.1.1} <-> {entry.1.2}: {e.message}", s)

/-- Restores the content of a file. -/
def undoDamage (site : Site σ) (entry : List (Nat × String) × Backup) (s : σ) :
    Option String × σ :=
  let b := entry.2
  match site.write b.path b.content s with
  | (.ok (), s) => (none, s)
  | (.error e, s) =>
    (some s!"restore {b.path}: {(InjectionError.damage b.path (.restore e)).message}", s)

/-- Takes back all faults of the ledger. Gives a message for each one that could not be taken back,
which stays in the ledger. -/
def healAll (site : Site σ) (j : Injector) (s : σ) : List String × Injector × σ :=
  let (paused, s) := undoAll (undoPause site j) j.ledger.paused.toList s
  let (partitions, s) := undoAll (undoPartition site j) j.ledger.partitions.toList s
  let (corrupted, s) := undoAll (undoDamage site) j.ledger.corrupted.toList s
  let ledger : Ledger := {
    paused := .ofList (paused.map (·.1))
    partitions := .ofList (partitions.map (·.1))
    corrupted := .ofList (corrupted.map (·.1)) }
  (paused.map (·.2) ++ partitions.map (·.2) ++ corrupted.map (·.2), { j with ledger := ledger }, s)

/-! ### What remains -/

/-- The paused targets whose processes still live. -/
def lingeringPauses (site : Site σ) : List (String × UInt32) → σ → List String × σ
  | [], s => ([], s)
  | (target, pid) :: rest, s =>
    let (alive, s) := site.isAlive pid s
    let (others, s) := lingeringPauses site rest s
    (if alive then Ledger.pausedText target pid :: others else others, s)

/-- The damaged files whose content is not the saved one. -/
def lingeringDamage (site : Site σ) : List Backup → σ → List String × σ
  | [], s => ([], s)
  | b :: rest, s =>
    let (content, s) := site.read b.path s
    let (others, s) := lingeringDamage site rest s
    match content with
    | .ok bytes =>
      (if bytes = b.content then others else Ledger.corruptedText b :: others, s)
    | .error _ => (Ledger.corruptedText b :: others, s)

/-- The faults of the ledger that are still in effect. The state of a connection cannot be looked
at, so a cut connection in the ledger counts as cut. -/
def lingeringFaults (site : Site σ) (j : Injector) (s : σ) : List String × σ :=
  let (paused, s) := lingeringPauses site j.ledger.paused.toList s
  let (corrupted, s) := lingeringDamage site (j.ledger.corrupted.toList.map (·.2)) s
  let cut := j.ledger.partitions.keys.map fun (target, peer) => Ledger.partitionText target peer
  (paused ++ cut ++ corrupted, s)

end Injector

end FaultDrill
