import FaultDrill.Injection.Injector

/-!
# FaultDrill.Proofs.Injection.Calls

What can be asked of an injector from outside, as data, and how each of its operations can go. An
injector is only ever changed by these calls, one after the other, so what each call keeps holds
after any number of them (`performAll_invariant`).

For each operation there is one relation with a case for each way that it can go, from what it has
been asked with to what comes of it, and one lemma which says that there are no other ways
(`kill_cases` and so on). Whatever holds of an operation is read off these cases, and only here is
the operation itself taken apart.
-/

namespace FaultDrill.Injector

variable {σ : Type}

/-! ### Calls -/

/-- A call to an injector. -/
inductive Call where
  | register (name : String) (pid : UInt32)
  | inject (e : Event)
  | heal
  | reset
  deriving DecidableEq

/-- Carries out a call. What it answers is left out. -/
def perform (site : Site σ) (j : Injector) (s : σ) : Call → Injector × σ
  | .register name pid => (j.registerTarget name pid, s)
  | .inject e => (j.inject site e s).2
  | .heal => (j.healAll site s).2
  | .reset => (j.resetRuntimeTargets, s)

/-- Carries out calls one after the other. -/
def performAll (site : Site σ) (j : Injector) (s : σ) (calls : List Call) : Injector × σ :=
  calls.foldl (fun state call => perform site state.1 state.2 call) (j, s)

/-- What every call keeps holds after all of them. -/
theorem performAll_invariant {site : Site σ} {P : Injector → σ → Prop}
    (hcall : ∀ j s call, P j s → P (perform site j s call).1 (perform site j s call).2)
    {j : Injector} {s : σ} (h : P j s) (calls : List Call) :
    P (performAll site j s calls).1 (performAll site j s calls).2 := by
  induction calls generalizing j s with
  | nil => exact h
  | cons call rest ih => exact ih (hcall j s call h)

/-! ### How an operation can go -/

/-- What an operation yields: its answer, the injector and the site after it. -/
abbrev Yield (σ : Type) :=
  Except InjectionError InjectionRecord × Injector × σ

/-- How killing a target can go. -/
inductive Kills (site : Site σ) (j : Injector) (target : String) (s : σ) : Yield σ → Prop
  | unresolved {cause : InjectionError} {s₁ : σ}
      (hresolve : resolvePid site j target s = (.error cause, s₁)) :
      Kills site j target s (.error cause, j, s₁)
  | failed {cause : InjectionError} {s₁ s₂ : σ} (pid : UInt32)
      (hresolve : resolvePid site j target s = (.ok pid, s₁))
      (hkill : killProcess site j target pid s₁ = (.error cause, s₂)) :
      Kills site j target s (.error cause, j, s₂)
  | killed {s₁ s₂ : σ} (pid : UInt32)
      (hresolve : resolvePid site j target s = (.ok pid, s₁))
      (hkill : killProcess site j target pid s₁ = (.ok (), s₂)) :
      Kills site j target s
        (.ok {}, { j with ledger.paused := j.ledger.paused.erase target }, s₂)

/-- How pausing a target can go. -/
inductive Pauses (site : Site σ) (j : Injector) (target : String) (s : σ) : Yield σ → Prop
  | held (hheld : j.ledger.paused.contains target = true) :
      Pauses site j target s (.ok { noop := true }, j, s)
  | unresolved {cause : InjectionError} {s₁ : σ}
      (hnew : j.ledger.paused.contains target = false)
      (hresolve : resolvePid site j target s = (.error cause, s₁)) :
      Pauses site j target s (.error cause, j, s₁)
  | failed {cause : InjectionError} {s₁ s₂ : σ} (pid : UInt32)
      (hnew : j.ledger.paused.contains target = false)
      (hresolve : resolvePid site j target s = (.ok pid, s₁))
      (hsignal : signal site j target "pause" pid .stop s₁ = (.error cause, s₂)) :
      Pauses site j target s (.error cause, j, s₂)
  | paused {s₁ s₂ : σ} (pid : UInt32) (hnew : j.ledger.paused.contains target = false)
      (hresolve : resolvePid site j target s = (.ok pid, s₁))
      (hsignal : signal site j target "pause" pid .stop s₁ = (.ok (), s₂)) :
      Pauses site j target s
        (.ok {}, { j with ledger.paused := j.ledger.paused.insert target pid }, s₂)

/-- How resuming a target can go. -/
inductive Resumes (site : Site σ) (j : Injector) (target : String) (s : σ) : Yield σ → Prop
  | running (hnone : j.ledger.paused.get? target = none) :
      Resumes site j target s (.ok { noop := true }, j, s)
  | failed {cause : InjectionError} {s₁ : σ} (pid : UInt32)
      (hpid : j.ledger.paused.get? target = some pid)
      (hsignal : signal site j target "resume" pid .resume s = (.error cause, s₁)) :
      Resumes site j target s (.error cause, j, s₁)
  | resumed {s₁ : σ} (pid : UInt32) (hpid : j.ledger.paused.get? target = some pid)
      (hsignal : signal site j target "resume" pid .resume s = (.ok (), s₁)) :
      Resumes site j target s
        (.ok {}, { j with ledger.paused := j.ledger.paused.erase target }, s₁)

/-- How cutting a target off from peers can go. -/
inductive Partitions (site : Site σ) (j : Injector) (target : String) (peers : NameSet) (s : σ) :
    Yield σ → Prop
  | homeless {cause : InjectionError} (hhere : j.registry.endpoint target = .error cause) :
      Partitions site j target peers s (.error cause, j, s)
  | stopped {cause : InjectionError} {after : Injector} {s₁ : σ} (here : Endpoint)
      (hhere : j.registry.endpoint target = .ok here)
      (hcut : cutOff site j target here false peers.toList s = (.error cause, after, s₁)) :
      Partitions site j target peers s (.error cause, after, s₁)
  | cut {any : Bool} {after : Injector} {s₁ : σ} (here : Endpoint)
      (hhere : j.registry.endpoint target = .ok here)
      (hcut : cutOff site j target here false peers.toList s = (.ok any, after, s₁)) :
      Partitions site j target peers s (.ok { noop := !any }, after, s₁)

/-- What comes of a damage when its write has been answered. -/
def writeAnswer (path : String) :
    Option (Except FileError Unit) → Except InjectionError InjectionRecord
  | some (.ok ()) => .ok {}
  | some (.error e) => .error (.damage path (.write e))
  | none => .error (.damage path .timedOut)

theorem writeAnswer_eq_ok {path : String} {answer : Option (Except FileError Unit)}
    {record : InjectionRecord} (h : writeAnswer path answer = .ok record) :
    answer = some (.ok ()) ∧ record = {} := by
  unfold writeAnswer at h
  split at h
  next => exact ⟨rfl, (Except.ok.inj h).symm⟩
  next => cases h
  next => cases h

/-- How damaging a file can go. It is in the ledger before it is written, whatever the write
answers. -/
inductive Damages (site : Site σ) (j : Injector) (target : String) (c : Corruption) (s : σ) :
    Yield σ → Prop
  | unknown (htarget : j.registry.contains target = false) :
      Damages site j target c s (.error (.targetNotFound (.unknown target)), j, s)
  | unread {fault : DamageFault} {s₁ : σ} (htarget : j.registry.contains target = true)
      (hread : snapshot site (site.now s + j.settings.actionTimeout.nanos)
        (j.registry.resolvePath target c.path) s = (.error fault, s₁)) :
      Damages site j target c s
        (.error (.damage (j.registry.resolvePath target c.path) fault), j, s₁)
  | beyondEnd {current : Bytes} {beyond : Corruption.BeyondEnd} {s₁ : σ}
      (htarget : j.registry.contains target = true)
      (hread : snapshot site (site.now s + j.settings.actionTimeout.nanos)
        (j.registry.resolvePath target c.path) s = (.ok current, s₁))
      (happly : c.apply current = .error beyond) :
      Damages site j target c s
        (.error (.damage (j.registry.resolvePath target c.path) (.beyondEnd beyond)), j, s₁)
  | written {current damaged : Bytes} {s₁ : σ} {wrote : Option (Except FileError Unit) × σ}
      (htarget : j.registry.contains target = true)
      (hread : snapshot site (site.now s + j.settings.actionTimeout.nanos)
        (j.registry.resolvePath target c.path) s = (.ok current, s₁))
      (happly : c.apply current = .ok damaged)
      (hwrite : site.writeBy (site.now s₁ + j.settings.actionTimeout.nanos)
        (j.registry.resolvePath target c.path) damaged s₁ = wrote) :
      Damages site j target c s
        (writeAnswer (j.registry.resolvePath target c.path) wrote.1,
          { j with
            ledger := j.ledger.saveFile target (j.registry.resolvePath target c.path) current },
          wrote.2)

section Cases

variable {site : Site σ} {j : Injector} {target : String} {s : σ} {yielded : Yield σ}

theorem kill_cases (h : kill site j target s = yielded) : Kills site j target s yielded := by
  subst h
  unfold kill
  split
  next hresolve => exact .unresolved hresolve
  next hresolve =>
    split
    next hkill => exact .failed _ hresolve hkill
    next hkill => exact .killed _ hresolve hkill

theorem pause_cases (h : pause site j target s = yielded) : Pauses site j target s yielded := by
  subst h
  unfold pause
  split
  next hheld => exact .held hheld
  next hnew =>
    rw [Bool.not_eq_true] at hnew
    split
    next hresolve => exact .unresolved hnew hresolve
    next hresolve =>
      split
      next hsignal => exact .failed _ hnew hresolve hsignal
      next hsignal => exact .paused _ hnew hresolve hsignal

theorem resume_cases (h : resume site j target s = yielded) : Resumes site j target s yielded := by
  subst h
  unfold resume
  split
  next hnone => exact .running hnone
  next hpid =>
    split
    next hsignal => exact .failed _ hpid hsignal
    next hsignal => exact .resumed _ hpid hsignal

theorem partition_cases {peers : NameSet} (h : partition site j target peers s = yielded) :
    Partitions site j target peers s yielded := by
  subst h
  unfold partition
  split
  next hhere => exact .homeless hhere
  next hhere =>
    split
    next hcut => exact .stopped _ hhere hcut
    next hcut => exact .cut _ hhere hcut

theorem damage_cases {c : Corruption} (h : damage site j target c s = yielded) :
    Damages site j target c s yielded := by
  subst h
  unfold damage
  split
  next htarget =>
    dsimp only
    split
    next hread => exact .unread htarget hread
    next hread =>
      split
      next happly => exact .beyondEnd htarget hread happly
      next happly =>
        split
        next hwrite => exact .written htarget hread happly hwrite
        next hwrite => exact .written htarget hread happly hwrite
        next hwrite => exact .written htarget hread happly hwrite
  next htarget =>
    rw [Bool.not_eq_true] at htarget
    exact .unknown htarget

/-- A delay changes nothing here. It is for the caller to wait. -/
theorem inject_delay {e : Event} {duration : Duration} (h : e.fault = .delay duration) :
    (inject site j e s).2 = (j, s) := by
  unfold inject
  rw [h]
  dsimp only
  split
  next => rfl
  next => rfl

end Cases

end FaultDrill.Injector
