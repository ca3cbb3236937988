import FaultDrill.Injection.Injector
import FaultDrill.Proofs.Injection.Trace

/-!
# FaultDrill.Proofs.Injection.Simulation

**An injector cannot tell sites apart that answer alike** (`Injector.inject_mimics`). A site may
keep more in its states than another one and still answer each operation as that one does; then an
injection comes to the same on both, and leaves the same. A log is such a thing
(`Site.mimics_logged`), so the log of an injection is that of the injection without a log
(`Injector.inject_logged`).

The proof goes along the definitions, with one lemma for each of them. The operations are equations
between pairs, so a definition is brought to the other site by rewriting, and the two then differ in
nothing but the state that they return.
-/

namespace FaultDrill

variable {σ τ α : Type}

/-- An answer with the state that a view makes of the one beside it. -/
def through (view : τ → σ) (x : α × τ) : α × σ :=
  (x.1, view x.2)

/-- A site behaves as another one does for those who see its states through a view. -/
structure Site.Mimics (site' : Site τ) (site : Site σ) (view : τ → σ) : Prop where
  now : ∀ t, site.now (view t) = site'.now t
  sleep : ∀ n t, site.sleep n (view t) = view (site'.sleep n t)
  signal : ∀ deadline pid g t,
    site.signal deadline pid g (view t) = through view (site'.signal deadline pid g t)
  isAlive : ∀ pid t, site.isAlive pid (view t) = through view (site'.isAlive pid t)
  block : ∀ deadline a b t,
    site.block deadline a b (view t) = through view (site'.block deadline a b t)
  unblock : ∀ deadline a b t,
    site.unblock deadline a b (view t) = through view (site'.unblock deadline a b t)
  sizeBy : ∀ deadline path t,
    site.sizeBy deadline path (view t) = through view (site'.sizeBy deadline path t)
  readBy : ∀ deadline path t,
    site.readBy deadline path (view t) = through view (site'.readBy deadline path t)
  writeBy : ∀ deadline path bytes t,
    site.writeBy deadline path bytes (view t) = through view (site'.writeBy deadline path bytes t)
  read : ∀ path t, site.read path (view t) = through view (site'.read path t)
  write : ∀ path bytes t, site.write path bytes (view t) = through view (site'.write path bytes t)

theorem Site.mimics_logged (site : Site σ) : site.logged.Mimics site Prod.fst where
  now _ := rfl
  sleep _ _ := rfl
  signal _ _ _ _ := rfl
  isAlive _ _ := rfl
  block _ _ _ _ := rfl
  unblock _ _ _ _ := rfl
  sizeBy _ _ _ := rfl
  readBy _ _ _ := rfl
  writeBy _ _ _ _ := rfl
  read _ _ := rfl
  write _ _ _ := rfl

variable {site' : Site τ} {site : Site σ} {view : τ → σ}

/-! ### Retries -/

namespace Retry

variable {act' : Action τ} {act : Action σ}

theorem once_mimics (h : site'.Mimics site view)
    (hact : ∀ deadline t, act deadline (view t) = through view (act' deadline t)) (timeout : Nat)
    (target name : String) (t : τ) : once site timeout target name act (view t) =
      through view (once site' timeout target name act' t) := by
  unfold once
  rw [h.now, hact]
  rcases act' (site'.now t + timeout) t with ⟨answer, t'⟩
  cases answer with
  | none => rfl
  | some answer => rfl

theorem retrying_mimics (h : site'.Mimics site view)
    (hact : ∀ deadline t, act deadline (view t) = through view (act' deadline t))
    (timeout pause : Nat) (target name : String) (made left : Nat) (t : τ) :
    retrying site timeout pause target name act made left (view t) =
      through view (retrying site' timeout pause target name act' made left t) := by
  induction left generalizing made t with
  | zero => exact once_mimics h hact timeout target name t
  | succ left ih =>
      unfold retrying
      rw [once_mimics h hact]
      rcases once site' timeout target name act' t with ⟨result, t'⟩
      cases result with
      | ok u => rfl
      | error e =>
          cases e with
          | processGone pid => rfl
          | _ =>
              dsimp only [through]
              rw [h.sleep]
              exact ih (made + 1) _

theorem run_mimics (h : site'.Mimics site view)
    (hact : ∀ deadline t, act deadline (view t) = through view (act' deadline t))
    (settings : InjectorSettings) (target name : String) (t : τ) :
    run site settings target name act (view t) =
      through view (run site' settings target name act' t) :=
  retrying_mimics h hact _ _ target name 0 _ t

end Retry

namespace Injector

/-- An outcome with the state that a view makes of the one beside it. -/
def seen (view : τ → σ) (x : α × Injector × τ) : α × Injector × σ :=
  (x.1, x.2.1, view x.2.2)

/-! ### Processes -/

theorem resolvePid_mimics (h : site'.Mimics site view) (j : Injector) (target : String) (t : τ) :
    resolvePid site j target (view t) = through view (resolvePid site' j target t) := by
  unfold resolvePid
  cases j.registry.pidSource target with
  | error cause => rfl
  | ok source =>
      cases source with
      | known pid => rfl
      | file path =>
          exact congrArg (fun x : Except FileError Bytes × σ =>
            ((Registry.pidOfFile target path x.1).mapError InjectionError.targetNotFound, x.2))
            (h.read path t)

theorem signal_mimics (h : site'.Mimics site view) (j : Injector) (target name : String)
    (pid : UInt32) (g : Signal) (t : τ) : signal site j target name pid g (view t) =
      through view (signal site' j target name pid g t) :=
  Retry.run_mimics h (fun deadline => h.signal deadline pid g) j.settings target name t

theorem awaitDeath_mimics (h : site'.Mimics site view) (poll deadline : Nat) (pid : UInt32)
    (t : τ) : awaitDeath site poll deadline pid (view t) =
      through view (awaitDeath site' poll deadline pid t) := by
  induction t using awaitDeath.induct site' poll deadline pid with
  | case1 t seen halive hlate =>
      unfold awaitDeath
      rw [h.isAlive, if_pos halive, dif_pos hlate]
      dsimp only [through]
      rw [h.now, if_pos halive, dif_pos hlate]
  | case2 t seen halive hearly ih =>
      unfold awaitDeath
      rw [h.isAlive, if_pos halive, dif_neg hearly]
      dsimp only [through]
      rw [h.now, if_pos halive, dif_neg hearly, h.sleep]
      exact ih
  | case3 t seen hdead =>
      unfold awaitDeath
      rw [h.isAlive, if_neg hdead]
      dsimp only [through]
      rw [if_neg hdead]

theorem killOutcome_mimics {death' : τ → Bool × τ} {death : σ → Bool × σ}
    (hdeath : ∀ t, death (view t) = through view (death' t)) (survivor : InjectionError)
    (sent : Except InjectionError Unit × τ) : killOutcome survivor death (through view sent) =
      through view (killOutcome survivor death' sent) := by
  rcases sent with ⟨result, t⟩
  cases result with
  | ok u =>
      dsimp only [through, killOutcome]
      rw [hdeath]
      rcases death' t with ⟨died, t'⟩
      cases died with
      | false => rfl
      | true => rfl
  | error e => cases e <;> rfl

theorem kill_mimics (h : site'.Mimics site view) (j : Injector) (target : String) (t : τ) :
    kill site j target (view t) = seen view (kill site' j target t) := by
  have hdeath : ∀ pid t, watchDeath site j pid (view t) =
      through view (watchDeath site' j pid t) := by
    intro pid t
    unfold watchDeath
    rw [h.now]
    exact awaitDeath_mimics h _ _ pid t
  unfold kill
  rw [resolvePid_mimics h]
  rcases resolvePid site' j target t with ⟨found, t₀⟩
  cases found with
  | error e => rfl
  | ok pid =>
      have hkilled : killProcess site j target pid (view t₀) =
          through view (killProcess site' j target pid t₀) := by
        unfold killProcess
        rw [signal_mimics h]
        exact killOutcome_mimics (hdeath pid) _ _
      dsimp only [through]
      rw [hkilled]
      rcases killProcess site' j target pid t₀ with ⟨result, t₁⟩
      cases result with
      | error e => rfl
      | ok u => rfl

theorem pause_mimics (h : site'.Mimics site view) (j : Injector) (target : String) (t : τ) :
    pause site j target (view t) = seen view (pause site' j target t) := by
  unfold pause
  split
  · rfl
  · rw [resolvePid_mimics h]
    rcases resolvePid site' j target t with ⟨found, t₀⟩
    cases found with
    | error e => rfl
    | ok pid =>
        dsimp only [through]
        rw [signal_mimics h]
        rcases signal site' j target "pause" pid .stop t₀ with ⟨result, t₁⟩
        cases result with
        | error e => rfl
        | ok u => rfl

theorem resume_mimics (h : site'.Mimics site view) (j : Injector) (target : String) (t : τ) :
    resume site j target (view t) = seen view (resume site' j target t) := by
  unfold resume
  cases j.ledger.paused.get? target with
  | none => rfl
  | some pid =>
      dsimp only
      rw [signal_mimics h]
      rcases signal site' j target "resume" pid .resume t with ⟨result, t₁⟩
      cases result with
      | error e => rfl
      | ok u => rfl

/-! ### Connections -/

theorem cutOff_mimics (h : site'.Mimics site view) (j : Injector) (target : String)
    (here : Endpoint) (any : Bool) (peers : List String) (t : τ) :
    cutOff site j target here any peers (view t) =
      seen view (cutOff site' j target here any peers t) := by
  induction peers generalizing j any t with
  | nil => rfl
  | cons peer rest ih =>
      unfold cutOff
      split
      · exact ih j any t
      · cases j.registry.endpoint peer with
        | error e => rfl
        | ok there =>
            dsimp only
            rw [Retry.run_mimics h fun deadline => h.block deadline here there]
            rcases Retry.run site' j.settings target "partition"
              (fun deadline t => site'.block deadline here there t) t with ⟨result, t₁⟩
            cases result with
            | error e => rfl
            | ok u => exact ih _ true t₁

theorem partition_mimics (h : site'.Mimics site view) (j : Injector) (target : String)
    (peers : NameSet) (t : τ) :
    partition site j target peers (view t) = seen view (partition site' j target peers t) := by
  unfold partition
  cases j.registry.endpoint target with
  | error e => rfl
  | ok here =>
      dsimp only
      rw [cutOff_mimics h]
      rcases cutOff site' j target here false peers.toList t with ⟨result, j', t'⟩
      cases result with
      | error e => rfl
      | ok any => rfl

/-! ### Files -/

theorem snapshot_mimics (h : site'.Mimics site view) (deadline : Nat) (path : String) (t : τ) :
    snapshot site deadline path (view t) = through view (snapshot site' deadline path t) := by
  unfold snapshot
  rw [h.sizeBy]
  rcases site'.sizeBy deadline path t with ⟨answer, t₁⟩
  rcases answer with - | (cause | size)
  · rfl
  · rfl
  · dsimp only [through]
    split
    · rfl
    · rw [h.readBy]
      rcases site'.readBy deadline path t₁ with ⟨answer, t₂⟩
      rcases answer with - | (cause | bytes)
      · rfl
      · rfl
      · rfl

theorem damage_mimics (h : site'.Mimics site view) (j : Injector) (target : String)
    (c : Corruption) (t : τ) :
    damage site j target c (view t) = seen view (damage site' j target c t) := by
  unfold damage
  split
  · dsimp only
    rw [h.now, snapshot_mimics h]
    rcases snapshot site' (site'.now t + j.settings.actionTimeout.nanos)
      (j.registry.resolvePath target c.path) t with ⟨taken, t₁⟩
    cases taken with
    | error fault => rfl
    | ok current =>
        dsimp only [through]
        cases c.apply current with
        | error beyond => rfl
        | ok damaged =>
            dsimp only
            rw [h.now, h.writeBy]
            rcases site'.writeBy (site'.now t₁ + j.settings.actionTimeout.nanos)
              (j.registry.resolvePath target c.path) damaged t₁ with ⟨answer, t₂⟩
            rcases answer with - | (cause | u)
            · rfl
            · rfl
            · rfl
  · rfl

/-! ### Events -/

/-- **An injector cannot tell sites apart that answer alike.** -/
theorem inject_mimics (h : site'.Mimics site view) (j : Injector) (e : Event) (t : τ) :
    inject site j e (view t) = seen view (inject site' j e t) := by
  unfold inject
  cases e.fault with
  | kill => exact kill_mimics h j e.target t
  | pause => exact pause_mimics h j e.target t
  | resume => exact resume_mimics h j e.target t
  | delay duration =>
      dsimp only
      split
      · rfl
      · rfl
  | partition peers => exact partition_mimics h j e.target peers t
  | corrupt c => exact damage_mimics h j e.target c t

/-! ### What is asked for -/

/-- What is asked of a site for an event. -/
def asked (site : Site σ) (j : Injector) (e : Event) (s : σ) : List Note :=
  (inject site.logged j e (s, [])).2.2.2

/-- What is asked for is the log of the same injection. -/
theorem inject_logged (site : Site σ) (j : Injector) (e : Event) (s : σ) :
    inject site.logged j e (s, []) =
      ((inject site j e s).1, (inject site j e s).2.1, (inject site j e s).2.2,
        asked site j e s) := by
  rw [show inject site j e s = _ from inject_mimics site.mimics_logged j e (s, [])]
  rfl

/-- The notes of a logged injection are what is asked for. -/
theorem asked_eq {site : Site σ} {j : Injector} {e : Event} {s : σ} {notes : List Note}
    (h : site.logged.Trace (s, []) notes (inject site.logged j e (s, [])).2.2) :
    asked site j e s = notes :=
  h.log_eq

end Injector

end FaultDrill
