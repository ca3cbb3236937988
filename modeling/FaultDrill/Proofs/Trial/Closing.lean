import FaultDrill.Proofs.Trial.Isolation
import FaultDrill.Proofs.Trial.Playback

/-!
# FaultDrill.Proofs.Trial.Closing

When the channel of a trial is closed. Once all that comes before the driver is done, every way to a
result goes through a shutdown of the channel: the driver cannot be started, the trial fails in a
round, or it comes to its check. The shutdown waits until the listener is closed, and nothing opens
it again, so the next trial finds its address free (`Runner.closed_if_prepared`).

But the channel is opened before all this. A trial that fails before its driver could be started,
because its plan cannot be loaded, the signals cannot be published, the invariant cannot be checked,
or a stop was asked for, does not shut the channel down. It gives it up, and the listener may still
be there when the next trial begins (`unprepared_still_listening`).
-/

namespace FaultDrill

variable {σ : Type} {b : Bench σ}

/-- What is assumed of the listener of a channel. -/
structure ListenerView (b : Bench σ) where
  /-- Whether a listener is open. -/
  listening : σ → Bool
  /-- A shutdown waits until the listener is closed. -/
  shutDown : ∀ s, listening (b.shutDown s) = false
  /-- Only opening a channel opens a listener. -/
  keeps : b.Keeps fun s => listening s = false
  /-- At an address at which a channel could be opened, one can be opened again whenever no listener
  is open. -/
  opens : ∀ address s given s' t, b.openChannel address s = (.ok given, s') →
    listening t = false → ∃ given', (b.openChannel address t).1 = .ok given'

/-- Whether the channel is shut down. -/
def Deed.isShutDown : Deed → Bool
  | .shutDown _ => true
  | _ => false

namespace Run

variable {r r' : Run σ}

/-- The channel has been shut down, and has not been used since. -/
structure Shut (b : Bench σ) (r : Run σ) : Prop where
  world : ∃ r₀ : Run σ, b.Leads (r₀.shutDown b).world r.world
  deeds : r.journal.deeds.any Deed.isShutDown = true

theorem Shut.of_leads (h : Shut b r) (hworld : b.Leads r.world r'.world)
    (hdeeds : r.journal.deeds <+: r'.journal.deeds) : Shut b r' := by
  obtain ⟨r₀, hleads⟩ := h.world
  refine ⟨⟨r₀, hleads.trans hworld⟩, ?_⟩
  obtain ⟨ds, hds⟩ := hdeeds
  rw [← hds, List.any_append, h.deeds, Bool.true_or]

theorem Shut.aside (h : Shut b r) (haside : Aside b r r') : Shut b r' := by
  obtain ⟨ds, hds, -⟩ := haside.deeds
  exact h.of_leads haside.world ⟨ds, hds.symm⟩

theorem shut_shutDown (r : Run σ) : Shut b (r.shutDown b) := by
  refine ⟨⟨r, .refl _⟩, ?_⟩
  unfold Run.shutDown
  rw [deeds_note, List.any_append]
  simp [Deed.isShutDown]

theorem shut_breakOff (r : Run σ) : Shut b (r.breakOff b) :=
  (shut_shutDown _).aside (aside_collect _ _)

/-! ### Every way to a result -/

/-- If there is a result, the channel has been shut down. -/
def Shuts (b : Bench σ) (attempted : Except Halt Outcome × Run σ) : Prop :=
  attempted.1 ≠ .error .clockOverflow → Shut b attempted.2

theorem conclude_shuts (s : Settings) (check : Check) (exit : DriverExit) (r : Run σ) :
    Shuts b (conclude b s check exit r) := by
  unfold conclude
  split
  next => exact fun hresult => absurd rfl hresult
  next until_ _ =>
    intro _
    have hshut := shut_shutDown (b := b) (r.settle b until_ (s.trial.settle.nanos + 1))
    have hchecking := (hshut.aside (aside_collect (some exit) _)).aside (aside_enter .checking _)
    obtain ⟨healed, o, hdeeds, -, -⟩ := deeds_checked (b := b) s.trial.healBeforeCheck check
      (Run.enter b .checking (Run.collect b (some exit) _))
    exact hchecking.of_leads (leads_checked s.trial.healBeforeCheck check _) ⟨_, hdeeds.symm⟩

theorem drive_shuts (s : Settings) (driver : Script) (plan : Plan) (reference : Reference)
    (check : Check) (r : Run σ) : Shuts b (drive b s driver plan reference check r) := by
  unfold drive
  dsimp only
  split
  next => exact fun _ => shut_shutDown _
  next =>
    split
    next => exact fun hresult => absurd rfl hresult
    next =>
      split
      next => exact fun hresult => absurd rfl hresult
      next => exact fun _ => shut_breakOff _
      next => exact conclude_shuts s check _ _

/-- A trial that is ready for its driver shuts its channel down. -/
theorem attempt_shuts {s : Settings} {spec : TrialSpec} {ready : Plan × Reference × Check}
    (hprepared : (r.prepare b s spec).1 = .ok ready) (driver : Script) (address : String) :
    Shuts b (r.attempt b s driver spec (.ok address)) := by
  unfold attempt
  split
  next heq _ => rw [heq] at hprepared; cases hprepared
  next heq _ => rw [heq] at hprepared; cases hprepared
  next hchannel => cases hchannel
  next plan reference check r' address' heq hchannel =>
    have hdrive := drive_shuts (b := b) s driver plan reference check
      { r' with environment := { r'.environment with channelAddr := address' } }
    dsimp only
    split
    next => exact fun hresult => absurd rfl hresult
    next outcome r'' hother heq' =>
      rw [heq'] at hdrive
      intro hresult
      exact (hdrive hresult).aside (aside_abandon r'')

/-- All that comes before the driver only enters phases. -/
theorem deeds_prepare (s : Settings) (spec : TrialSpec) (r : Run σ) :
    ∃ ds, (r.prepare b s spec).2.journal.deeds = r.journal.deeds ++ ds ∧
      ∀ d ∈ ds, ∃ p, d = .enter p := by
  have hentered : ∃ ds, (r.enter b .planLoaded).journal.deeds = r.journal.deeds ++ ds ∧
      ∀ d ∈ ds, ∃ p, d = .enter p := by
    unfold Run.enter
    split
    next => exact ⟨[], (List.append_nil _).symm, nofun⟩
    next => exact ⟨[.enter .planLoaded], deeds_note _, by simp⟩
  unfold prepare
  split
  next => exact ⟨[], (List.append_nil _).symm, nofun⟩
  next plan _ =>
    dsimp only
    split
    next heq =>
      rw [publish_eq heq]
      exact hentered
    next heq =>
      rw [publish_eq heq]
      split
      next => exact hentered
      next => split <;> exact hentered

/-- A trial that fails before its driver could be started only gives its channel up. -/
theorem deeds_attempt_of_error {s : Settings} {spec : TrialSpec} {failure : TrialFailure}
    (hprepared : (r.prepare b s spec).1 = .error failure) (driver : Script) (address : String) :
    ∃ ds, (r.attempt b s driver spec (.ok address)).2.journal.deeds =
        r.journal.deeds ++ ds ++ [.abandon] ∧ ∀ d ∈ ds, ∃ p, d = .enter p := by
  obtain ⟨ds, hdeeds, hds⟩ := deeds_prepare (b := b) s spec r
  refine ⟨ds, ?_, hds⟩
  unfold attempt
  split
  next heq _ =>
    rw [heq] at hdeeds
    rw [← hdeeds]
    exact deeds_note _
  next hchannel => cases hchannel
  next heq _ => rw [heq] at hprepared; cases hprepared
  next heq _ => rw [heq] at hprepared; cases hprepared

end Run

/-! ### The result -/

/-- Whether a trial gets as far as its driver. -/
def Runner.isPrepared (b : Bench σ) (runner : Runner) (campaign : CampaignState) (spec : TrialSpec)
    (s : σ) : Bool :=
  ((runner.start b campaign spec s).prepare b runner.settings spec).1.isOk

/-- In what state a trial leaves the channel that was opened for it. -/
structure Finished.LeavesChannel (view : ListenerView b) (address : String) (prepared : Bool)
    (f : Finished σ) : Prop where
  /-- A trial that gets as far as its driver has shut the channel down, and the next one can have
  its address. -/
  closed : prepared = true → f.journal.deeds.any Deed.isShutDown = true ∧
    view.listening f.world = false ∧ ∃ given, (b.openChannel address f.world).1 = .ok given
  /-- Any other has only given the channel up. -/
  givenUp : prepared = false →
    f.journal.deeds.any Deed.isShutDown = false ∧ .abandon ∈ f.journal.deeds

theorem isShutDown_teardown (failures lingering : List String) (cleanup : Option Script)
    (warning : Option String) (aborted : Bool) :
    (teardown failures lingering cleanup warning aborted).any Deed.isShutDown = false := by
  cases cleanup <;> rfl

/-- A trial whose channel could be opened shuts it down if it gets as far as its driver. -/
theorem Runner.closed_if_prepared (view : ListenerView b) {runner : Runner}
    {campaign : CampaignState} {spec : TrialSpec} {s opened : σ} {given : String} {f : Finished σ}
    (hopen : b.openChannel runner.settings.channel.bindAddr s = (.ok given, opened))
    (h : runner.run b campaign spec s = some f) :
    f.LeavesChannel view runner.settings.channel.bindAddr
      (runner.isPrepared b campaign spec opened) := by
  have hexecute : runner.execute b campaign spec (.ok given) opened = some f := by
    unfold run at h
    rwa [hopen] at h
  obtain ⟨-, houtcome, -⟩ := execute_eq hexecute
  obtain ⟨-, lingering, warning, aborted, hdeeds⟩ := deeds_execute hexecute
  have hattempted : runner.attempted b campaign spec (.ok given) opened =
      (runner.start b campaign spec opened).attempt b runner.settings runner.driver spec
        (.ok given) := rfl
  unfold isPrepared
  constructor
  · intro hprepared
    cases hready : ((runner.start b campaign spec opened).prepare b runner.settings spec).1 with
    | error failure =>
        rw [hready] at hprepared
        cases hprepared
    | ok ready =>
        have hshut : Run.Shut b (runner.attempted b campaign spec (.ok given) opened).2 := by
          refine Run.attempt_shuts hready runner.driver given fun hends => ?_
          rw [hattempted, hends] at houtcome
          cases houtcome
        obtain ⟨r₀, hleads⟩ := hshut.world
        have hlistening : view.listening f.world = false :=
          hleads.trans (leads_execute hexecute) _ view.keeps (view.shutDown _)
        refine ⟨?_, hlistening, view.opens _ _ _ _ _ hopen hlistening⟩
        rw [hdeeds, List.any_append, hshut.deeds, Bool.true_or]
  · intro hprepared
    cases hready : ((runner.start b campaign spec opened).prepare b runner.settings spec).1 with
    | ok ready =>
        rw [hready] at hprepared
        cases hprepared
    | error failure =>
        obtain ⟨ds, hattempt, hds⟩ := Run.deeds_attempt_of_error hready runner.driver given
        have henters : ds.any Deed.isShutDown = false := List.any_eq_false.mpr fun d hd => by
          obtain ⟨p, rfl⟩ := hds d hd
          exact Bool.false_ne_true
        rw [hdeeds, hattempted, hattempt]
        constructor
        · rw [List.any_append, isShutDown_teardown, List.any_append, List.any_append, henters]
          rfl
        · simp

/-! ### A listener that is left -/

/-- The playback has one listener. -/
def Playback.listenerView : ListenerView Playback.bench where
  listening := Playback.listening
  shutDown _ := rfl
  keeps := by
    refine Playback.bench_keeps (fun time s hclosed => ?_) (fun _ _ => rfl) fun _ hclosed => hclosed
    show (s.listening && !(s.closing && s.clock < time)) = false
    rw [hclosed, Bool.false_and]
  opens address s given s' t _ hclosed := by
    refine ⟨address, ?_⟩
    show (Playback.openChannel address t).1 = .ok address
    rw [Playback.openChannel, hclosed]
    rfl

/-- A drill on a playback in which the driver ends during the first wait: it is prepared, and the
next one can open its channel. -/
theorem Runner.closed_if_prepared_drill : ∃ opened f,
    Playback.bench.openChannel (drillRunner 600).settings.channel.bindAddr
      { cues := [{ exit := some (.exited 0) }] } = (.ok "127.0.0.1:31569", opened) ∧
    (drillRunner 600).run Playback.bench { stage := .selection } drillSpec
      { cues := [{ exit := some (.exited 0) }] } = some f ∧
    (drillRunner 600).isPrepared Playback.bench { stage := .selection } drillSpec opened = true ∧
    f.LeavesChannel Playback.listenerView "127.0.0.1:31569" true := by
  have hrun : ((drillRunner 600).run Playback.bench { stage := .selection } drillSpec
      { cues := [{ exit := some (.exited 0) }] }).isSome = true := by
    decide +kernel
  obtain ⟨f, hf⟩ := Option.isSome_iff_exists.mp hrun
  exact ⟨_, f, rfl, hf, rfl, closed_if_prepared Playback.listenerView rfl hf⟩

/-- A trial whose invariant cannot be checked, as it does not say which checkpoint is to be reached.
-/
def aimlessSpec : TrialSpec :=
  { drillSpec with invariant := some ⟨"a", .reaches, ""⟩ }

/-- A trial fails before its driver could be started. It has a result, its channel could be opened
and has not been shut down, and the next trial of the campaign finds the address in use. -/
theorem unprepared_still_listening : ∃ f next,
    ((drillRunner 600).settings.channel.bindAddr = "127.0.0.1:31569" ∧
      (Playback.bench.openChannel "127.0.0.1:31569" {}).1 = .ok "127.0.0.1:31569") ∧
    (drillRunner 600).run Playback.bench { stage := .injection } aimlessSpec {} = some f ∧
    f.journal.deeds.any Deed.isShutDown = false ∧
    Playback.listenerView.listening f.world = true ∧
    f.runner.run Playback.bench f.campaign drillSpec f.world = some next ∧
    next.result.outcome = .engineError (TrialFailure.message (.channelUnavailable
      (.bind "127.0.0.1:31569" "Address already in use (os error 98)"))) := by
  have hrun : ((drillRunner 600).run Playback.bench { stage := .injection } aimlessSpec {}).bind
      (fun f => (f.runner.run Playback.bench f.campaign drillSpec f.world).map fun next =>
        (f.journal.deeds.any Deed.isShutDown, f.world.listening, next.result.outcome)) =
      some (false, true, .engineError (TrialFailure.message (.channelUnavailable
        (.bind "127.0.0.1:31569" "Address already in use (os error 98)")))) := by
    decide +kernel
  obtain ⟨f, hf, hnext⟩ := Option.bind_eq_some_iff.mp hrun
  obtain ⟨next, hnext, htold⟩ := Option.map_eq_some_iff.mp hnext
  simp only [Prod.mk.injEq] at htold
  obtain ⟨hshut, hlistening, houtcome⟩ := htold
  exact ⟨f, next, ⟨rfl, rfl⟩, hf, hshut, hlistening, hnext, houtcome⟩

end FaultDrill
