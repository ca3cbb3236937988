import FaultDrill.Proofs.Trial.Moves

/-!
# FaultDrill.Proofs.Trial.Identity

What a result is tagged with. The names of the plan and of the invariant are set before anything is
done, and once more when the plan is known; nothing that a trial does afterwards changes them, nor
the identifier (`Run.subject`). So they are those of the result, however the trial has ended
(`Runner.invariant_of_execute`).
-/

namespace FaultDrill

variable {σ : Type}

namespace Run

variable {b : Bench σ}

/-- What a trial is about: its identifier, its plan, and its invariant. -/
def subject (r : Run σ) : TrialId × String × String :=
  (r.id, r.planId, r.invariant)

/-! ### Single operations -/

@[simp] theorem subject_enter (p : Phase) (r : Run σ) : (r.enter b p).subject = r.subject := by
  unfold Run.enter
  split <;> rfl

@[simp] theorem subject_absorb (r : Run σ) : r.absorb.subject = r.subject := by
  rw [absorb_eq]
  rfl

@[simp] theorem subject_see (id : Checkpoint) (r : Run σ) : (r.see id).subject = r.subject := rfl

@[simp] theorem subject_release (id : Checkpoint) (r : Run σ) :
    (r.release b id).subject = r.subject := by
  unfold Run.release
  split <;> rfl

@[simp] theorem subject_shutDown (r : Run σ) : (r.shutDown b).subject = r.subject := rfl

@[simp] theorem subject_collect (exit : Option DriverExit) (r : Run σ) :
    (r.collect b exit).subject = r.subject := rfl

@[simp] theorem subject_heal (r : Run σ) : (r.heal b).subject = r.subject := rfl

@[simp] theorem subject_judge (check : Check) (r : Run σ) :
    (r.judge b check).2.subject = r.subject := by
  unfold judge
  dsimp only
  split <;> rfl

theorem subject_listen (w : Watch) (messages : Nat) (r : Run σ) :
    (r.listen b w messages).2.subject = r.subject := by
  induction messages generalizing r with
  | zero => rfl
  | succ messages ih =>
      unfold Run.listen
      split
      next =>
        dsimp only
        split
        next => rfl
        next => exact ih _
      all_goals rfl

theorem subject_injectAll (id : Checkpoint) (delay : Duration) (due : List Event) (r : Run σ) :
    (injectAll b id delay due r).2.subject = r.subject := by
  induction due generalizing delay r with
  | nil => rfl
  | cons e due ih =>
      unfold injectAll
      dsimp only
      split
      next => rfl
      next =>
        split
        next => rfl
        next => exact ih _ _

theorem subject_fire (id : Checkpoint) (due : List Event) (r : Run σ) :
    (fire b id due r).2.subject = r.subject := by
  have hinjected := subject_injectAll (b := b) id .zero due (r.enter b .injecting)
  rw [subject_enter] at hinjected
  unfold fire
  split
  next => rfl
  next =>
    split
    next heq =>
      rw [heq] at hinjected
      exact hinjected
    next heq =>
      rw [heq] at hinjected
      dsimp only
      split <;> exact hinjected

/-! ### The loops -/

/-- What comes of a round while the driver runs is about the same trial. -/
def KeepsSubject (r : Run σ) :
    Turn (Except Halt DriverExit × EventQueue × Run σ) (Bool × EventQueue × Run σ) → Prop
  | .over (_, _, r') => r'.subject = r.subject
  | .again (_, _, r') => r'.subject = r.subject

theorem KeepsSubject.of_eq {r r₁ : Run σ} {turn : Turn (Except Halt DriverExit × EventQueue × Run σ)
    (Bool × EventQueue × Run σ)} (h : r₁.subject = r.subject) (hturn : KeepsSubject r₁ turn) :
    KeepsSubject r turn := by
  match turn, hturn with
  | .over _, hturn => exact hturn.trans h
  | .again _, hturn => exact hturn.trans h

theorem hear_keepsSubject (s : Settings) (time : Nat) (listening : Bool) (queue : EventQueue)
    (news : News) (r : Run σ) : KeepsSubject r (hear b s time listening queue news r) := by
  cases news with
  | cancelled | lost _ => exact rfl
  | exited e => exact subject_absorb r
  | deserted => exact subject_absorb r
  | timedOut =>
      dsimp only [hear]
      split
      next => exact subject_absorb r
      next => exact rfl
  | reported id =>
      have hfired := subject_fire (b := b) id (EventQueue.takeDue id queue).1 (r.absorb.see id)
      rw [subject_see, subject_absorb] at hfired
      unfold hear
      dsimp only
      split
      next heq =>
        rw [heq] at hfired
        exact hfired
      next heq =>
        rw [heq] at hfired
        exact (subject_release id _).trans hfired

theorem round_keepsSubject (s : Settings) (deadline : Nat) (listening : Bool) (queue : EventQueue)
    (r : Run σ) : KeepsSubject r (round b s deadline listening queue r) := by
  have hhead : ∀ p, ({ (r.beginRound b).enter b p with
      world := b.sleep 1 ((r.beginRound b).enter b p).world } : Run σ).subject = r.subject :=
    fun p => subject_enter (b := b) p (r.beginRound b)
  unfold round
  refine iteInduction (motive := KeepsSubject r) (fun _ => hhead _) fun _ => ?_
  dsimp only
  generalize hlisten : Run.listen b _ _ _ = heard
  have hheard : heard.2.subject = r.subject :=
    hlisten ▸ (subject_listen _ _ _).trans (hhead _)
  exact (hear_keepsSubject s _ listening queue heard.1 heard.2).of_eq hheard

theorem subject_coordinate (s : Settings) (deadline rounds : Nat) (listening : Bool)
    (queue : EventQueue) (r : Run σ) :
    (coordinate b s deadline rounds listening queue r).2.2.subject = r.subject := by
  induction rounds generalizing r listening queue with
  | zero => rfl
  | succ rounds ih =>
      have hround := round_keepsSubject (b := b) s deadline listening queue r
      unfold coordinate
      split
      next heq =>
        rw [heq] at hround
        exact hround
      next heq =>
        rw [heq] at hround
        exact (ih _ _ _).trans hround

theorem subject_settleRound (until_ : Nat) (r : Run σ) : match settleRound b until_ r with
    | .over r' | .again r' => r'.subject = r.subject := by
  have hhead : ({ r.beginRound b with world := b.sleep 1 (r.beginRound b).world } : Run σ).subject =
      r.subject := rfl
  unfold settleRound
  refine iteInduction (motive := fun turn : Turn (Run σ) (Run σ) => match turn with
    | .over r' | .again r' => r'.subject = r.subject)
    (fun _ => (subject_absorb _).trans hhead) fun _ => ?_
  dsimp only
  generalize hlisten : Run.listen b _ _ _ = heard
  have hheard : heard.2.subject = r.subject := hlisten ▸ (subject_listen _ _ _).trans hhead
  obtain ⟨news, r'⟩ := heard
  cases news with
  | reported id => exact (subject_release id (r'.see id)).trans hheard
  | _ => exact (subject_absorb r').trans hheard

theorem subject_settle (until_ rounds : Nat) (r : Run σ) :
    (settle b until_ rounds r).subject = r.subject := by
  induction rounds generalizing r with
  | zero => exact subject_absorb r
  | succ rounds ih =>
      have hround := subject_settleRound (b := b) until_ r
      unfold settle
      split
      next heq =>
        rw [heq] at hround
        exact hround
      next heq =>
        rw [heq] at hround
        exact (ih _).trans hround

/-! ### The attempt -/

theorem subject_conclude (s : Settings) (check : Check) (exit : DriverExit) (r : Run σ) :
    (conclude b s check exit r).2.subject = r.subject := by
  unfold conclude
  split
  next => rfl
  next until_ _ =>
    have hsettled := subject_settle (b := b) until_ (s.trial.settle.nanos + 1) r
    dsimp only
    rw [subject_judge]
    split <;> simpa using hsettled

theorem subject_drive (s : Settings) (driver : Script) (plan : Plan) (reference : Reference)
    (check : Check) (r : Run σ) : (drive b s driver plan reference check r).2.subject = r.subject := by
  unfold drive
  dsimp only
  split
  next => rfl
  next =>
    split
    next => exact subject_enter _ _
    next deadline _ =>
      generalize hrounds : coordinate b s deadline _ _ _ _ = result
      have hresult : result.2.2.subject = r.subject :=
        hrounds ▸ (subject_coordinate s deadline _ _ _ _).trans (subject_enter _ _)
      split
      next => exact hresult
      next => exact hresult
      next => exact (subject_conclude s check _ _).trans hresult

/-- What a trial is about once its plan has been asked for. A plan that cannot be loaded leaves it as
it was. -/
def subjectOf (b : Bench σ) (spec : TrialSpec) (r : Run σ) : TrialId × String × String :=
  match r.loadPlan b spec.plan with
  | .error _ => r.subject
  | .ok plan => (r.id, plan.id, (spec.invariant.getD plan.invariant).name)

theorem subject_prepare (s : Settings) (spec : TrialSpec) (r : Run σ) :
    (r.prepare b s spec).2.subject = r.subjectOf b spec := by
  unfold prepare subjectOf
  cases r.loadPlan b spec.plan with
  | error => rfl
  | ok plan =>
      have hbegun : ((r.begin b plan (spec.invariant.getD plan.invariant)).publish b
          s.campaign).2.subject = (r.id, plan.id, (spec.invariant.getD plan.invariant).name) :=
        congrArg (fun subject => (subject.1, plan.id, (spec.invariant.getD plan.invariant).name))
          (subject_enter (b := b) .planLoaded r)
      dsimp only
      split
      next heq =>
        rw [heq] at hbegun
        exact hbegun
      next heq =>
        rw [heq] at hbegun
        split
        next => exact hbegun
        next => split <;> exact hbegun

theorem subject_attempt (s : Settings) (driver : Script) (spec : TrialSpec)
    (channel : Except ChannelError String) (r : Run σ) :
    (r.attempt b s driver spec channel).2.subject = r.subjectOf b spec := by
  have hprepared := subject_prepare (b := b) s spec r
  unfold attempt
  split
  next heq => rwa [heq] at hprepared
  next heq => rwa [heq] at hprepared
  next heq => rwa [heq] at hprepared
  next plan reference check r' address heq =>
    rw [heq] at hprepared
    have hdriven := (subject_drive (b := b) s driver plan reference check
      { r' with environment := { r'.environment with channelAddr := address } }).trans hprepared
    dsimp only
    split
    next heq' => rwa [heq'] at hdriven
    next heq' => rwa [heq'] at hdriven

/-! ### Teardown -/

theorem subject_cleanUp (timeout : Duration) (cleanup : Option Script) (r : Run σ) :
    (r.cleanUp b timeout cleanup).2.subject = r.subject := by
  cases cleanup <;> rfl

theorem subject_tearDown (timeout : Duration) (cleanup : Option Script) (aborted : Bool)
    (r : Run σ) : (r.tearDown b timeout cleanup aborted).2.2.subject = r.subject := by
  have hhealed := (subject_heal (b := b) (r.enter b .cleaningUp)).trans (subject_enter _ _)
  unfold tearDown
  generalize Run.heal b (r.enter b .cleaningUp) = healed at hhealed ⊢
  dsimp only
  refine (subject_enter _ _).trans (Eq.trans ?_ hhealed)
  exact (subject_cleanUp timeout cleanup _).trans rfl

end Run

namespace Runner

variable {b : Bench σ} {runner : Runner} {campaign : CampaignState} {spec : TrialSpec} {s : σ}
  {f : Finished σ}

/-- A result is tagged with what the trial was about when its plan had been asked for. -/
theorem subject_of_execute {channel : Except ChannelError String}
    (h : runner.execute b campaign spec channel s = some f) :
    (f.result.id, f.result.planId, f.result.invariant) =
      (runner.start b campaign spec s).subjectOf b spec := by
  have hattempted := Run.subject_attempt (b := b) runner.settings runner.driver spec channel
    (runner.start b campaign spec s)
  unfold execute at h
  generalize (runner.start b campaign spec s).attempt b _ _ _ _ = attempted at h hattempted
  obtain ⟨answer, r⟩ := attempted
  dsimp only at h
  split at h
  next => cases h
  next outcome _ =>
    have htorn := Run.subject_tearDown (b := b) runner.settings.trial.cleanupTimeout runner.cleanup
      outcome.isEngineError r
    generalize r.tearDown b _ _ _ = torn at h htorn
    cases h
    exact htorn.trans hattempted

/-- A trial of a given invariant has a result with the name of this invariant, also if its plan could
not be loaded. -/
theorem invariant_of_run {reference : Reference} (hspec : spec.invariant = some reference)
    (h : runner.run b campaign spec s = some f) : f.result.invariant = reference.name := by
  have hsubject := subject_of_execute h
  unfold Run.subjectOf at hsubject
  split at hsubject
  next =>
    have hinvariant : f.result.invariant = (spec.invariant.map (·.name)).getD "" :=
      congrArg (·.2.2) hsubject
    rw [hinvariant, hspec]
    rfl
  next plan _ =>
    have hinvariant : f.result.invariant = (spec.invariant.getD plan.invariant).name :=
      congrArg (·.2.2) hsubject
    rw [hinvariant, hspec]
    rfl

end Runner

end FaultDrill
