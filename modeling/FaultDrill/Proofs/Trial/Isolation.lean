import FaultDrill.Proofs.Injection.Retention
import FaultDrill.Proofs.Trial.Moves
import FaultDrill.Proofs.Trial.Teardown

/-!
# FaultDrill.Proofs.Trial.Isolation

Trials do not disturb each other. A trial may register targets and add faults to the ledger, and
changes nothing else of the injector (`Run.Carries`). Its teardown forgets the targets and keeps in
the ledger just the entries that it could not undo; so if all could be undone, the injector is what
it was before (`Runner.isolated`). The entries that are left are still there when the next trial
heals for the first time, and are tried again.
-/

namespace FaultDrill

open Injector (undonePauses undonePartitions undoneDamage)

variable {σ : Type} {b : Bench σ}

namespace Run

variable {r r' r₁ r₂ r₃ : Run σ}

/-! ### What a trial does to its injector -/

/-- An injection that has succeeded has let a target go. -/
def Freed (r : Run σ) (target : String) : Prop :=
  ∃ e id registered, .inject e id registered true ∈ r.journal.deeds ∧ e.Frees target

theorem Freed.mono {target : String} (h : r.Freed target)
    (hdeeds : r.journal.deeds <+: r'.journal.deeds) : r'.Freed target := by
  obtain ⟨e, id, registered, hmem, hfrees⟩ := h
  exact ⟨e, id, registered, hdeeds.mem hmem, hfrees⟩

/-- The injector has kept its settings, the targets of the configuration, and the entries of its
ledger. -/
structure Carries (r r' : Run σ) : Prop where
  settings : r'.injector.settings = r.injector.settings
  specs : r'.injector.registry.specs = r.injector.registry.specs
  ledger : Ledger.Retains r'.Freed r.injector.ledger r'.injector.ledger

theorem Carries.trans (h : Carries r₁ r₂) (h' : Carries r₂ r₃)
    (hdeeds : r₂.journal.deeds <+: r₃.journal.deeds) : Carries r₁ r₃ :=
  ⟨h'.settings.trans h.settings, h'.specs.trans h.specs,
    (h.ledger.mono fun _ hfreed => hfreed.mono hdeeds).trans h'.ledger⟩

theorem Carries.of_injector (h : r'.injector = r.injector) : Carries r r' := by
  refine ⟨by rw [h], by rw [h], ?_⟩
  rw [h]
  exact .refl _ _

theorem Move.carries (h : Move b r r') : Carries r r' := by
  cases h with
  | aside haside => exact .of_injector haside.injector
  | receive | wake => exact .of_injector rfl
  | absorb =>
      rw [absorb_eq]
      exact ⟨rfl, rfl, .refl _ _⟩
  | exit =>
      rw [absorb_eq]
      exact ⟨rfl, rfl, .refl _ _⟩
  | @inject e id answer j s hreports heq =>
      obtain ⟨-, ledger, hledger⟩ := inject_leads heq
      have hretains : Ledger.Retains (Freed (note b
            (.inject e id r.injector.registry.runtime answer.isOk)
            { r with injector := j, world := s }))
          r.injector.ledger (r.injector.inject b.toSite e r.world).2.1.ledger := by
        refine Injector.inject_retains b.toSite r.injector e r.world fun hok target hfrees => ?_
        rw [heq] at hok
        refine ⟨e, id, r.injector.registry.runtime, ?_, hfrees⟩
        rw [deeds_note, ← hok]
        exact List.mem_append_right _ List.mem_cons_self
      rw [heq] at hretains
      exact ⟨congrArg (·.settings) hledger, congrArg (·.registry.specs) hledger, hretains⟩

theorem Moves.carries (h : r.Moves b r') : Carries r r' := by
  induction h with
  | refl => exact .of_injector rfl
  | tail _ hmove ih =>
      obtain ⟨ds, hdeeds, -⟩ := hmove.deeds
      exact ih.trans hmove.carries ⟨ds, hdeeds.symm⟩

/-- Healing, if it is done, and judging change nothing of the injector but the ledger. -/
theorem injector_checked (heals : Bool) (check : Check) (r : Run σ) :
    ∃ ledger, ((if heals then r.heal b else r).judge b check).2.injector =
      { r.injector with ledger := ledger } := by
  rw [injector_judge]
  cases heals with
  | true => exact ⟨_, rfl⟩
  | false => exact ⟨r.injector.ledger, rfl⟩

theorem Attempts.injector {s : Settings} {attempted : Except Halt Outcome × Run σ}
    (h : Attempts b s r attempted) :
    attempted.2.injector.settings = r.injector.settings ∧
      attempted.2.injector.registry.specs = r.injector.registry.specs := by
  cases h with
  | failed hmoves => exact ⟨(Moves.carries hmoves).settings, (Moves.carries hmoves).specs⟩
  | @checked _ check r₁ _ hmoves _ _ hlast =>
      obtain ⟨ledger, heq⟩ := injector_checked (b := b) s.trial.healBeforeCheck check r₁
      have hcarries := Moves.carries hmoves
      dsimp only
      rw [hlast.injector, heq]
      exact ⟨hcarries.settings, hcarries.specs⟩

/-! ### The first healing -/

/-- A run of a trial whose faults are healed next, for the first time in the trial. -/
structure HealsFirst (b : Bench σ) (r r' : Run σ) (ds : List Deed) : Prop where
  /-- The run is reached by moves, or comes after the check. -/
  reached : r.Moves b r' ∨ ∃ r₁ check, r.Moves b r₁ ∧ Aside b (r₁.judge b check).2 r'
  heals : ∃ later, ds =
    r'.journal.deeds ++ .heal (r'.injector.healAll b.toSite r'.world).1 :: later
  first : ∀ failures, .heal failures ∉ r'.journal.deeds

/-- Where nothing has been healed before, the teardown heals first. -/
theorem healsFirst_teardown {failures lingering : List String} {cleanup : Option Script}
    {warning : Option String} {aborted : Bool}
    (hreached : r.Moves b r' ∨ ∃ r₁ check, r.Moves b r₁ ∧ Aside b (r₁.judge b check).2 r')
    (hfailures : failures = (r'.injector.healAll b.toSite r'.world).1)
    (hfirst : ∀ failures, .heal failures ∉ r'.journal.deeds) (hphase : r'.phase ≠ .cleaningUp) :
    HealsFirst b r (r'.enter b .cleaningUp)
      (r'.journal.deeds ++ teardown failures lingering cleanup warning aborted) where
  reached := by
    rcases hreached with hmoves | ⟨r₁, check, hmoves, haside⟩
    · exact .inl (hmoves.tail (.aside (aside_enter _ _)))
    · exact .inr ⟨r₁, check, hmoves, haside.trans (aside_enter _ _)⟩
  heals := by
    obtain ⟨later, hteardown⟩ : ∃ later, teardown failures lingering cleanup warning aborted =
      .enter .cleaningUp :: .heal failures :: later := ⟨_, rfl⟩
    refine ⟨later, ?_⟩
    rw [hteardown, deeds_enter hphase, injector_enter, world_enter, ← hfailures, List.append_assoc]
    rfl
  first other := by
    rw [deeds_enter hphase]
    simp [hfirst other]

end Run

namespace Runner

variable {runner : Runner} {campaign : CampaignState} {spec : TrialSpec}
  {channel : Except ChannelError String} {s : σ} {f : Finished σ}

/-- The healing in the teardown of a trial. -/
def healed (b : Bench σ) (runner : Runner) (campaign : CampaignState) (spec : TrialSpec)
    (channel : Except ChannelError String) (s : σ) : List String × Injector × σ :=
  let r := (runner.attempted b campaign spec channel s).2
  r.injector.healAll b.toSite r.world

theorem attempted_attempts (b : Bench σ) (runner : Runner) (campaign : CampaignState)
    (spec : TrialSpec) (channel : Except ChannelError String) (s : σ) :
    Run.Attempts b runner.settings (runner.start b campaign spec s)
      (runner.attempted b campaign spec channel s) :=
  Run.attempt_attempts _ _ _ _ _

/-- The deeds of a trial with a result are those of its attempt and those of its teardown. -/
theorem deeds_execute (h : runner.execute b campaign spec channel s = some f) :
    (runner.attempted b campaign spec channel s).2.phase ≠ .cleaningUp ∧
    ∃ lingering warning aborted, f.journal.deeds =
      (runner.attempted b campaign spec channel s).2.journal.deeds ++
        teardown (runner.healed b campaign spec channel s).1 lingering runner.cleanup warning
          aborted := by
  obtain ⟨torn, houtcome, htorn, -, -, -, -, hjournal, -, -⟩ := execute_eq h
  obtain ⟨st, hr, -⟩ := (attempted_closes runner campaign spec channel s).of_outcome houtcome
  have hphase := hr.phase ▸ hr.path.open.1
  refine ⟨fun hcleaning => ?_, torn.1, torn.2.1, f.result.outcome.isEngineError, ?_⟩
  · rw [hcleaning] at hphase
    cases hphase
  · rw [hjournal, htorn]
    exact Run.deeds_tearDown _ _ _ hphase

/-- The teardown leads from the end of the attempt to the end of the trial. -/
theorem leads_execute (h : runner.execute b campaign spec channel s = some f) :
    b.Leads (runner.attempted b campaign spec channel s).2.world f.world := by
  obtain ⟨torn, -, htorn, -, -, -, -, -, -, hworld⟩ := execute_eq h
  rw [hworld, htorn]
  exact Run.leads_tearDown _ _ _ _

/-- Every trial with a result heals, and what it heals first holds all entries of the ledger with
which the trial has begun. -/
theorem healsFirst_of_execute (h : runner.execute b campaign spec channel s = some f) :
    ∃ r, Run.HealsFirst b (runner.start b campaign spec s) r f.journal.deeds ∧
      Run.Carries (runner.start b campaign spec s) r := by
  obtain ⟨hphase, lingering, warning, aborted, hdeeds⟩ := deeds_execute h
  have hattempts := attempted_attempts b runner campaign spec channel s
  unfold healed at hdeeds
  rw [hdeeds]
  generalize runner.attempted b campaign spec channel s = attempted at hattempts hphase
  cases hattempts with
  | @failed _ r₁ hmoves =>
      have hfirst : ∀ failures, .heal failures ∉ r₁.journal.deeds := fun failures hmem => by
        cases Run.isMove_of_moves hmoves rfl hmem
      have hentered := hmoves.tail (.aside (Run.aside_enter .cleaningUp r₁))
      exact ⟨_, Run.healsFirst_teardown (.inl hmoves) rfl hfirst hphase, Run.Moves.carries hentered⟩
  | @checked outcome check r₁ r₂ hmoves hreports hexited hlast =>
      have hfirst : ∀ failures, .heal failures ∉ r₁.journal.deeds := fun failures hmem => by
        cases Run.isMove_of_moves hmoves rfl hmem
      obtain ⟨ds, hds, hasides⟩ := hlast.deeds
      rw [Run.deeds_judge] at hds
      cases hheals : runner.settings.trial.healBeforeCheck with
      | true =>
          rw [hheals, if_pos rfl, Run.deeds_heal] at hds
          refine ⟨r₁, ⟨.inl hmoves, ?_, hfirst⟩, Run.Moves.carries hmoves⟩
          dsimp only
          rw [hds, List.append_assoc, List.append_assoc, List.append_assoc]
          exact ⟨_, rfl⟩
      | false =>
          rw [hheals, if_neg Bool.false_ne_true] at hds hlast
          have hinjector : (r₂.enter b .cleaningUp).injector = r₁.injector := by
            rw [Run.injector_enter, hlast.injector, Run.injector_judge]
          refine ⟨_, Run.healsFirst_teardown (.inr ⟨r₁, check, hmoves, hlast⟩) rfl ?_ hphase,
            (Run.Moves.carries hmoves).trans (.of_injector hinjector) ?_⟩
          · intro failures
            rw [hds]
            simp only [List.mem_append, not_or]
            exact ⟨⟨hfirst failures, by simp⟩, fun hmem => by cases hasides _ hmem⟩
          · obtain ⟨ds', hds', -⟩ := (Run.aside_enter (b := b) .cleaningUp r₂).deeds
            rw [hds', hds, List.append_assoc, List.append_assoc]
            exact List.prefix_append _ _

/-- The runner after a trial, told by the healing of its teardown. -/
theorem runner_execute (h : runner.execute b campaign spec channel s = some f) :
    f.runner = { runner with
      phase := f.runner.phase
      injector.registry := runner.injector.registry.clearRuntime
      injector.ledger := (runner.healed b campaign spec channel s).2.1.ledger } := by
  obtain ⟨torn, -, htorn, -, -, -, -, -, hrunner, -⟩ := execute_eq h
  obtain ⟨hsettings, hspecs⟩ := (attempted_attempts b runner campaign spec channel s).injector
  have hregistry : (runner.attempted b campaign spec channel s).2.injector.registry.clearRuntime =
      runner.injector.registry.clearRuntime :=
    congrArg (fun specs => ({ specs := specs, runtime := .empty } : Registry)) hspecs
  have hinjector : torn.2.2.injector = { runner.injector with
      registry := runner.injector.registry.clearRuntime
      ledger := (runner.healed b campaign spec channel s).2.1.ledger } := by
    rw [htorn, Run.injector_tearDown, Injector.healAll_eq]
    show Injector.mk _ _ _ = Injector.mk _ _ _
    rw [hsettings, hregistry]
    rfl
  rw [hrunner, hinjector]

/-- A runner that has run trials, one after the other. -/
inductive Used (b : Bench σ) : Runner → Prop
  | new (settings : Settings) (driver : Script) (cleanup : Option Script) :
      Used b (.new settings driver cleanup)
  | trial {runner : Runner} {campaign : CampaignState} {spec : TrialSpec}
      {channel : Except ChannelError String} {s : σ} {f : Finished σ} : Used b runner →
      runner.execute b campaign spec channel s = some f → Used b f.runner

/-- Between trials an injector differs from a new one only in the entries that could not be
healed. -/
theorem Used.injector_eq (h : runner.Used b) : runner.injector =
    { Injector.new runner.settings.injector with ledger := runner.injector.ledger } := by
  induction h with
  | new => rfl
  | trial _ hexecute ih =>
      rw [runner_execute hexecute]
      dsimp only
      rw [ih]
      rfl

end Runner

/-! ### Isolation -/

/-- What a trial leaves behind of its injector, of which the first argument is the one with which it
has begun. The run is that of the attempt, at the beginning of the teardown. -/
structure Finished.Isolated (b : Bench σ) (before : Injector) (r : Run σ) (f : Finished σ) :
    Prop where
  torn : ∃ later, f.journal.deeds = r.journal.deeds ++
    .enter .cleaningUp :: .heal (r.injector.healAll b.toSite r.world).1 :: later
  /-- If everything could be healed, the injector is as it was: nothing is in its ledger, and no
  process is registered. -/
  clean : (r.injector.healAll b.toSite r.world).1 = [] →
    f.runner.injector.ledger = {} ∧ f.runner.injector.registry.runtime = .empty ∧
      f.runner.injector = before
  /-- Each failure is that of an entry. -/
  failures : (r.injector.healAll b.toSite r.world).1 =
    (undonePauses b.toSite r.injector r.world).1.map (·.2) ++
      (undonePartitions b.toSite r.injector r.world).1.map (·.2) ++
      (undoneDamage b.toSite r.injector r.world).1.map (·.2)
  /-- The entries whose healing has failed are still in the ledger, and there are no others. -/
  paused : f.runner.injector.ledger.paused.toList =
    (undonePauses b.toSite r.injector r.world).1.map (·.1)
  partitions : f.runner.injector.ledger.partitions.toList =
    (undonePartitions b.toSite r.injector r.world).1.map (·.1)
  corrupted : f.runner.injector.ledger.corrupted.toList =
    (undoneDamage b.toSite r.injector r.world).1.map (·.1)
  /-- The next trial holds them when it heals for the first time, unless it has let a paused target
  go itself. -/
  retried : ∀ campaign spec channel s next,
    f.runner.execute b campaign spec channel s = some next →
    ∃ r', Run.HealsFirst b (f.runner.start b campaign spec s) r' next.journal.deeds ∧
      Ledger.Retains r'.Freed f.runner.injector.ledger r'.injector.ledger

/-- A trial leaves an injector without faults and without registered processes as it was, if its
teardown could heal everything; and whatever it could not heal is tried again by the next trial. -/
theorem Runner.isolated {runner : Runner} {campaign : CampaignState} {spec : TrialSpec}
    {channel : Except ChannelError String} {s : σ} {f : Finished σ}
    (hledger : runner.injector.ledger = {}) (hruntime : runner.injector.registry.runtime = .empty)
    (h : runner.execute b campaign spec channel s = some f) :
    f.Isolated b runner.injector (runner.attempted b campaign spec channel s).2 := by
  have hinjector : f.runner.injector = { runner.injector with
      registry := runner.injector.registry.clearRuntime
      ledger := (runner.healed b campaign spec channel s).2.1.ledger } := by
    rw [runner_execute h]
  have hsame : runner.injector.registry.clearRuntime = runner.injector.registry := by
    unfold Registry.clearRuntime
    rw [← hruntime]
  have hentries : f.runner.injector.ledger = (runner.healed b campaign spec channel s).2.1.ledger :=
    by rw [hinjector]
  constructor
  case torn =>
    obtain ⟨-, lingering, warning, aborted, hdeeds⟩ := deeds_execute h
    exact ⟨_, hdeeds⟩
  case clean =>
    intro hnone
    have hempty : (runner.healed b campaign spec channel s).2.1.ledger = {} :=
      Injector.ledger_healAll_of_nil hnone
    refine ⟨hentries.trans hempty, by rw [hinjector]; rfl, ?_⟩
    rw [hinjector, hempty, hsame, ← hledger]
  case failures => rfl
  case paused => rw [hentries]; exact Injector.paused_healAll _ _ _
  case partitions => rw [hentries]; exact Injector.partitions_healAll _ _ _
  case corrupted => rw [hentries]; exact Injector.corrupted_healAll _ _ _
  case retried =>
    intro campaign' spec' channel' s' next hnext
    obtain ⟨r', hheals, hcarries⟩ := healsFirst_of_execute hnext
    exact ⟨r', hheals, hcarries.ledger⟩

open Rehearsal (Scene)

/-- A trial that pauses a target at its first checkpoint. -/
def pausingSpec : TrialSpec where
  plan := .loaded { drillPlan with events := [⟨"1", "leader", .pause⟩] }

/-- A scene in which a process is paused, and then cannot be resumed as often as one trial tries. -/
def stubbornScene : Scene :=
  { machine := { controller := .scripted (.ok :: List.replicate 8 .fail) [] }, standIn := [.gate]
    : Scene } |>.placeReporter [.report (.checkpoint "1")]

/-- Neither the healing before the check nor that of the teardown can resume the target. Its entry is
left in the ledger, and the next trial resumes it. -/
theorem Runner.isolated_stubborn : ∃ f next,
    (drillRunner 600).execute Scene.bench { stage := .injection } pausingSpec (.ok "memory")
        stubbornScene = some f ∧
      f.runner.execute Scene.bench f.campaign pausingSpec (.ok "memory")
        (f.world.placeReporter []) = some next ∧
      f.Isolated Scene.bench (drillRunner 600).injector ((drillRunner 600).attempted Scene.bench
        { stage := .injection } pausingSpec (.ok "memory") stubbornScene).2 ∧
      f.runner.injector.ledger.paused.toList = [("leader", 10)] ∧
      next.runner.injector.ledger = {} := by
  have hrun : ((drillRunner 600).execute Scene.bench { stage := .injection } pausingSpec
      (.ok "memory") stubbornScene).bind (fun f =>
        (f.runner.execute Scene.bench f.campaign pausingSpec (.ok "memory")
          (f.world.placeReporter [])).map fun next =>
            (f.runner.injector.ledger.paused.toList, next.runner.injector.ledger)) =
      some ([("leader", 10)], {}) := by
    decide +kernel
  obtain ⟨f, hf, hnext⟩ := Option.bind_eq_some_iff.mp hrun
  obtain ⟨next, hnext, htold⟩ := Option.map_eq_some_iff.mp hnext
  exact ⟨f, next, hf, hnext, isolated rfl rfl hf, congrArg Prod.fst htold, congrArg Prod.snd htold⟩

end FaultDrill
