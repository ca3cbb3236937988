import FaultDrill.Config.Validation
import FaultDrill.Proofs.Trial.Clock
import FaultDrill.Rehearsal.Bench

/-!
# FaultDrill.Proofs.Trial.Teardown

The end of a trial. What a teardown does is told as the list of its deeds (`teardown`), and a trial
that has a result is an attempt that keeps to the protocol, followed by one teardown
(`Runner.execute_closes`). So every trial is torn down once and goes through its phases as the
diagram says, whichever way it goes, unless the clock comes to its end in its middle. It does not
where the clock stays far enough from its end (`Runner.isSome_execute`). But a time limit is accepted
that no clock can reach, and a trial with it is never torn down (`endless_not_tornDown`).
-/

namespace FaultDrill

open Standing (Path)

variable {σ : Type} {b : Bench σ}

/-- The deeds of a teardown, in their order. -/
def teardown (failures lingering : List String) (cleanup : Option Script)
    (warning : Option String) (aborted : Bool) : List Deed :=
  [.enter .cleaningUp, .heal failures, .lookForFaults lingering, .forgetTargets] ++
    cleanup.toList.map (fun _ => .cleanUp warning) ++
    [.enter (if aborted then .aborted else .done)]

namespace Run

variable {r r' : Run σ} {p : Phase}

theorem deeds_enter (h : r.phase ≠ p) :
    (r.enter b p).journal.deeds = r.journal.deeds ++ [.enter p] := by
  unfold Run.enter
  rw [if_neg h, deeds_note]

theorem fired_enter (p : Phase) (r : Run σ) : (r.enter b p).fired = r.fired := by
  unfold Run.enter
  split <;> rfl

theorem skipped_enter (p : Phase) (r : Run σ) : (r.enter b p).skipped = r.skipped := by
  unfold Run.enter
  split <;> rfl

theorem injector_enter (p : Phase) (r : Run σ) : (r.enter b p).injector = r.injector := by
  unfold Run.enter
  split <;> rfl

theorem world_enter (p : Phase) (r : Run σ) : (r.enter b p).world = r.world := by
  unfold Run.enter
  split <;> rfl

theorem deeds_cleanUp (timeout : Duration) (cleanup : Option Script) (r : Run σ) :
    (r.cleanUp b timeout cleanup).2.journal.deeds =
      r.journal.deeds ++
        cleanup.toList.map fun _ => .cleanUp (r.cleanUp b timeout cleanup).1 := by
  cases cleanup with
  | none => simp [Run.cleanUp]
  | some script => exact deeds_note _

theorem deeds_heal (r : Run σ) :
    (r.heal b).journal.deeds =
      r.journal.deeds ++ [.heal (r.injector.healAll b.toSite r.world).1] :=
  deeds_note _

/-- The cleanup script changes only the world. -/
theorem cleanUp_eq (timeout : Duration) (cleanup : Option Script) (r : Run σ) :
    (r.cleanUp b timeout cleanup).2 =
      { r with
        world := (r.cleanUp b timeout cleanup).2.world
        journal := (r.cleanUp b timeout cleanup).2.journal } := by
  cases cleanup <;> rfl

/-- What a teardown does to a run that has not been torn down. -/
structure TearsDown (cleanup : Option Script) (aborted : Bool) (r : Run σ)
    (torn : List String × Option String × Run σ) : Prop where
  deeds : ∃ failures, torn.2.2.journal.deeds =
    r.journal.deeds ++ teardown failures torn.1 cleanup torn.2.1 aborted
  phase : torn.2.2.phase = if aborted then .aborted else .done
  cleared : torn.2.2.campaign.current = none
  fired : torn.2.2.fired = r.fired
  skipped : torn.2.2.skipped = r.skipped

/-- The deeds of a teardown follow those of the run. -/
theorem deeds_tearDown (timeout : Duration) (cleanup : Option Script) (aborted : Bool)
    (hphase : r.phase.isTeardown = false) :
    (r.tearDown b timeout cleanup aborted).2.2.journal.deeds = r.journal.deeds ++
      teardown (r.injector.healAll b.toSite r.world).1 (r.tearDown b timeout cleanup aborted).1
        cleanup (r.tearDown b timeout cleanup aborted).2.1 aborted := by
  have hopen : r.phase ≠ .cleaningUp := fun h => by rw [h] at hphase; cases hphase
  unfold tearDown
  dsimp only
  rw [← injector_enter (b := b) .cleaningUp r, ← world_enter (b := b) .cleaningUp r]
  generalize hcleaning : r.enter b .cleaningUp = cleaning
  have hphase' : cleaning.phase = .cleaningUp := hcleaning ▸ phase_enter _ r
  have hdeeds : cleaning.journal.deeds = r.journal.deeds ++ [.enter .cleaningUp] :=
    hcleaning ▸ deeds_enter hopen
  rw [deeds_enter]
  · show Journal.deeds (Run.journal (Run.cleanUp b timeout cleanup _).2) ++ _ = _
    rw [deeds_cleanUp, deeds_note]
    dsimp only
    rw [deeds_note]
    dsimp only
    rw [deeds_heal, hdeeds]
    simp [teardown]
  · rw [cleanUp_eq]
    show cleaning.phase ≠ _
    rw [hphase']
    split <;> decide

theorem tearDown_tearsDown (timeout : Duration) (cleanup : Option Script) (aborted : Bool)
    (hphase : r.phase.isTeardown = false) :
    TearsDown cleanup aborted r (r.tearDown b timeout cleanup aborted) := by
  refine ⟨⟨_, deeds_tearDown timeout cleanup aborted hphase⟩, phase_enter _ _, ?_, ?_, ?_⟩
  · unfold tearDown
    dsimp only
    rw [campaign_enter]
    rfl
  · unfold tearDown
    dsimp only
    rw [fired_enter, cleanUp_eq]
    exact fired_enter _ r
  · unfold tearDown
    dsimp only
    rw [skipped_enter, cleanUp_eq]
    exact skipped_enter _ r

/-- A teardown takes back all faults and forgets the registered targets. -/
theorem injector_tearDown (timeout : Duration) (cleanup : Option Script) (aborted : Bool)
    (r : Run σ) :
    (r.tearDown b timeout cleanup aborted).2.2.injector =
      (r.injector.healAll b.toSite r.world).2.1.resetRuntimeTargets := by
  unfold tearDown
  dsimp only
  rw [injector_enter, cleanUp_eq, ← injector_enter (b := b) .cleaningUp r,
    ← world_enter (b := b) .cleaningUp r]
  rfl

end Run

/-! ### Trials with a result -/

namespace Runner

/-- The events that a trial may inject: those of its plan, if it can be loaded, in the stage of the
campaign. -/
def events (b : Bench σ) (runner : Runner) (campaign : CampaignState) (spec : TrialSpec) (s : σ) :
    List Event :=
  match (runner.start b campaign spec s).loadPlan b spec.plan with
  | .ok plan => Run.eventsIn campaign.stage plan
  | .error _ => []

/-- The attempt of a trial, which comes before its teardown. -/
def attempted (b : Bench σ) (runner : Runner) (campaign : CampaignState) (spec : TrialSpec)
    (channel : Except ChannelError String) (s : σ) : Except Halt Outcome × Run σ :=
  (runner.start b campaign spec s).attempt b runner.settings runner.driver spec channel

theorem events_eq {runner : Runner} {campaign : CampaignState} {spec : TrialSpec} {s : σ}
    {plan : Plan} (h : (runner.start b campaign spec s).loadPlan b spec.plan = .ok plan) :
    runner.events b campaign spec s = Run.eventsIn campaign.stage plan := by
  unfold events
  rw [h]

theorem attempted_closes (runner : Runner) (campaign : CampaignState) (spec : TrialSpec)
    (channel : Except ChannelError String) (s : σ) :
    Run.Closes (runner.events b campaign spec s) (runner.attempted b campaign spec channel s) :=
  Run.attempt_closes _ _ _ _ (fun _ hplan => (events_eq hplan).symm) ⟨.nil _, rfl, rfl, rfl, rfl⟩

end Runner

/-- A result is that of an attempt that keeps to the protocol, followed by one teardown. -/
structure Finished.Closes (events : List Event) (cleanup : Option Script) (ds : List Deed)
    (st : Standing) (f : Finished σ) : Prop where
  path : Path { left := events } ds st
  answered : st.held = none
  exited : st.exited = !f.result.outcome.isEngineError
  checking : st.exited = true → st.phase = .checking
  deeds : ∃ failures, f.journal.deeds =
    ds ++ teardown failures f.result.diagnostics.lingeringFaults cleanup f.result.cleanupWarning
      f.result.outcome.isEngineError
  phase : f.runner.phase = if f.result.outcome.isEngineError then .aborted else .done
  finalState : f.result.diagnostics.finalState = f.runner.phase.name
  cleared : f.campaign.current = none
  fired : f.result.diagnostics.eventsFired = st.fired
  skipped : f.result.diagnostics.eventsSkipped = if st.exited then st.left else []

/-- The teardown of an attempt that has an outcome gives a result. -/
theorem Runner.execute_eq {runner : Runner} {campaign : CampaignState} {spec : TrialSpec}
    {channel : Except ChannelError String} {s : σ} {f : Finished σ}
    (h : runner.execute b campaign spec channel s = some f) :
    ∃ torn : List String × Option String × Run σ,
      outcomeOf (runner.attempted b campaign spec channel s).1 = some f.result.outcome ∧
      torn = (runner.attempted b campaign spec channel s).2.tearDown b
        runner.settings.trial.cleanupTimeout runner.cleanup f.result.outcome.isEngineError ∧
      f.result.diagnostics = torn.2.2.diagnostics torn.1 ∧ f.result.cleanupWarning = torn.2.1 ∧
      f.runner.phase = torn.2.2.phase ∧ f.campaign = torn.2.2.campaign ∧
      f.journal = torn.2.2.journal ∧
      f.runner = { runner with injector := torn.2.2.injector, phase := torn.2.2.phase } ∧
      f.world = torn.2.2.world := by
  unfold execute at h
  rw [← attempted] at h
  generalize runner.attempted b campaign spec channel s = attempted at h ⊢
  obtain ⟨answer, r⟩ := attempted
  dsimp only at h ⊢
  split at h
  next => cases h
  next outcome houtcome =>
    generalize htorn : r.tearDown b runner.settings.trial.cleanupTimeout runner.cleanup
      outcome.isEngineError = torn at h
    obtain ⟨lingering, warning, r'⟩ := torn
    cases h
    exact ⟨⟨lingering, warning, r'⟩, houtcome, htorn.symm, rfl, rfl, rfl, rfl, rfl, rfl, rfl⟩

/-- However an attempt ends, its journal keeps to the protocol. -/
theorem Run.Closes.path {events : List Event} {attempted : Except Halt Outcome × Run σ}
    (h : Run.Closes events attempted) :
    ∃ st, Path { left := events } attempted.2.journal.deeds st := by
  obtain ⟨answer, r⟩ := attempted
  cases answer with
  | ok outcome =>
      obtain ⟨st, hr, -⟩ := h
      exact ⟨st, hr.path⟩
  | error halt =>
      cases halt with
      | failed cause =>
          obtain ⟨st, hr, -⟩ := h
          exact ⟨st, hr.path⟩
      | clockOverflow => exact h

/-- An attempt with an outcome has ended with nothing held. Its driver has been seen to end unless
the harness has failed. -/
theorem Run.Closes.of_outcome {events : List Event} {attempted : Except Halt Outcome × Run σ}
    {outcome : Outcome} (h : Run.Closes events attempted)
    (houtcome : Runner.outcomeOf attempted.1 = some outcome) :
    ∃ st, Run.Follows events (if st.exited then st.left else []) attempted.2 st ∧ st.held = none ∧
      st.exited = (!outcome.isEngineError) ∧ (st.exited = true → st.phase = .checking) := by
  obtain ⟨answer, r⟩ := attempted
  cases answer with
  | ok outcome' =>
      cases houtcome
      obtain ⟨st, hr, hheld, hexited, hphase, hverdict⟩ := h
      exact ⟨st, by rwa [if_pos hexited], hheld, by rw [hexited, hverdict]; rfl, fun _ => hphase⟩
  | error halt =>
      cases halt with
      | failed cause =>
          cases houtcome
          obtain ⟨st, hr, hheld, hrunning⟩ := h
          exact ⟨st, by rwa [if_neg (by simp [hrunning])], hheld, hrunning, by simp [hrunning]⟩
      | clockOverflow => cases houtcome

theorem Runner.execute_closes {runner : Runner} {campaign : CampaignState} {spec : TrialSpec}
    {channel : Except ChannelError String} {s : σ} {f : Finished σ}
    (h : runner.execute b campaign spec channel s = some f) :
    ∃ st, f.Closes (runner.events b campaign spec s) runner.cleanup
      (runner.attempted b campaign spec channel s).2.journal.deeds st := by
  obtain ⟨torn, houtcome, htorn, hdiagnostics, hwarning, hphase, hcampaign, hjournal, -, -⟩ :=
    execute_eq h
  obtain ⟨st, hr, hheld, hexited, hchecking⟩ :=
    (attempted_closes runner campaign spec channel s).of_outcome houtcome
  have htears := Run.tearDown_tearsDown (b := b) runner.settings.trial.cleanupTimeout
    runner.cleanup f.result.outcome.isEngineError (hr.phase ▸ hr.path.open.1)
  rw [← htorn] at htears
  exact ⟨st, {
    path := hr.path
    answered := hheld
    exited := hexited
    checking := hchecking
    deeds := by
      rw [hjournal, hdiagnostics, hwarning]
      exact htears.deeds
    phase := hphase.trans htears.phase
    finalState := by
      rw [hdiagnostics, hphase]
      rfl
    cleared := by
      rw [hcampaign]
      exact htears.cleared
    fired := by
      rw [hdiagnostics]
      exact htears.fired.trans hr.fired
    skipped := by
      rw [hdiagnostics]
      exact htears.skipped.trans hr.skipped }⟩

/-! ### The phases of a trial -/

/-- The phases after which nothing is injected any more. -/
def Phase.isLate : Phase → Bool
  | .driverCompleting | .checking | .cleaningUp | .done | .aborted => true
  | _ => false

theorem Phase.Leads.isLate {p q : Phase} (h : p.Leads q) (hp : p.isLate = true) :
    q.isLate = true := by
  revert h hp
  cases p <;> cases q <;> decide

theorem Phase.isLate_of_isChain {p : Phase} {l : List Phase} (h : List.IsChain Leads (p :: l))
    (hp : p.isLate = true) : ∀ q ∈ l, q.isLate = true := by
  induction l generalizing p with
  | nil => nofun
  | cons q l ih =>
      have hq : q.isLate = true := (List.isChain_cons_cons.mp h).1.isLate hp
      intro q' hq'
      rcases List.mem_cons.mp hq' with rfl | hq'
      · exact hq
      · exact ih (List.isChain_cons_cons.mp h).2 hq q' hq'

/-- A trial is torn down once, in the right order, and its phases follow the diagram. -/
structure Finished.TornDown (cleanup : Option Script) (f : Finished σ) : Prop where
  /-- The journal ends with the deeds of a teardown, of which none comes before. -/
  once : ∃ before failures, f.journal.deeds = before ++
      teardown failures f.result.diagnostics.lingeringFaults cleanup f.result.cleanupWarning
        f.result.outcome.isEngineError ∧
    ∀ d ∈ before, d.isTeardown = false
  phase : f.runner.phase = if f.result.outcome.isEngineError then .aborted else .done
  finalState : f.result.diagnostics.finalState = f.runner.phase.name
  /-- The campaign checks no invariant any more. -/
  cleared : f.campaign.current = none
  diagram : List.IsChain Phase.Leads (.init :: f.journal.phases)
  /-- Nothing is injected once the driver may run to its end. -/
  injecting : ∀ before after, f.journal.phases = before ++ .driverCompleting :: after →
    .injecting ∉ after
  /-- The check comes after the end of the driver has been observed. -/
  checking : ∀ before after, f.journal.deeds = before ++ .enter .checking :: after →
    before.any Deed.isExit = true

/-- A deed that is not of the last part of a list stands in the first. -/
theorem append_cons_eq_append {α : Type} {before after first last : List α} {a : α}
    (h : before ++ a :: after = first ++ last) (ha : a ∉ last) :
    ∃ between, first = before ++ a :: between ∧ after = between ++ last := by
  rcases List.append_eq_append_iff.mp h with ⟨between, hfirst, hlast⟩ | ⟨between, hbefore, hlast⟩
  · cases between with
    | nil =>
        rw [List.nil_append] at hlast
        exact absurd (hlast ▸ List.mem_cons_self) ha
    | cons a' between =>
        cases hlast
        exact ⟨between, hfirst, rfl⟩
  · exact absurd (hlast ▸ List.mem_append_right _ List.mem_cons_self) ha

theorem phases_teardown (failures lingering : List String) (cleanup : Option Script)
    (warning : Option String) (aborted : Bool) :
    (teardown failures lingering cleanup warning aborted).filterMap Deed.phase? =
      [.cleaningUp, if aborted then .aborted else .done] := by
  cases cleanup <;> rfl

theorem Finished.Closes.tornDown {events : List Event} {cleanup : Option Script} {ds : List Deed}
    {st : Standing} {f : Finished σ} (h : f.Closes events cleanup ds st) : f.TornDown cleanup := by
  obtain ⟨failures, hdeeds⟩ := h.deeds
  obtain ⟨hopen, hbefore⟩ := h.path.open
  have hphases : f.journal.phases = ds.filterMap Deed.phase? ++
      [.cleaningUp, if f.result.outcome.isEngineError then .aborted else .done] := by
    rw [Journal.phases, hdeeds, List.filterMap_append, phases_teardown]
  have hdiagram : List.IsChain Phase.Leads (.init :: f.journal.phases) := by
    rw [hphases, ← List.cons_append, List.isChain_append]
    refine ⟨h.path.charts.chain, ?_, fun p hp q hq => ?_⟩
    · split <;> decide
    · rw [h.path.charts.last] at hp
      cases hp
      cases hq
      exact Phase.leads_cleaningUp hopen
  refine ⟨⟨ds, failures, hdeeds, hbefore⟩, h.phase, h.finalState, h.cleared, hdiagram, ?_, ?_⟩
  · intro before after hsplit hmem
    rw [hsplit, ← List.cons_append] at hdiagram
    have hchain := (List.isChain_append.mp hdiagram).2.1
    cases Phase.isLate_of_isChain hchain rfl _ hmem
  · intro before after hsplit
    rw [hdeeds] at hsplit
    obtain ⟨between, hds, -⟩ := append_cons_eq_append hsplit.symm (by
      simp [teardown]
      split <;> simp)
    exact Path.checking (hds ▸ h.path)

theorem Runner.attempted_of_execute_eq_none {runner : Runner} {campaign : CampaignState}
    {spec : TrialSpec} {channel : Except ChannelError String} {s : σ}
    (h : runner.execute b campaign spec channel s = none) :
    (runner.attempted b campaign spec channel s).1 = .error .clockOverflow := by
  unfold execute at h
  rw [← attempted] at h
  generalize runner.attempted b campaign spec channel s = attempted at h ⊢
  obtain ⟨answer, r⟩ := attempted
  dsimp only at h ⊢
  split at h
  next houtcome =>
    cases answer with
    | ok outcome => cases houtcome
    | error halt =>
        cases halt with
        | failed cause => cases houtcome
        | clockOverflow => rfl
  next => cases h

/-- A trial without a result has been stopped where the clock came to its end. -/
theorem Runner.clockEnds_of_execute {runner : Runner} {campaign : CampaignState}
    {spec : TrialSpec} {channel : Except ChannelError String} {s : σ}
    (h : runner.execute b campaign spec channel s = none) :
    ClockEnds b runner.settings (runner.events b campaign spec s)
      (runner.attempted b campaign spec channel s).2 :=
  Run.clockEnds_of_attempt (fun _ hplan => (events_eq hplan).symm) ⟨.nil _, rfl, rfl, rfl, rfl⟩
    (Prod.ext (attempted_of_execute_eq_none h) rfl)

/-- A trial has a result if its attempt ends at a time from which the clock can show the time limit
and the end of the settling, and the delays at no checkpoint are too long. -/
theorem Runner.isSome_execute {runner : Runner} {campaign : CampaignState} {spec : TrialSpec}
    {channel : Except ChannelError String} {s : σ} {latest : Nat}
    (hnow : b.now (runner.attempted b campaign spec channel s).2.world ≤ latest)
    (hlimit : (Run.later? latest runner.settings.trial.trialTimeout).isSome)
    (hsettle : (Run.later? latest runner.settings.trial.settle).isSome)
    (hdelays : ¬Overlong (runner.events b campaign spec s)) :
    (runner.execute b campaign spec channel s).isSome := by
  rw [Option.isSome_iff_ne_none]
  intro hnone
  cases clockEnds_of_execute hnone with
  | limit _ hlate => simp [Run.later?_eq_none_of_le hnow hlate] at hlimit
  | delays _ hoverlong => exact hdelays hoverlong
  | settling _ hlate => simp [Run.later?_eq_none_of_le hnow hlate] at hsettle

/-- Every trial is torn down, whichever way it goes, unless the clock comes to its end. -/
theorem Runner.tornDown_or_clockEnds (b : Bench σ) (runner : Runner) (campaign : CampaignState)
    (spec : TrialSpec) (channel : Except ChannelError String) (s : σ) :
    match runner.execute b campaign spec channel s with
    | some f => f.TornDown runner.cleanup
    | none => ClockEnds b runner.settings (runner.events b campaign spec s)
        (runner.attempted b campaign spec channel s).2 := by
  split
  next f heq =>
    obtain ⟨st, hcloses⟩ := execute_closes heq
    exact hcloses.tornDown
  next heq => exact clockEnds_of_execute heq

/-! ### A drill without an end -/

open Rehearsal (Scene)

/-- A configuration with a time limit for trials and two targets. -/
def drillConfig (trialTimeoutSecs : UInt64) : Config where
  trial := { trialTimeoutSecs := trialTimeoutSecs, settleMs := 20 }
  injector := { targets :=
    [{ name := "leader", pid := some 10 }, { name := "follower", pid := some 11 }] }

/-- The settings of such a configuration. -/
def drillSettings (trialTimeoutSecs : UInt64) : Settings where
  channel := .ofConfig {}
  trial := .ofConfig (drillConfig trialTimeoutSecs).trial
  campaign := {}
  injector := .ofConfig (drillConfig trialTimeoutSecs).injector
  checker := {}

/-- A runner with these settings, whose driver is a stand-in. -/
def drillRunner (trialTimeoutSecs : UInt64) : Runner :=
  .new (drillSettings trialTimeoutSecs) ⟨Rehearsal.standInName, []⟩ none

/-- A plan with an event at the first checkpoint, two at the second, and one at the third. -/
def drillPlan : Plan where
  id := "drill"
  invariant := ⟨"stable", .default, ""⟩
  events := [⟨"1", "leader", .pause⟩, ⟨"2", "leader", .resume⟩, ⟨"2", "follower", .pause⟩,
    ⟨"3", "follower", .resume⟩]
  metadata := .empty

/-- A trial with that plan. -/
def drillSpec : TrialSpec where
  plan := .loaded drillPlan

/-- A scene whose driver waits until a reporter has reported some checkpoints. -/
def drillScene (checkpoints : List Checkpoint) : Scene :=
  { machine := { controller := .simulated [10, 11] 0 [] false }, standIn := [.gate] : Scene }
    |>.placeReporter (checkpoints.map fun id => .report (.checkpoint id))

/-- The longest time limit passes both validations. A trial with it stops after its driver has been
started: it has no result, and it is not torn down. -/
theorem endless_not_tornDown :
    Config.validate (drillConfig 18446744073709551615) = .ok () ∧
    Settings.ofConfig (drillConfig 18446744073709551615) =
      .ok (drillSettings 18446744073709551615) ∧
    ((drillRunner 18446744073709551615).execute Scene.bench { stage := .injection } drillSpec
      (.ok "memory") (drillScene ["1"])).isNone = true ∧
    ((drillRunner 18446744073709551615).attempted Scene.bench { stage := .injection } drillSpec
      (.ok "memory") (drillScene ["1"])).2.journal.phases = [.planLoaded, .driverLaunched] :=
  ⟨by decide +kernel, rfl, by decide +kernel, by decide +kernel⟩

end FaultDrill
