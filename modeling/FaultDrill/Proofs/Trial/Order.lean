import FaultDrill.Proofs.Trial.Teardown

/-!
# FaultDrill.Proofs.Trial.Order

The events of a plan strike in the order of the plan. Whatever happens during a trial, the events
that it has tried are those at the front of the plan, each of them once, and only the last of them
may have failed (`Runner.events_in_order`). The result accounts for them: it names those that have
struck and, if the driver has come to its end, those that have not.
-/

namespace FaultDrill

open Standing (Path IsSilent)

variable {σ : Type} {b : Bench σ}

/-- The injections of a journal keep to the order of events. -/
structure Journal.InOrder (events : List Event) (j : Journal) : Prop where
  inPlan : j.injections.map (·.1) <+: events
  /-- An event is injected only while a report of its own checkpoint is handled: that report is the
  last message that has come, and nobody has been released since. -/
  handled : ∀ before after e reported registered succeeded,
    j.deeds = before ++ .inject e reported registered succeeded :: after →
    e.checkpoint = reported ∧
      ∃ t earlier since, before = earlier ++ .receive ⟨t, .checkpoint e.checkpoint⟩ :: since ∧
        ∀ d ∈ since, IsSilent d

/-- What a result tells about the events of a plan. -/
structure Finished.Accounts (stage : Stage) (events : List Event) (f : Finished σ) : Prop where
  order : f.journal.InOrder events
  /-- The events that have struck are those that were injected, less the last one if it failed. -/
  fired : ∃ failed : Option Event, f.journal.injections =
    f.result.diagnostics.eventsFired.map (·, true) ++ failed.toList.map (·, false)
  /-- If the driver has come to its end, no event is left out. -/
  skipped : stage = .injection → f.journal.deeds.any Deed.isExit = true →
    f.result.diagnostics.eventsFired ++ f.result.diagnostics.eventsSkipped = events
  selection : stage = .selection → f.journal.injections = [] ∧
    f.result.diagnostics.eventsFired = [] ∧ f.result.diagnostics.eventsSkipped = []

theorem Journal.injections_eq {j : Journal} {ds last : List Deed} (hdeeds : j.deeds = ds ++ last)
    (hlast : ∀ d ∈ last, d.injection? = none) :
    j.injections = ds.filterMap Deed.injection? := by
  rw [Journal.injections, hdeeds, List.filterMap_append, List.filterMap_eq_nil_iff.mpr hlast,
    List.append_nil]

/-- A journal that keeps to the protocol, and goes on without injections, keeps to the order. -/
theorem Journal.inOrder_of_path {events : List Event} {ds last : List Deed} {st : Standing}
    {j : Journal} (h : Path { left := events } ds st) (hdeeds : j.deeds = ds ++ last)
    (hlast : ∀ d ∈ last, d.injection? = none) : j.InOrder events where
  inPlan := by
    have haccount := h.account
    have htried : (st.fired.map (·, true) ++ st.failed.toList.map (·, false)).map (·.1) =
        st.fired ++ st.failed.toList := by
      simp [Function.comp_def]
    rw [j.injections_eq hdeeds hlast, haccount.injections, htried, ← haccount.total]
    exact List.prefix_append _ _
  handled before after e reported registered succeeded hsplit := by
    have hinject : Deed.inject e reported registered succeeded ∉ last := fun hmem => by
      cases hlast _ hmem
    obtain ⟨between, hds, -⟩ := append_cons_eq_append (hsplit.symm.trans hdeeds) hinject
    obtain ⟨he, hhandled⟩ := Path.injected (hds ▸ h)
    exact ⟨he, he ▸ hhandled⟩

theorem Journal.InOrder.mono {events all : List Event} {j : Journal} (h : j.InOrder events)
    (hevents : events <+: all) : j.InOrder all :=
  ⟨h.inPlan.trans hevents, h.handled⟩

theorem eventsIn_isPrefix (stage : Stage) (plan : Plan) :
    Run.eventsIn stage plan <+: plan.events := by
  cases stage with
  | selection => exact List.nil_prefix
  | injection => exact List.prefix_refl _

theorem injection?_teardown (failures lingering : List String) (cleanup : Option Script)
    (warning : Option String) (aborted : Bool) :
    ∀ d ∈ teardown failures lingering cleanup warning aborted, d.injection? = none := by
  cases cleanup <;> simp [teardown, Deed.injection?]

theorem isExit_teardown (failures lingering : List String) (cleanup : Option Script)
    (warning : Option String) (aborted : Bool) :
    (teardown failures lingering cleanup warning aborted).any Deed.isExit = false := by
  cases cleanup <;> rfl

theorem Finished.Closes.accounts {cleanup : Option Script} {stage : Stage} {plan : Plan}
    {ds : List Deed} {st : Standing} {f : Finished σ}
    (h : f.Closes (Run.eventsIn stage plan) cleanup ds st) : f.Accounts stage plan.events := by
  obtain ⟨failures, hdeeds⟩ := h.deeds
  have haccount := h.path.account
  have hinjections := f.journal.injections_eq hdeeds (injection?_teardown _ _ _ _ _)
  refine ⟨(Journal.inOrder_of_path h.path hdeeds (injection?_teardown _ _ _ _ _)).mono
    (eventsIn_isPrefix stage plan), ⟨st.failed, ?_⟩, fun hstage hexit => ?_, fun hstage => ?_⟩
  · rw [hinjections, h.fired, haccount.injections]
  · rw [hdeeds, List.any_append, isExit_teardown, Bool.or_false, ← h.path.exited] at hexit
    have htotal := haccount.total
    rw [h.path.failed_of_exited hexit, hstage] at htotal
    rw [h.fired, h.skipped, if_pos hexit]
    simpa [Run.eventsIn] using htotal
  · have htotal := haccount.total
    rw [hstage] at htotal
    obtain ⟨hfired, hfailed, hleft⟩ : st.fired = [] ∧ st.failed = none ∧ st.left = [] := by
      simpa [Run.eventsIn] using htotal
    refine ⟨?_, by rw [h.fired, hfired], ?_⟩
    · rw [hinjections, haccount.injections, hfired, hfailed]
      rfl
    · rw [h.skipped, hleft, ite_self]

/-- The events of a plan strike in its order. The injections keep to it also where the clock comes
to its end and there is no result; in the stage of selection there are none. -/
theorem Runner.events_in_order {runner : Runner} {campaign : CampaignState} {spec : TrialSpec}
    {s : σ} {plan : Plan} (hplan : (runner.start b campaign spec s).loadPlan b spec.plan = .ok plan)
    (channel : Except ChannelError String) :
    (runner.attempted b campaign spec channel s).2.journal.InOrder
        (Run.eventsIn campaign.stage plan) ∧
      ∀ f, runner.execute b campaign spec channel s = some f →
        f.Accounts campaign.stage plan.events := by
  have hevents := events_eq hplan
  constructor
  · obtain ⟨st, hpath⟩ := (attempted_closes (b := b) runner campaign spec channel s).path
    rw [hevents] at hpath
    exact Journal.inOrder_of_path hpath (List.append_nil _).symm nofun
  · intro f heq
    obtain ⟨st, hcloses⟩ := execute_closes heq
    rw [hevents] at hcloses
    exact hcloses.accounts

open Rehearsal (Scene)

/-- A drill in which the reports of the second and the third checkpoint come in the wrong order: the
report of the third finds nothing due, and its event is left out. -/
theorem Runner.events_in_order_drill :
    ((drillRunner 600).attempted Scene.bench { stage := .injection } drillSpec (.ok "memory")
      (drillScene ["1", "3", "2"])).2.journal.InOrder drillPlan.events ∧
    ∃ f, (drillRunner 600).execute Scene.bench { stage := .injection } drillSpec (.ok "memory")
        (drillScene ["1", "3", "2"]) = some f ∧
      f.Accounts .injection drillPlan.events ∧
      f.result.diagnostics.eventsFired = drillPlan.events.take 3 ∧
      f.result.diagnostics.eventsSkipped = drillPlan.events.drop 3 := by
  have hrun : ((drillRunner 600).execute Scene.bench { stage := .injection } drillSpec
      (.ok "memory") (drillScene ["1", "3", "2"])).map (fun f =>
        (f.result.diagnostics.eventsFired, f.result.diagnostics.eventsSkipped)) =
      some (drillPlan.events.take 3, drillPlan.events.drop 3) := by
    decide +kernel
  obtain ⟨f, hf, htold⟩ := Option.map_eq_some_iff.mp hrun
  have hplan : ((drillRunner 600).start Scene.bench { stage := .injection } drillSpec
      (drillScene ["1", "3", "2"])).loadPlan Scene.bench drillSpec.plan = .ok drillPlan := rfl
  obtain ⟨horder, haccounts⟩ := events_in_order hplan (.ok "memory")
  exact ⟨horder, f, hf, haccounts f hf, congrArg Prod.fst htold, congrArg Prod.snd htold⟩

end FaultDrill
