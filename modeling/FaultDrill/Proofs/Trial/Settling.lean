import FaultDrill.Proofs.Trial.Registration

/-!
# FaultDrill.Proofs.Trial.Settling

Which reports of the driver the check is told of. It is told of the messages that have been received
before it, which are the first that the channel has accepted. After the driver has ended the runner
goes on receiving, and if it does so until it finds the queue empty, then no report is missing that
was accepted before the driver ended (`Runner.observes`).

But the time for this is looked at before the queue is, and it may be none: then what was accepted
and not yet received when the driver was seen to end is lost, though its reporter was told that all
was well (`accepted_not_observed`).
-/

namespace FaultDrill

variable {σ : Type} {b : Bench σ}

/-- What a check is told of the variables, when the given deeds have come before it and the given
state of the bench comes after it. -/
structure QueueView.Told (view : QueueView b) (before : List Deed) (o : Observation) (s : σ) :
    Prop where
  state : o.state = reportedState (messagesOf before)
  /-- A variable has the value that was reported last. -/
  last : ∀ var value, o.state.get? var = some value ↔
    ∃ earlier m later, messagesOf before = earlier ++ m :: later ∧
      m.variable? = some (var, value) ∧ ∀ m' ∈ later, ∀ v, m'.variable? ≠ some (var, v)
  received : messagesOf before <+: view.accepted s
  /-- If the last wait has found the queue empty, everything counts that was accepted before the
  driver ended. -/
  complete : ∃ n, view.atExit s = some n ∧
    (view.Emptied s → (view.accepted s).take n <+: messagesOf before)

/-- What the check of a trial is told. A trial that comes to a verdict has a check. -/
structure Finished.Observes (view : QueueView b) (f : Finished σ) : Prop where
  checked : f.result.outcome.isEngineError = false → ∃ o, .check o ∈ f.journal.deeds
  told : ∀ before o after, f.journal.deeds = before ++ .check o :: after →
    view.Told before o f.world

theorem check_notMem_teardown (o : Observation) (failures lingering : List String)
    (cleanup : Option Script) (warning : Option String) (aborted : Bool) :
    .check o ∉ teardown failures lingering cleanup warning aborted := by
  cases cleanup <;> simp [teardown]

namespace QueueView

variable {view : QueueView b} {r r₁ : Run σ} {s : σ}

/-- A check that comes when everything received has been taken over is told of everything
received. -/
theorem told_of_leads {before : List Deed} {o : Observation} (hknows : view.Knows r)
    (hsees : view.Sees r) (hreports : r.inbox.reports = {})
    (hexited : r.journal.deeds.any Deed.isExit = true) (hleads : b.Leads r.world s)
    (hmessages : messagesOf before = messagesOf r.journal.deeds) (hstate : o.state = r.state) :
    view.Told before o s := by
  obtain ⟨hgrows, hreceived, hlast, hmark⟩ := view.leads hleads
  have hbefore : messagesOf before = view.received s := by
    rw [hmessages, ← hknows.received, hreceived]
  have htold : o.state = reportedState (messagesOf before) := by
    have htaken := hknows.state
    rw [hreports] at htaken
    rw [hstate, hmessages, ← htaken]
    rfl
  refine ⟨htold, fun var value => ?_, ?_, ?_⟩
  · rw [htold]
    exact get?_latest
  · rw [hbefore]
    exact view.ordered s
  · obtain ⟨n, hn, hle, hall⟩ := hsees hexited
    refine ⟨n, hmark n hn, fun hemptied => ?_⟩
    have hcount : n ≤ (view.received s).length := by
      rw [hreceived]
      refine hall ?_
      unfold Emptied at hemptied ⊢
      rwa [hlast] at hemptied
    rw [hbefore]
    refine List.prefix_of_prefix_length_le (List.take_prefix n _) (view.ordered s) ?_
    exact (List.length_take_le n _).trans hcount

/-- What the check of an attempt is told. -/
theorem told_of_attempts {settings : Settings} {attempted : Except Halt Outcome × Run σ}
    (hknows : view.Knows r) (hsees : view.Sees r) (hjournal : r.journal = [])
    (h : Run.Attempts b settings r attempted) (hleads : b.Leads attempted.2.world s)
    {before after : List Deed} {o : Observation}
    (hcheck : attempted.2.journal.deeds = before ++ .check o :: after) : view.Told before o s := by
  cases h with
  | failed hmoves =>
      have hmem := List.mem_append_right before (List.mem_cons_self (a := .check o) (l := after))
      rw [← hcheck] at hmem
      cases Run.isMove_of_moves hmoves hjournal hmem
  | @checked _ check r₁ r₂ hmoves hreports hexited hlast =>
      obtain ⟨healed, o', hchecked, hheals, hstate⟩ :=
        Run.deeds_checked (b := b) settings.trial.healBeforeCheck check r₁
      obtain ⟨ds, hds, hasides⟩ := hlast.deeds
      have hhealed : messagesOf healed = [] := messagesOf_eq_nil fun d hd => by
        obtain ⟨failures, rfl⟩ := hheals d hd
        rfl
      have hfirst : .check o ∉ r₁.journal.deeds ++ healed := fun hmem => by
        rcases List.mem_append.mp hmem with hmem | hmem
        · cases Run.isMove_of_moves hmoves hjournal hmem
        · obtain ⟨failures, heq⟩ := hheals _ hmem
          cases heq
      have hlater : .check o ∉ ds := fun hmem => by cases hasides _ hmem
      have hsplit : r₁.journal.deeds ++ healed ++ .check o' :: ds = before ++ .check o :: after := by
        rw [← hcheck]
        dsimp only
        rw [hds, hchecked]
        simp
      obtain ⟨rfl, hsame, -⟩ := (List.append_cons_inj_of_notMem hfirst hlater).mp hsplit
      cases hsame
      refine told_of_leads (hknows.moves hmoves) (hsees.moves hmoves) hreports hexited ?_ ?_ hstate
      · exact ((Run.leads_checked _ check r₁).trans hlast.world).trans hleads
      · rw [messagesOf_append, hhealed, List.append_nil]

end QueueView

/-- The check is told of every report that was accepted before the driver ended, if the queue was
found empty in the end. -/
theorem Runner.observes (view : QueueView b) {runner : Runner} (hused : runner.Used b)
    {campaign : CampaignState} {spec : TrialSpec} {channel : Except ChannelError String} {s : σ}
    {f : Finished σ} (hfresh : view.received s = [])
    (h : runner.execute b campaign spec channel s = some f) : f.Observes view := by
  have hknows := view.knows_start hused campaign spec hfresh
  have hsees : view.Sees (runner.start b campaign spec s) := nofun
  have hattempts := attempted_attempts b runner campaign spec channel s
  obtain ⟨-, houtcome, -⟩ := execute_eq h
  obtain ⟨-, lingering, warning, aborted, hdeeds⟩ := deeds_execute h
  constructor
  · intro hverdict
    rw [hdeeds]
    generalize runner.attempted b campaign spec channel s = attempted at hattempts houtcome
    cases hattempts with
    | @failed halt =>
        cases halt with
        | failed cause =>
            rw [← Option.some.inj houtcome] at hverdict
            cases hverdict
        | clockOverflow => cases houtcome
    | @checked _ check r₁ r₂ _ _ _ hlast =>
        obtain ⟨healed, o, hchecked, -, -⟩ :=
          Run.deeds_checked (b := b) runner.settings.trial.healBeforeCheck check r₁
        obtain ⟨ds, hds, -⟩ := hlast.deeds
        exact ⟨o, by simp [hds, hchecked]⟩
  · intro before o after hcheck
    rw [hdeeds] at hcheck
    obtain ⟨between, hbetween, -⟩ := append_cons_eq_append hcheck.symm
      (check_notMem_teardown o _ _ _ _ _)
    exact QueueView.told_of_attempts hknows hsees rfl hattempts (leads_execute h) hbetween

/-! ### Reports at the last moment -/

/-- The variables that a check is told of. -/
def Deed.told? : Deed → Option (SortedMap String String)
  | .check o => some o.state
  | _ => none

/-- Two reports of a variable. -/
def lastReports : List Message :=
  [⟨0, .state "rows" "1"⟩, ⟨1, .state "rows" "100"⟩]

/-- A playback in which the driver ends just after these reports were accepted. -/
def lastMoment : Playback where
  cues := [{ messages := lastReports, exit := some (.exited 0) }]
  listening := true

/-- The reports are still in the queue when the driver is seen to end, and are received while the
runner waits for late ones. -/
theorem Runner.observes_lastMoment : ∃ f,
    (drillRunner 600).execute Playback.bench { stage := .selection } drillSpec (.ok "memory")
      lastMoment = some f ∧
    f.Observes Playback.queueView ∧ Playback.queueView.Emptied f.world ∧
    Playback.queueView.atExit f.world = some 2 ∧
    f.journal.deeds.filterMap Deed.told? = [.ofList [("rows", "100")]] := by
  have hrun : ((drillRunner 600).execute Playback.bench { stage := .selection } drillSpec
      (.ok "memory") lastMoment).map (fun f =>
        (f.world.lastWait.map fun (w, wake) => (w.channel, wake), f.world.atExit,
          f.journal.deeds.filterMap Deed.told?)) =
      some (some (true, .timedOut), some 2, [.ofList [("rows", "100")]]) := by
    decide +kernel
  obtain ⟨f, hf, htold⟩ := Option.map_eq_some_iff.mp hrun
  simp only [Prod.mk.injEq] at htold
  obtain ⟨hlast, hexit, hstate⟩ := htold
  obtain ⟨⟨w, wake⟩, hwait, hended⟩ := Option.map_eq_some_iff.mp hlast
  obtain ⟨hchannel, hwake⟩ := Prod.mk.injEq .. ▸ hended
  exact ⟨f, hf, observes Playback.queueView (.new _ _ _) rfl hf,
    ⟨w, wake, hwait, hchannel, .inl hwake⟩, hexit, hstate⟩

/-- A configuration that leaves no time for late reports. -/
def hastyConfig : Config :=
  { drillConfig 600 with trial := { (drillConfig 600).trial with settleMs := 0 } }

/-- The settings of this configuration. -/
def hastySettings : Settings :=
  { drillSettings 600 with trial := .ofConfig hastyConfig.trial }

/-- The configuration passes both validations. With it the check is told of neither report, although
both were accepted before the driver ended. -/
theorem accepted_not_observed :
    Config.validate hastyConfig = .ok () ∧ Settings.ofConfig hastyConfig = .ok hastySettings ∧
    ∃ f, (Runner.new hastySettings (drillRunner 600).driver none).execute Playback.bench
        { stage := .selection } drillSpec (.ok "memory") lastMoment = some f ∧
      f.result.outcome.isEngineError = false ∧
      Playback.queueView.accepted f.world = lastReports ∧
      Playback.queueView.atExit f.world = some 2 ∧
      f.journal.deeds.filterMap Deed.told? = [.empty] := by
  have hrun : ((Runner.new hastySettings (drillRunner 600).driver none).execute Playback.bench
      { stage := .selection } drillSpec (.ok "memory") lastMoment).map (fun f =>
        (f.result.outcome.isEngineError, f.world.received ++ f.world.queue, f.world.atExit,
          f.journal.deeds.filterMap Deed.told?)) =
      some (false, lastReports, some 2, [.empty]) := by
    decide +kernel
  obtain ⟨f, hf, htold⟩ := Option.map_eq_some_iff.mp hrun
  simp only [Prod.mk.injEq] at htold
  exact ⟨by decide +kernel, rfl, f, hf, htold⟩

end FaultDrill
