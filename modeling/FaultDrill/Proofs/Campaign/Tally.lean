import FaultDrill.Cli.Task
import FaultDrill.Proofs.Campaign.Replay
import FaultDrill.Proofs.Trial.Identity
import FaultDrill.Proofs.Trial.Teardown

/-!
# FaultDrill.Proofs.Campaign.Tally

**A campaign has one result for each trial it has run, and it runs all that are planned unless a stop
is asked for** (`Campaign.runInvariants_tallied`). What a campaign does is told trial by trial
(`CampaignRun.Performed`), with an entry for each (`TrialEntry`): its result, and the path that the
recorder has given for it. One trial adds the result of its entry, counts it once, and adds the path
if there is one (`CampaignRun.adds_of_trial`), so the results and the paths in a report are those of
the entries, in their order. Only a violation has a path, which is made of the trial's own plan,
invariant and id (`TrialEntry.Filed`).

A campaign without a report has been ended by the clock in one of its trials, like the trial itself
(`Campaign.ClockStops`).
-/

namespace FaultDrill

variable {σ : Type}

theorem Outcome.isEngineError_iff {o : Outcome} :
    o.isEngineError = true ↔ o.kind = "engine_error" := by
  cases o <;> simp [isEngineError, kind]

theorem Outcome.kind_cases (o : Outcome) : o.kind = "pass" ∨ o.kind = "violation" ∨
    o.kind = "inconclusive" ∨ o.kind = "engine_error" := by
  cases o <;> simp [kind]

/-! ### What a report says of its results -/

namespace CampaignReport

/-- The summary counts the results of each kind. -/
structure Tallied (r : CampaignReport) : Prop where
  pass : r.summary.pass = r.results.countP (·.outcome.kind = "pass")
  violation : r.summary.violation = r.results.countP (·.outcome.kind = "violation")
  inconclusive : r.summary.inconclusive = r.results.countP (·.outcome.kind = "inconclusive")
  engineError : r.summary.engineError = r.results.countP (·.outcome.kind = "engine_error")

variable {r : CampaignReport}

theorem Tallied.total (h : r.Tallied) : r.summary.total = r.results.length := by
  have hkinds : ∀ results : List TrialResult,
      results.countP (·.outcome.kind = "pass") + results.countP (·.outcome.kind = "violation") +
        results.countP (·.outcome.kind = "inconclusive") +
          results.countP (·.outcome.kind = "engine_error") = results.length := by
    intro results
    induction results with
    | nil => rfl
    | cons result rest ih =>
        simp only [List.countP_cons, List.length_cons]
        rcases result.outcome.kind_cases with h | h | h | h <;> simp [h] <;> omega
  unfold Summary.total
  rw [h.pass, h.violation, h.inconclusive, h.engineError, hkinds]

/-- The harness has failed if there are results and all of them are its own errors. -/
theorem Tallied.engineFailed_iff (h : r.Tallied) : r.engineFailed = true ↔
    r.results ≠ [] ∧ ∀ result ∈ r.results, result.outcome.isEngineError = true := by
  unfold engineFailed
  rw [h.total, h.engineError, Bool.and_eq_true, beq_iff_eq, List.countP_eq_length]
  simp [Outcome.isEngineError_iff]

end CampaignReport

/-- The exit code of a campaign. -/
theorem Cli.exitCode_ofReport {r : CampaignReport} (h : r.Tallied) :
    ({ failure := Failure.ofReport? r } : CommandResult).exitCode =
      if r.interrupted then 130
      else if r.results ≠ [] ∧ ∀ result ∈ r.results, result.outcome.isEngineError = true then 4
      else 0 := by
  unfold CommandResult.exitCode Failure.ofReport?
  cases r.interrupted with
  | true => rfl
  | false =>
      simp only [Bool.false_eq_true, if_false, ← h.engineFailed_iff]
      cases r.engineFailed <;> rfl

/-! ### One trial -/

/-- The name of the invariant that a trial is given. -/
def PlannedTrial.name? (t : PlannedTrial) : Option String :=
  t.spec.invariant.map (·.name)

/-- A trial that has been run, with its result and the path that the recorder has given for it. -/
structure TrialEntry where
  planned : PlannedTrial
  result : TrialResult
  record : Option String

/-- Only a violation has a record. It stands in the directory of the recorder, and is named for the
plan of the trial with the invariant that was checked, and for the trial itself. -/
def TrialEntry.Filed (recorder : Recorder) (entry : TrialEntry) : Prop :=
  ∀ path, entry.record = some path → entry.result.outcome.isViolation = true ∧
    ∃ dir plan, recorder.violationsDir = some dir ∧ entry.planned.plan = some plan ∧
      path = Path.join dir (Recorder.violationName
        (Recorder.checkedPlan plan entry.planned.reference) entry.result.id)

namespace CampaignRun

variable {b : Bench σ} {recorder : Recorder} {t : PlannedTrial} {trials : List PlannedTrial}
  {entry : TrialEntry} {done : List TrialEntry} {run run' : CampaignRun σ}

/-- The entry of the trial that a campaign runs next. -/
def entry? (b : Bench σ) (recorder : Recorder) (t : PlannedTrial) (run : CampaignRun σ) :
    Option TrialEntry :=
  (run.runner.run b run.state t.spec run.world).map fun f =>
    { planned := t, result := f.result
      record := (recorder.record f.result t.plan t.reference (b.files f.world)).1 }

theorem filed_of_entry? (h : run.entry? b recorder t = some entry) : entry.Filed recorder := by
  obtain ⟨f, -, rfl⟩ := Option.map_eq_some_iff.1 h
  intro path hrecord
  obtain ⟨hviolation, dir, plan, -, hdir, hplan, hpath, -⟩ :=
    Recorder.record_eq_some (Prod.ext hrecord rfl)
  exact ⟨hviolation, dir, plan, hdir, hplan, hpath⟩

/-- The result of a trial has the name of its invariant. -/
theorem name?_of_entry? (h : run.entry? b recorder t = some entry)
    (hgiven : t.spec.invariant ≠ none) : t.name? = some entry.result.invariant := by
  obtain ⟨f, hrun, rfl⟩ := Option.map_eq_some_iff.1 h
  obtain ⟨reference, hreference⟩ := Option.ne_none_iff_exists'.1 hgiven
  rw [PlannedTrial.name?, hreference, Runner.invariant_of_run hreference hrun]
  rfl

/-- What a trial adds to the report: what its entry says. Whether a stop has been asked for is looked
at when it is over. -/
structure Adds (b : Bench σ) (run run' : CampaignRun σ) (entry : TrialEntry) : Prop where
  results : run'.report.results = run.report.results ++ [entry.result]
  summary : run'.report.summary = run.report.summary.add entry.result.outcome
  records : run'.report.violationRecords = run.report.violationRecords ++ entry.record.toList
  interrupted : run'.report.interrupted = (run.report.interrupted || b.cancelled run'.world)

theorem checkStop_report (run : CampaignRun σ) : (run.checkStop b).report =
    { run.report with interrupted := run.report.interrupted || b.cancelled run.world } := by
  unfold checkStop
  cases b.cancelled run.world <;> simp

theorem checkStop_world (run : CampaignRun σ) : (run.checkStop b).world = run.world := by
  unfold checkStop
  split <;> rfl

theorem entry_of_trial (h : run.trial b recorder t = some run') :
    ∃ entry, run.entry? b recorder t = some entry ∧ entry.planned = t := by
  unfold trial at h
  obtain ⟨f, hf, -⟩ := Option.bind_eq_some_iff.1 h
  exact ⟨_, Option.map_eq_some_iff.2 ⟨f, hf, rfl⟩, rfl⟩

theorem adds_of_trial (hentry : run.entry? b recorder t = some entry)
    (h : run.trial b recorder t = some run') : Adds b run run' entry := by
  unfold trial at h
  obtain ⟨f, hf, h⟩ := Option.bind_eq_some_iff.1 h
  obtain ⟨f', hf', rfl⟩ := Option.map_eq_some_iff.1 hentry
  obtain rfl := Option.some.inj (hf.symm.trans hf')
  obtain rfl := Option.some.inj h
  constructor
  · rw [checkStop_report]; rfl
  · rw [checkStop_report]; rfl
  · rw [checkStop_report]; rfl
  · rw [checkStop_report, checkStop_world]; rfl

theorem Adds.tallied (h : Adds b run run' entry) (ht : run.report.Tallied) :
    run'.report.Tallied := by
  obtain ⟨hpass, hviolation, hinconclusive, herror⟩ := ht
  constructor <;> rw [h.summary, h.results, List.countP_append, List.countP_singleton]
  · rw [← hpass]
    cases entry.result.outcome <;> rfl
  · rw [← hviolation]
    cases entry.result.outcome <;> rfl
  · rw [← hinconclusive]
    cases entry.result.outcome <;> rfl
  · rw [← herror]
    cases entry.result.outcome <;> rfl

/-! ### One trial after the other -/

/-- Trials that are run one after the other, each with its entry. -/
inductive Performed (b : Bench σ) (recorder : Recorder) :
    List TrialEntry → CampaignRun σ → CampaignRun σ → Prop
  | nil (run : CampaignRun σ) : Performed b recorder [] run run
  | cons {entry : TrialEntry} {rest : List TrialEntry} {run mid last : CampaignRun σ} :
      run.entry? b recorder entry.planned = some entry →
      run.trial b recorder entry.planned = some mid → Performed b recorder rest mid last →
      Performed b recorder (entry :: rest) run last

/-- Before each trial it is looked whether a stop has been asked for. -/
theorem runAll_cons (t : PlannedTrial) (rest : List PlannedTrial) (run : CampaignRun σ) :
    runAll b recorder (t :: rest) run =
      if run.report.interrupted || b.cancelled run.world then some (run.checkStop b)
      else run.trial b recorder t >>= runAll b recorder rest := by
  have hsame : b.cancelled run.world = false → run.checkStop b = run := fun h => by
    unfold checkStop
    rw [h]
    rfl
  conv_lhs => unfold runAll
  dsimp only
  rw [checkStop_report]
  dsimp only
  cases hcancelled : b.cancelled run.world with
  | true => rw [Bool.or_true]; rfl
  | false => rw [hsame hcancelled]

/-- All trials are run, or those before a stop that has been asked for. -/
theorem performed_of_runAll (h : runAll b recorder trials run = some run') :
    ∃ done left mid, trials = done.map TrialEntry.planned ++ left ∧
      Performed b recorder done run mid ∧
      (left = [] ∧ run' = mid ∨
        (mid.report.interrupted = true ∨ b.cancelled mid.world = true) ∧
          run' = mid.checkStop b) := by
  induction trials generalizing run with
  | nil =>
      obtain rfl := Option.some.inj h
      exact ⟨[], [], run, rfl, .nil run, .inl ⟨rfl, rfl⟩⟩
  | cons t rest ih =>
      rw [runAll_cons] at h
      split at h
      next hstop =>
        obtain rfl := Option.some.inj h
        exact ⟨[], t :: rest, run, rfl, .nil run, .inr ⟨by simpa using hstop, rfl⟩⟩
      next =>
        obtain ⟨mid, hmid, hrest⟩ := Option.bind_eq_some_iff.1 h
        obtain ⟨entry, hentry, rfl⟩ := entry_of_trial hmid
        obtain ⟨done, left, last, rfl, hperformed, hend⟩ := ih hrest
        exact ⟨entry :: done, left, last, rfl, .cons hentry hmid hperformed, hend⟩

/-- Trials without an end have been run up to one without a result. -/
theorem performed_of_runAll_eq_none (h : runAll b recorder trials run = none) :
    ∃ done t left mid, trials = done.map TrialEntry.planned ++ t :: left ∧
      Performed b recorder done run mid ∧
      mid.runner.run b mid.state t.spec mid.world = none := by
  induction trials generalizing run with
  | nil => cases h
  | cons t rest ih =>
      rw [runAll_cons] at h
      split at h
      next => cases h
      next =>
        cases htrial : run.trial b recorder t with
        | none =>
            refine ⟨[], t, rest, run, rfl, .nil run, ?_⟩
            unfold CampaignRun.trial at htrial
            cases hrun : run.runner.run b run.state t.spec run.world with
            | none => rfl
            | some f => rw [hrun] at htrial; cases htrial
        | some mid =>
            rw [htrial] at h
            obtain ⟨entry, hentry, rfl⟩ := entry_of_trial htrial
            obtain ⟨done, t', left, mid', rfl, hperformed, hnone⟩ := ih h
            exact ⟨entry :: done, t', left, mid', rfl, .cons hentry htrial hperformed, hnone⟩

/-! ### What trials keep -/

theorem Performed.tallied (h : Performed b recorder done run run') (ht : run.report.Tallied) :
    run'.report.Tallied := by
  induction h with
  | nil => exact ht
  | cons hentry htrial _ ih => exact ih ((adds_of_trial hentry htrial).tallied ht)

/-- The report gets the results of the trials in their order. -/
theorem Performed.results (h : Performed b recorder done run run') :
    run'.report.results = run.report.results ++ done.map TrialEntry.result := by
  induction h with
  | nil => simp
  | cons hentry htrial _ ih =>
      rw [ih, (adds_of_trial hentry htrial).results]
      simp

/-- The report gets the paths of the records in the order of the results. -/
theorem Performed.records (h : Performed b recorder done run run') :
    run'.report.violationRecords =
      run.report.violationRecords ++ done.filterMap TrialEntry.record := by
  induction h with
  | nil => simp
  | @cons entry rest run mid last hentry htrial _ ih =>
      rw [ih, (adds_of_trial hentry htrial).records]
      cases hrecord : entry.record <;> simp [hrecord]

/-- Each entry is that of its trial when its turn has come. -/
theorem Performed.turn (h : Performed b recorder done run run') :
    ∀ entry ∈ done, ∃ mid : CampaignRun σ,
      mid.entry? b recorder entry.planned = some entry := by
  induction h with
  | nil =>
      intro entry hmem
      cases hmem
  | @cons entry rest run mid last hentry _ _ ih =>
      intro entry' hmem
      rcases List.mem_cons.1 hmem with rfl | hmem
      · exact ⟨run, hentry⟩
      · exact ih entry' hmem

theorem Performed.filed (h : Performed b recorder done run run') :
    ∀ entry ∈ done, entry.Filed recorder := by
  intro entry hmem
  obtain ⟨mid, hentry⟩ := h.turn entry hmem
  exact filed_of_entry? hentry

/-- Each trial has a result with the name of its invariant. -/
theorem Performed.names (h : Performed b recorder done run run')
    (hgiven : ∀ entry ∈ done, entry.planned.spec.invariant ≠ none) :
    (done.map TrialEntry.planned).filterMap PlannedTrial.name? =
      (done.map TrialEntry.result).map (·.invariant) := by
  rw [List.filterMap_map, List.map_map, ← List.filterMap_eq_map]
  refine List.filterMap_congr fun entry hmem => ?_
  obtain ⟨mid, hentry⟩ := h.turn entry hmem
  exact name?_of_entry? hentry (hgiven entry hmem)

/-- A stop that the report tells of was asked for when some trial was over. -/
theorem Performed.stopSeen (h : Performed b recorder done run run')
    (hstopped : run'.report.interrupted = true) : run.report.interrupted = true ∨
      ∃ first mid, first <+: done ∧ Performed b recorder first run mid ∧
        b.cancelled mid.world = true := by
  induction h with
  | nil => exact .inl hstopped
  | @cons entry rest run mid last hentry htrial _ ih =>
      rcases ih hstopped with hmid | ⟨first, last', hfirst, hperformed, hcancelled⟩
      · rw [(adds_of_trial hentry htrial).interrupted, Bool.or_eq_true] at hmid
        exact hmid.imp_right fun hcancelled =>
          ⟨[entry], mid, List.cons_prefix_cons.2 ⟨rfl, List.nil_prefix⟩,
            .cons hentry htrial (.nil mid), hcancelled⟩
      · exact .inr ⟨entry :: first, last', List.cons_prefix_cons.2 ⟨rfl, hfirst⟩,
          .cons hentry htrial hperformed, hcancelled⟩

end CampaignRun

/-! ### A campaign -/

namespace Campaign

open CampaignRun (Performed)

/-- A campaign before its first trial. -/
def start (b : Bench σ) (c : Campaign) (stage : Stage) (s : σ) : CampaignRun σ where
  world := s
  runner := c.runner
  state := { stage := stage }
  report := { stage := stage, startedAtMs := b.wallClock s }

/-- A stop has been asked for at a moment at which a campaign looks: before its first trial, or when
one was over. -/
def StopSeen (b : Bench σ) (c : Campaign) (stage : Stage) (trials : List PlannedTrial) (s : σ) :
    Prop :=
  ∃ done run, done.map TrialEntry.planned <+: trials ∧
    Performed b c.recorder done (c.start b stage s) run ∧ b.cancelled run.world = true

/-- The clock has come to its end in the trial after some that had a result. -/
def ClockStops (b : Bench σ) (c : Campaign) (stage : Stage) (trials : List PlannedTrial) (s : σ) :
    Prop :=
  ∃ done t left run, trials = done.map TrialEntry.planned ++ t :: left ∧
    Performed b c.recorder done (c.start b stage s) run ∧
    let opened := b.openChannel run.runner.settings.channel.bindAddr run.world
    ClockEnds b run.runner.settings (run.runner.events b run.state t.spec opened.2)
      (run.runner.attempted b run.state t.spec opened.1 opened.2).2

/-- The results of a report are those of the first of the trials, in their order, and its records are
the paths that the recorder has given for these results, in the order of the results. There is at
most one for each result, and none but for a violation. -/
def Recorded (b : Bench σ) (c : Campaign) (stage : Stage) (trials : List PlannedTrial) (s : σ)
    (report : CampaignReport) : Prop :=
  ∃ done run, done.map TrialEntry.planned <+: trials ∧
    Performed b c.recorder done (c.start b stage s) run ∧
    report.results = done.map TrialEntry.result ∧
    report.violationRecords = done.filterMap TrialEntry.record ∧
    ∀ entry ∈ done, entry.Filed c.recorder

variable {b : Bench σ} {c : Campaign} {stage : Stage} {trials : List PlannedTrial} {s : σ}

/-- What comes of a campaign: the trials up to a stop. -/
structure Yields (b : Bench σ) (c : Campaign) (stage : Stage) (trials : List PlannedTrial) (s : σ)
    (report : CampaignReport) : Prop where
  tallied : report.Tallied
  recorded : c.Recorded b stage trials s report
  names : (∀ t ∈ trials, t.spec.invariant ≠ none) →
    report.results.map (·.invariant) <+: trials.filterMap PlannedTrial.name?
  complete : (∀ t ∈ trials, t.spec.invariant ≠ none) → report.interrupted = false →
    report.results.map (·.invariant) = trials.filterMap PlannedTrial.name?
  stopSeen : report.interrupted = true → c.StopSeen b stage trials s

/-- If the report tells of a stop after some trials, or one has been asked for by then, a stop has
been seen. -/
theorem stopSeen_of_performed {done : List TrialEntry} {left : List PlannedTrial}
    {mid : CampaignRun σ} (hperformed : Performed b c.recorder done (c.start b stage s) mid)
    (hstop : mid.report.interrupted = true ∨ b.cancelled mid.world = true) :
    c.StopSeen b stage (done.map TrialEntry.planned ++ left) s := by
  rcases hstop with hreport | hcancelled
  · obtain ⟨first, mid', hfirst, hbefore, hcancelled⟩ :=
      (hperformed.stopSeen hreport).resolve_left nofun
    exact ⟨first, mid', (hfirst.map _).trans (List.prefix_append _ _), hbefore, hcancelled⟩
  · exact ⟨done, mid, List.prefix_append _ _, hperformed, hcancelled⟩

theorem yields_of_runAll {run : CampaignRun σ}
    (h : CampaignRun.runAll b c.recorder trials (c.start b stage s) = some run) :
    c.Yields b stage trials s run.report := by
  obtain ⟨done, left, mid, rfl, hperformed, hend⟩ := CampaignRun.performed_of_runAll h
  have hreport : run.report = { mid.report with interrupted := run.report.interrupted } := by
    rcases hend with ⟨-, rfl⟩ | ⟨-, rfl⟩
    · rfl
    · rw [CampaignRun.checkStop_report]
  have hresults : run.report.results = done.map TrialEntry.result := by
    rw [hreport]
    exact hperformed.results
  have hrecords : run.report.violationRecords = done.filterMap TrialEntry.record := by
    rw [hreport]
    exact hperformed.records
  have htallied := hperformed.tallied ⟨rfl, rfl, rfl, rfl⟩
  have hnames : (∀ t ∈ done.map TrialEntry.planned ++ left, t.spec.invariant ≠ none) →
      run.report.results.map (·.invariant) =
        (done.map TrialEntry.planned).filterMap PlannedTrial.name? := fun hgiven => by
    rw [hresults]
    refine (hperformed.names fun entry hmem => hgiven _ ?_).symm
    exact List.mem_append_left left (List.mem_map_of_mem hmem)
  refine ⟨?_, ?_, fun hgiven => ?_, fun hgiven hnot => ?_, fun hstopped => ?_⟩
  · rw [hreport]
    exact ⟨htallied.pass, htallied.violation, htallied.inconclusive, htallied.engineError⟩
  · exact ⟨done, mid, List.prefix_append _ _, hperformed, hresults, hrecords, hperformed.filed⟩
  · rw [hnames hgiven, List.filterMap_append]
    exact List.prefix_append _ _
  · rcases hend with ⟨rfl, rfl⟩ | ⟨hstop, rfl⟩
    · rw [hnames hgiven, List.append_nil]
    · rw [CampaignRun.checkStop_report] at hnot
      obtain ⟨hmid, hcancelled⟩ := Bool.or_eq_false_iff.1 hnot
      rw [hmid, hcancelled] at hstop
      exact absurd hstop (by decide)
  · rcases hend with ⟨-, rfl⟩ | ⟨hstop, -⟩
    · exact stopSeen_of_performed hperformed (.inl hstopped)
    · exact stopSeen_of_performed hperformed hstop

/-- A campaign gives a report, or one of its trials has been ended by the clock. -/
theorem run_yields (b : Bench σ) (c : Campaign) (stage : Stage) (trials : List PlannedTrial)
    (s : σ) : match c.run b stage trials s with
      | some (report, _, _) => c.Yields b stage trials s report
      | none => c.ClockStops b stage trials s := by
  cases hall : CampaignRun.runAll b c.recorder trials (c.start b stage s) with
  | none =>
      have hnone : c.run b stage trials s = none := by
        unfold run
        exact congrArg (· >>= _) hall
      rw [hnone]
      obtain ⟨done, t, left, mid, htrials, hperformed, hrun⟩ :=
        CampaignRun.performed_of_runAll_eq_none hall
      exact ⟨done, t, left, mid, htrials, hperformed, Runner.clockEnds_of_execute hrun⟩
  | some run =>
      obtain ⟨htallied, hrecorded, hnames, hcomplete, hseen⟩ := yields_of_runAll hall
      have hsome : ∃ duration campaign, c.run b stage trials s =
          some ({ run.report with durationMs := duration }, campaign, run.world) := by
        unfold Campaign.run
        exact ⟨_, _, congrArg (· >>= _) hall⟩
      obtain ⟨duration, campaign, heq⟩ := hsome
      rw [heq]
      exact ⟨⟨htallied.pass, htallied.violation, htallied.inconclusive, htallied.engineError⟩,
        hrecorded, hnames, hcomplete, hseen⟩

/-! ### Trials for invariants -/

/-- Every trial for an invariant is given it, and they come in the order of the invariants. -/
theorem plannedInvariants_names (path : String) (plan : Option Plan) (repeats : Nat)
    (references : List Reference) :
    (∀ t ∈ plannedInvariants path plan repeats references, t.spec.invariant ≠ none) ∧
      (plannedInvariants path plan repeats references).filterMap PlannedTrial.name? =
        references.flatMap fun reference => List.replicate repeats reference.name := by
  unfold plannedInvariants
  constructor
  · intro t ht
    obtain ⟨reference, -, ht⟩ := List.mem_flatMap.1 ht
    rw [(List.mem_replicate.1 ht).2]
    exact nofun
  · rw [List.filterMap_flatMap]
    refine List.flatMap_congr fun reference _ => ?_
    induction repeats with
    | zero => rfl
    | succ n ih =>
        rw [List.replicate_succ, List.replicate_succ]
        exact congrArg (reference.name :: ·) ih

/-- **A campaign has one result for each trial, tagged with its invariant.** The results are those of
a first part of the trials that are planned, and of all of them unless a stop was asked for when one
of them was over or before the first. The summary counts them, the records are the paths that were
given for them, in their order and for violations only, and the exit code tells whether the campaign
was stopped and whether any trial came to a verdict. There is no report only if the clock comes to
its end in one of the trials. -/
theorem runInvariants_tallied (b : Bench σ) (c : Campaign) (path : String)
    (references : List Reference) (s : σ) :
    let planned := plannedInvariants path (Plan.load (b.files s) path).toOption
      c.runner.settings.trial.trialsPerInvariant references
    let names := references.flatMap fun reference =>
      List.replicate c.runner.settings.trial.trialsPerInvariant reference.name
    match c.runInvariants b path references s with
    | some (report, _, _) =>
        report.results.map (·.invariant) <+: names ∧
        (report.interrupted = false → report.results.map (·.invariant) = names) ∧
        (report.interrupted = true → c.StopSeen b .injection planned s) ∧
        report.Tallied ∧ c.Recorded b .injection planned s report ∧
        ({ failure := Cli.Failure.ofReport? report } : Cli.CommandResult).exitCode =
          if report.interrupted then 130
          else if report.results ≠ [] ∧
            ∀ result ∈ report.results, result.outcome.isEngineError = true then 4
          else 0
    | none => c.ClockStops b .injection planned s := by
  intro planned names
  obtain ⟨hgiven, hnames⟩ : (∀ t ∈ planned, t.spec.invariant ≠ none) ∧
      planned.filterMap PlannedTrial.name? = names :=
    plannedInvariants_names _ _ _ _
  have hrun := run_yields b c .injection planned s
  unfold runInvariants
  split
  next report campaign s' heq =>
    rw [heq] at hrun
    exact ⟨hnames ▸ hrun.names hgiven, fun hnot => hnames ▸ hrun.complete hgiven hnot,
      hrun.stopSeen, hrun.tallied, hrun.recorded, Cli.exitCode_ofReport hrun.tallied⟩
  next heq =>
    rw [heq] at hrun
    exact hrun

/-! ### A campaign without a report -/

open Rehearsal (Scene)

/-- A scene with a plan in a file, whose driver ends at once. -/
def planScene : Scene where
  machine.controller := .simulated [10, 11] 0 [] false
  machine.files := FileTree.empty.put ["drill.plan"]
    (Text.Utf8.encode "faultline-plan drill\nsurvives\n1 | leader | pause\n")

/-- With the longest time limit, which passes both validations, a campaign has no report, although
its plan is accepted and no stop is asked for. With a limit of a minute it has all results. -/
theorem endless_no_report :
    Config.validate (drillConfig 18446744073709551615) = .ok () ∧
    Settings.ofConfig (drillConfig 18446744073709551615) =
      .ok (drillSettings 18446744073709551615) ∧
    (Plan.load (Scene.bench.files planScene) "/drill.plan").toOption.isSome = true ∧
    (runInvariants Scene.bench { runner := drillRunner 18446744073709551615, recorder := {} }
      "/drill.plan" [.named "survives", .named "rows"] planScene).isNone = true ∧
    (runInvariants Scene.bench { runner := drillRunner 60, recorder := {} }
      "/drill.plan" [.named "survives", .named "rows"] planScene).map
        (fun report => report.1.results.map (·.invariant)) = some ["survives", "rows"] :=
  ⟨by decide +kernel, rfl, by decide +kernel, by decide +kernel, by decide +kernel⟩

end Campaign

end FaultDrill
