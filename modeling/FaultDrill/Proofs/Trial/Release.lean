import FaultDrill.Proofs.Trial.Order

/-!
# FaultDrill.Proofs.Trial.Release

Whoever reports a checkpoint is released once. In every trial that has a result, the reporters that
are released are those whose reports were received, one for one and in the same order, and each
report is followed by its answer: by the injections that are due at it and then the release, or by
the end of the channel if one of them fails (`Runner.released_or_clockEnds`). No report is held when
a round of a loop begins. The one exception is a trial that the clock stops in its middle, such as
one whose delays at a checkpoint are too long to be added up: its reporter is never released
(`overlong_not_released`).
-/

namespace FaultDrill

open Standing (Path Serves Answers dueAfter)
open Rehearsal (Scene)

variable {σ : Type} {b : Bench σ}

namespace Standing

variable {events : List Event} {st : Standing} {id : Checkpoint} {t : Ticket} {due : List Event}
  {ds last : List Deed}

theorem Serves.append (h : Serves id t due ds) (last : List Deed) :
    Serves id t due (ds ++ last) := by
  induction h with
  | released => exact .released
  | injected _ ih => exact .injected ih
  | failed => exact .failed

theorem Answers.append (h : Answers id t due ds) (last : List Deed) :
    Answers id t due (ds ++ last) := by
  cases h with
  | atOnce => exact .atOnce
  | injecting hserves => exact .injecting (hserves.append last)

/-- Nothing is held at the beginning of a round. -/
theorem Path.turns (h : Path { left := events } ds st) {held : List Ticket}
    (hturn : .turn held ∈ ds) : held = [] := by
  obtain ⟨before, after, rfl⟩ := List.append_of_mem hturn
  obtain ⟨st₁, st₂, -, hstep, -⟩ := h.split_cons
  cases hstep
  rfl

end Standing

/-- Every report of a checkpoint is answered, once and as it should be. -/
structure Finished.Releases (events : List Event) (f : Finished σ) : Prop where
  /-- The reporters are released one for one, in the order of their reports. -/
  once : f.journal.released = f.journal.reporters
  answered : ∀ before after t id,
    f.journal.deeds = before ++ .receive ⟨t, .checkpoint id⟩ :: after →
    Answers id t (dueAfter events before id) after

theorem reporter?_teardown (failures lingering : List String) (cleanup : Option Script)
    (warning : Option String) (aborted : Bool) :
    (teardown failures lingering cleanup warning aborted).filterMap Deed.reporter? = [] := by
  cases cleanup <;> rfl

theorem released_teardown (failures lingering : List String) (cleanup : Option Script)
    (warning : Option String) (aborted : Bool) :
    (teardown failures lingering cleanup warning aborted).flatMap Deed.released = [] := by
  cases cleanup <;> rfl

theorem Finished.Closes.releases {events : List Event} {cleanup : Option Script} {ds : List Deed}
    {st : Standing} {f : Finished σ} (h : f.Closes events cleanup ds st) : f.Releases events := by
  obtain ⟨failures, hdeeds⟩ := h.deeds
  constructor
  · have hreporters := h.path.reporters
    rw [h.answered] at hreporters
    rw [Journal.released, Journal.reporters, hdeeds, List.flatMap_append, List.filterMap_append,
      released_teardown, reporter?_teardown, hreporters]
    simp
  · intro before after t id hsplit
    have hreceive : Deed.receive ⟨t, .checkpoint id⟩ ∉ teardown failures
        f.result.diagnostics.lingeringFaults cleanup f.result.cleanupWarning
        f.result.outcome.isEngineError := by
      simp [teardown]
    obtain ⟨between, hds, hafter⟩ := append_cons_eq_append (hsplit.symm.trans hdeeds) hreceive
    rw [hafter]
    exact (Path.answered (hds ▸ h.path) h.answered).append _

/-- Whoever reports a checkpoint is released, unless the clock comes to its end. In no case is
anybody held when a round begins. -/
theorem Runner.released_or_clockEnds (b : Bench σ) (runner : Runner) (campaign : CampaignState)
    (spec : TrialSpec) (channel : Except ChannelError String) (s : σ) :
    (∀ held, .turn held ∈ (runner.attempted b campaign spec channel s).2.journal.deeds →
      held = []) ∧
    match runner.execute b campaign spec channel s with
    | some f => f.Releases (runner.events b campaign spec s)
    | none => ClockEnds b runner.settings (runner.events b campaign spec s)
        (runner.attempted b campaign spec channel s).2 := by
  obtain ⟨st, hpath⟩ := (attempted_closes (b := b) runner campaign spec channel s).path
  refine ⟨fun held hturn => hpath.turns hturn, ?_⟩
  split
  next f heq =>
    obtain ⟨st', hcloses⟩ := execute_closes heq
    exact hcloses.releases
  next heq => exact clockEnds_of_execute heq

/-! ### Delays without an end -/

/-- The text of a plan with two delays at one checkpoint, each of the longest time there is. -/
def overlongText : String :=
  "faultline-plan drill\nstable\n" ++
    "1 | leader | delay | 18446744073709551615s\n" ++
    "1 | follower | delay | 18446744073709551615s\n"

/-- The plan of that text. -/
def overlongPlan : Plan :=
  { drillPlan with events :=
      [⟨"1", "leader", .delay (.ofSecs 18446744073709551615)⟩,
        ⟨"1", "follower", .delay (.ofSecs 18446744073709551615)⟩] }

/-- The plan is accepted. A trial with it stops after both events have been injected: it has no
result, and the reporter of the checkpoint is never released. -/
theorem overlong_not_released :
    Plan.ofText overlongText = .ok overlongPlan ∧
    ((drillRunner 600).execute Scene.bench { stage := .injection }
      { plan := .loaded overlongPlan } (.ok "memory") (drillScene ["1"])).isNone = true ∧
    let j := ((drillRunner 600).attempted Scene.bench { stage := .injection }
      { plan := .loaded overlongPlan } (.ok "memory") (drillScene ["1"])).2.journal
    j.injections = overlongPlan.events.map (·, true) ∧ j.reporters = [0] ∧ j.released = [] :=
  ⟨by decide +kernel, by decide +kernel, by decide +kernel, by decide +kernel, by decide +kernel⟩

end FaultDrill
