import FaultDrill.Trial.EventQueue
import FaultDrill.Trial.Journal
import Mathlib.Data.List.Chain
import Mathlib.Data.List.TakeWhile

/-!
# FaultDrill.Proofs.Trial.Protocol

The protocol of a trial: what the runner may do next, given what it has done so far. A standing sums
up the journal: the phase, the report that is held, the events that have been injected and those
that are left, and whether the driver has ended. Each deed of the protocol takes one standing to the
next (`Standing.Step`), and a journal keeps to the protocol if its deeds lead from one standing to
another (`Standing.Path`). The deeds of the teardown are not among them: the protocol is that of a
trial up to its outcome.

Laws of all paths are proved by what one step keeps of a standing and of the deeds that have led to
it (`Path.history`). No event is lost or doubled (`Path.account`), the phases follow the diagram
(`Path.charts`), a held report is the last message that has come (`Path.held_history`), and a
received report is answered after the events that are due at it, or after the first of them that
fails (`Path.answered`).
-/

namespace FaultDrill

/-! ### The events that are due -/

namespace EventQueue

variable {id : Checkpoint} {e : Event} {queue : EventQueue}

theorem takeDue_cons (he : e.checkpoint = id) :
    (takeDue id (e :: queue)).1 = e :: (takeDue id queue).1 := by
  simp [takeDue, he]

theorem mem_takeDue (h : e ∈ (takeDue id queue).1) : e.checkpoint = id := by
  simpa using List.mem_takeWhile_imp h

/-- After the events that are due at a checkpoint have been taken, none is due at it. -/
theorem takeDue_takeDue (id : Checkpoint) (queue : EventQueue) :
    (takeDue id (takeDue id queue).2).1 = [] :=
  List.takeWhile_eq_nil_iff.mpr fun hl => List.dropWhile_get_zero_not _ queue hl

end EventQueue

/-! ### The diagram of the phases -/

/-- The phases that may follow a phase. The driver may run to its end as soon as no event is left,
which is after the last injection, or at once if there is nothing to inject. The check comes after
the end of the driver, and a failure of the harness leads from anywhere to the teardown. -/
def Phase.next : Phase → List Phase
  | .init => [.planLoaded, .cleaningUp]
  | .planLoaded => [.driverLaunched, .cleaningUp]
  | .driverLaunched => [.awaitingCheckpoint, .driverCompleting, .cleaningUp]
  | .awaitingCheckpoint => [.injecting, .checking, .cleaningUp]
  | .injecting => [.awaitingCheckpoint, .driverCompleting, .cleaningUp]
  | .driverCompleting => [.checking, .cleaningUp]
  | .checking => [.cleaningUp]
  | .cleaningUp => [.done, .aborted]
  | .done | .aborted => []

/-- The diagram has an edge from one phase to the other. -/
def Phase.Leads (p q : Phase) : Prop :=
  q ∈ p.next

instance (p q : Phase) : Decidable (p.Leads q) :=
  inferInstanceAs (Decidable (q ∈ p.next))

/-- The phases of the teardown. -/
def Phase.isTeardown : Phase → Bool
  | .cleaningUp | .done | .aborted => true
  | _ => false

/-- From every phase before the teardown an edge leads to the teardown. -/
theorem Phase.leads_cleaningUp {p : Phase} (h : p.isTeardown = false) : p.Leads .cleaningUp := by
  cases p <;> first | decide | cases h

/-- The deeds that only a teardown does. Healing is not among them, as it may come before the check
as well. -/
def Deed.isTeardown : Deed → Bool
  | .enter p => p.isTeardown
  | .lookForFaults _ | .forgetTargets | .cleanUp _ => true
  | _ => false

/-! ### Standings and steps -/

/-- How far a trial has come, as its journal tells it. -/
structure Standing where
  phase : Phase := .init
  /-- The report of a checkpoint that has been received and not yet answered. -/
  held : Option (Checkpoint × Ticket) := none
  /-- The events that have been injected. -/
  fired : List Event := []
  /-- The event whose injection has failed. -/
  failed : Option Event := none
  /-- The events that have not been tried yet. -/
  left : List Event
  /-- Whether the driver has been seen to have ended. -/
  exited : Bool := false

namespace Standing

/-- The runner waits for reports and for the end of the driver. -/
structure Waits (st : Standing) : Prop where
  phase : st.phase = .awaitingCheckpoint ∨ st.phase = .driverCompleting
  held : st.held = none
  failed : st.failed = none

/-- A round begins in which the runner does not wait for what it has waited for before. -/
structure Turns (st : Standing) : Prop where
  phase : st.phase = .driverLaunched ∨ st.phase = .injecting
  held : st.held = none
  failed : st.failed = none
  running : st.exited = false

/-- A report of a checkpoint is handled while the driver runs. -/
structure Handles (st : Standing) (id : Checkpoint) (t : Ticket) : Prop where
  held : st.held = some (id, t)
  failed : st.failed = none
  running : st.exited = false

/-- What the runner may do next. -/
inductive Step : Standing → Deed → Standing → Prop
  | load {st : Standing} : st.phase = .init →
      Step st (.enter .planLoaded) { st with phase := .planLoaded }
  | launch {st : Standing} : st.phase = .planLoaded → Step st .launch st
  | launched {st : Standing} : st.phase = .planLoaded →
      Step st (.enter .driverLaunched) { st with phase := .driverLaunched }
  /-- Nothing is held when a round begins. -/
  | turn {st : Standing} : st.held = none → Step st (.turn []) st
  /-- While events are left, the next checkpoint is awaited. -/
  | await {st : Standing} : st.Turns → st.left ≠ [] →
      Step st (.enter .awaitingCheckpoint) { st with phase := .awaitingCheckpoint }
  /-- When no event is left, the driver may run to its end. -/
  | complete {st : Standing} : st.Turns → st.left = [] →
      Step st (.enter .driverCompleting) { st with phase := .driverCompleting }
  /-- Variables and targets may be reported whenever the runner waits. -/
  | receive {st : Standing} {m : Message} : st.Waits → (∀ id, m.report ≠ .checkpoint id) →
      Step st (.receive m) st
  /-- A report of a checkpoint is held from now on. -/
  | report {st : Standing} {id : Checkpoint} {t : Ticket} : st.Waits →
      Step st (.receive ⟨t, .checkpoint id⟩) { st with held := some (id, t) }
  | observeExit {st : Standing} {e : DriverExit} : st.Waits → st.exited = false →
      Step st (.observeExit e) { st with exited := true }
  /-- The event at the front is due at the held report. -/
  | fire {st : Standing} {id : Checkpoint} {t : Ticket} {e : Event} {rest : List Event} :
      st.phase = .awaitingCheckpoint → st.Handles id t → st.left = e :: rest → e.checkpoint = id →
      Step st (.enter .injecting) { st with phase := .injecting }
  | inject {st : Standing} {id : Checkpoint} {t : Ticket} {e : Event} {rest : List Event}
      {registered : SortedMap String UInt32} :
      st.phase = .injecting → st.Handles id t → st.left = e :: rest → e.checkpoint = id →
      Step st (.inject e id registered true) { st with fired := st.fired ++ [e], left := rest }
  /-- No further event is tried after this. -/
  | fail {st : Standing} {id : Checkpoint} {t : Ticket} {e : Event} {rest : List Event}
      {registered : SortedMap String UInt32} :
      st.phase = .injecting → st.Handles id t → st.left = e :: rest → e.checkpoint = id →
      Step st (.inject e id registered false) { st with failed := some e, left := rest }
  /-- A report is answered when no event is due at it any more, or the driver has ended. -/
  | release {st : Standing} {id : Checkpoint} {t : Ticket} : st.held = some (id, t) →
      st.failed = none → (st.exited = false → (EventQueue.takeDue id st.left).1 = []) →
      Step st (.release t) { st with held := none }
  | shutDown {st : Standing} : st.held = none → Step st (.shutDown []) st
  /-- The report at which an injection has failed is answered with the end of the channel. -/
  | shutDownHeld {st : Standing} {id : Checkpoint} {t : Ticket} {e : Event} :
      st.held = some (id, t) → st.failed = some e →
      Step st (.shutDown [t]) { st with held := none }
  | abandon {st : Standing} : st.held = none → Step st .abandon st
  /-- The check begins after the driver has ended. -/
  | check {st : Standing} : st.Waits → st.exited = true →
      Step st (.enter .checking) { st with phase := .checking }
  | heal {st : Standing} {failures : List String} : st.phase = .checking →
      Step st (.heal failures) st
  | judge {st : Standing} {o : Observation} : st.phase = .checking → Step st (.check o) st

/-- The deeds lead from one standing to another, each allowed where it comes. -/
inductive Path : Standing → List Deed → Standing → Prop
  | nil (st : Standing) : Path st [] st
  | cons {st st' st'' : Standing} {d : Deed} {ds : List Deed} :
      Step st d st' → Path st' ds st'' → Path st (d :: ds) st''

variable {st st' st'' : Standing} {d : Deed} {ds ds' : List Deed} {events : List Event}

/-! ### Paths -/

theorem Path.append (h : Path st ds st') (h' : Path st' ds' st'') : Path st (ds ++ ds') st'' := by
  induction h with
  | nil => exact h'
  | cons hstep _ ih => exact .cons hstep (ih h')

theorem Path.snoc (h : Path st ds st') (hstep : Step st' d st'') : Path st (ds ++ [d]) st'' :=
  h.append (.cons hstep (.nil st''))

theorem Path.split (h : Path st (ds ++ ds') st'') : ∃ st', Path st ds st' ∧ Path st' ds' st'' := by
  induction ds generalizing st with
  | nil => exact ⟨st, .nil st, h⟩
  | cons d ds ih =>
      cases h with
      | cons hstep hrest =>
          obtain ⟨st', hds, hds'⟩ := ih hrest
          exact ⟨st', .cons hstep hds, hds'⟩

/-- A path passes through every one of its deeds by a step. -/
theorem Path.split_cons (h : Path st (ds ++ d :: ds') st'') :
    ∃ st₁ st₂, Path st ds st₁ ∧ Step st₁ d st₂ ∧ Path st₂ ds' st'' := by
  obtain ⟨st₁, hds, hrest⟩ := h.split
  cases hrest with
  | cons hstep hds' => exact ⟨st₁, _, hds, hstep, hds'⟩

theorem Path.history_from {P : List Deed → Standing → Prop}
    (hstep : ∀ {ds st d st'}, P ds st → Step st d st' → P (ds ++ [d]) st') (h : Path st ds st')
    (earlier : List Deed) (hearlier : P earlier st) : P (earlier ++ ds) st' := by
  induction h generalizing earlier with
  | nil => rwa [List.append_nil]
  | @cons _ _ _ d _ hd _ ih =>
      have hnext := ih (earlier ++ [d]) (hstep hearlier hd)
      rwa [List.append_assoc] at hnext

/-- What each step keeps of a standing and of the deeds that have led to it holds after all of
them. -/
theorem Path.history {P : List Deed → Standing → Prop}
    (hstep : ∀ {ds st d st'}, P ds st → Step st d st' → P (ds ++ [d]) st') (h : Path st ds st')
    (hstart : P [] st) : P ds st' := by
  simpa using h.history_from hstep [] hstart

/-! ### Events -/

/-- The injections of the journal are those of the standing, and with what is left they make up the
events of the trial. -/
structure Accounts (events : List Event) (ds : List Deed) (st : Standing) : Prop where
  injections : ds.filterMap Deed.injection? =
    st.fired.map (·, true) ++ st.failed.toList.map (·, false)
  total : st.fired ++ st.failed.toList ++ st.left = events

theorem Accounts.stay (h : Accounts events ds st) (hd : d.injection? = none)
    (hfired : st'.fired = st.fired) (hfailed : st'.failed = st.failed)
    (hleft : st'.left = st.left) : Accounts events (ds ++ [d]) st' := by
  constructor
  · simpa [hd, hfired, hfailed] using h.injections
  · simpa [hfired, hfailed, hleft] using h.total

theorem Accounts.step (h : Accounts events ds st) (hstep : Step st d st') :
    Accounts events (ds ++ [d]) st' := by
  cases hstep with
  | inject _ hhandles hleft _ | fail _ hhandles hleft _ =>
      have hfailed := hhandles.failed
      constructor
      · simp [h.injections, hfailed, Deed.injection?]
      · simpa [hfailed, hleft] using h.total
  | _ => exact h.stay rfl rfl rfl rfl

/-- No event is lost, doubled or taken out of its place. -/
theorem Path.account (h : Path { left := events } ds st) : Accounts events ds st :=
  h.history Accounts.step ⟨rfl, rfl⟩

/-! ### Reports -/

/-- The deed neither receives a message nor releases a reporter. -/
def IsSilent (d : Deed) : Prop :=
  d.message? = none ∧ d.released = []

/-- A step that leaves a report held either receives it or is silent about it. -/
theorem Step.holds (h : Step st d st') {id : Checkpoint} {t : Ticket}
    (hheld : st'.held = some (id, t)) :
    d = .receive ⟨t, .checkpoint id⟩ ∨ st.held = some (id, t) ∧ IsSilent d := by
  cases h with
  | report _ =>
      left
      cases hheld
      rfl
  | await hturns _ | complete hturns _ => cases hturns.held.symm.trans hheld
  | receive hwaits _ | observeExit hwaits _ | check hwaits _ => cases hwaits.held.symm.trans hheld
  | turn hnone | shutDown hnone | abandon hnone => cases hnone.symm.trans hheld
  | release _ _ _ | shutDownHeld _ _ => cases hheld
  | _ => exact .inr ⟨hheld, rfl, rfl⟩

/-- A held report is the last message that has been received, and nothing has been released since.
-/
theorem Path.held_history (h : Path { left := events } ds st) {id : Checkpoint} {t : Ticket}
    (hheld : st.held = some (id, t)) :
    ∃ earlier since, ds = earlier ++ .receive ⟨t, .checkpoint id⟩ :: since ∧
      ∀ d ∈ since, IsSilent d := by
  revert id t
  refine h.history (P := fun ds st => ∀ {id : Checkpoint} {t : Ticket}, st.held = some (id, t) →
    ∃ earlier since, ds = earlier ++ .receive ⟨t, .checkpoint id⟩ :: since ∧
      ∀ d ∈ since, IsSilent d) ?_ nofun
  intro ds st d st' ih hstep id t hheld
  obtain rfl | ⟨hbefore, hsilent⟩ := hstep.holds hheld
  · exact ⟨ds, [], rfl, nofun⟩
  · obtain ⟨earlier, since, rfl, hsince⟩ := ih hbefore
    refine ⟨earlier, since ++ [d], by simp, fun d' hd' => ?_⟩
    rcases List.mem_append.mp hd' with hd' | hd'
    · exact hsince d' hd'
    · rwa [List.mem_singleton.mp hd']

/-- The reporters that have been released are those whose checkpoints have been received, in the
same order, up to the one that is still held. -/
theorem Path.reporters (h : Path { left := events } ds st) :
    ds.filterMap Deed.reporter? = ds.flatMap Deed.released ++ st.held.toList.map (·.2) := by
  refine h.history (P := fun ds st =>
    ds.filterMap Deed.reporter? = ds.flatMap Deed.released ++ st.held.toList.map (·.2)) ?_ rfl
  intro ds st d st' ih hstep
  cases hstep with
  | @receive m hwaits hreport =>
      have hnone : Deed.reporter? (.receive m) = none := by
        unfold Deed.reporter?
        split
        next heq => cases heq; exact absurd rfl (hreport _)
        next => rfl
      simp [ih, hnone, Deed.released]
  | report hwaits => simp [ih, hwaits.held, Deed.reporter?, Deed.released]
  | release hheld _ _ => simp [ih, hheld, Deed.reporter?, Deed.released]
  | shutDownHeld hheld _ => simp [ih, hheld, Deed.reporter?, Deed.released]
  | _ => simp [ih, Deed.reporter?, Deed.released]

/-! ### The end of the driver -/

/-- A standing knows whether the end of the driver has been observed. -/
theorem Path.exited (h : Path { left := events } ds st) : st.exited = ds.any Deed.isExit := by
  refine h.history (P := fun ds st => st.exited = ds.any Deed.isExit) ?_ rfl
  intro ds st d st' ih hstep
  cases hstep with
  | observeExit _ _ => simp [Deed.isExit]
  | _ => simpa [Deed.isExit] using ih

/-- The driver is not seen to end after an injection has failed. -/
theorem Path.failed_of_exited (h : Path { left := events } ds st) (hexited : st.exited = true) :
    st.failed = none := by
  revert hexited
  refine h.history (P := fun _ st => st.exited = true → st.failed = none) ?_ nofun
  intro ds st d st' ih hstep hexited
  cases hstep with
  | observeExit hwaits _ => exact hwaits.failed
  | fail _ hhandles _ _ => cases hhandles.running.symm.trans hexited
  | _ => exact ih hexited

/-! ### Phases -/

/-- The phase of a standing is the one that has been entered last, and the phases follow the
diagram. -/
structure Charts (ds : List Deed) (st : Standing) : Prop where
  chain : List.IsChain Phase.Leads (.init :: ds.filterMap Deed.phase?)
  last : (Phase.init :: ds.filterMap Deed.phase?).getLast? = some st.phase

theorem Charts.enter (h : Charts ds st) {p : Phase} (hleads : st.phase.Leads p)
    (hphase : st'.phase = p) : Charts (ds ++ [.enter p]) st' := by
  have hphases :
      (ds ++ [Deed.enter p]).filterMap Deed.phase? = ds.filterMap Deed.phase? ++ [p] := by
    simp [Deed.phase?]
  constructor
  · rw [hphases, ← List.cons_append, List.isChain_append]
    refine ⟨h.chain, .singleton p, fun q hq q' hq' => ?_⟩
    rw [h.last] at hq
    cases hq
    cases hq'
    exact hleads
  · rw [hphases, hphase, ← List.cons_append, List.getLast?_concat]

theorem Charts.stay (h : Charts ds st) (hd : d.phase? = none) (hphase : st'.phase = st.phase) :
    Charts (ds ++ [d]) st' := by
  have hphases : (ds ++ [d]).filterMap Deed.phase? = ds.filterMap Deed.phase? := by simp [hd]
  exact ⟨by rw [hphases]; exact h.chain, by rw [hphases, hphase]; exact h.last⟩

theorem Charts.step (h : Charts ds st) (hstep : Step st d st') : Charts (ds ++ [d]) st' := by
  cases hstep with
  | load hphase | launched hphase => exact h.enter (by rw [hphase]; decide) rfl
  | await hturns _ | complete hturns _ =>
      refine h.enter ?_ rfl
      rcases hturns.phase with hphase | hphase <;> rw [hphase] <;> decide
  | fire hphase _ _ _ => exact h.enter (by rw [hphase]; decide) rfl
  | check hwaits _ =>
      refine h.enter ?_ rfl
      rcases hwaits.phase with hphase | hphase <;> rw [hphase] <;> decide
  | _ => exact h.stay rfl rfl

/-- The phases follow the diagram, and the last one is that of the standing. -/
theorem Path.charts (h : Path { left := events } ds st) : Charts ds st :=
  h.history Charts.step ⟨.singleton _, rfl⟩

/-- The check begins only after the end of the driver has been observed. -/
theorem Path.checking {before after : List Deed}
    (h : Path { left := events } (before ++ .enter .checking :: after) st) :
    before.any Deed.isExit = true := by
  obtain ⟨st₁, st₂, hbefore, hstep, _⟩ := h.split_cons
  cases hstep with
  | check _ hexited => rw [← hbefore.exited, hexited]

/-- A path does not enter the teardown. -/
theorem Path.open (h : Path { left := events } ds st) :
    st.phase.isTeardown = false ∧ ∀ d ∈ ds, d.isTeardown = false := by
  refine h.history (P := fun ds st =>
    st.phase.isTeardown = false ∧ ∀ d ∈ ds, d.isTeardown = false) ?_ ⟨rfl, nofun⟩
  intro ds st d st' ⟨hphase, hds⟩ hstep
  have hd : d.isTeardown = false := by cases hstep <;> rfl
  refine ⟨by cases hstep <;> first | exact hphase | rfl, fun d' hd' => ?_⟩
  rcases List.mem_append.mp hd' with hd' | hd'
  · exact hds d' hd'
  · rwa [List.mem_singleton.mp hd']

/-! ### The answer to a report -/

/-- What follows a report once the injections for it have begun: the due events are injected in
their order, and then the reporter is released; or one of them fails, and the channel is shut down,
which releases the reporter as well. -/
inductive Serves (id : Checkpoint) (t : Ticket) : List Event → List Deed → Prop
  | released {rest : List Deed} : Serves id t [] (.release t :: rest)
  | injected {e : Event} {due : List Event} {registered : SortedMap String UInt32}
      {rest : List Deed} : Serves id t due rest →
      Serves id t (e :: due) (.inject e id registered true :: rest)
  | failed {e : Event} {due : List Event} {registered : SortedMap String UInt32}
      {rest : List Deed} :
      Serves id t (e :: due) (.inject e id registered false :: .shutDown [t] :: rest)

/-- The answer to a report: a release at once if no event is due, or injections first. -/
inductive Answers (id : Checkpoint) (t : Ticket) : List Event → List Deed → Prop
  | atOnce {rest : List Deed} : Answers id t [] (.release t :: rest)
  | injecting {e : Event} {due : List Event} {rest : List Deed} : Serves id t (e :: due) rest →
      Answers id t (e :: due) (.enter .injecting :: rest)

/-- The events that are due at a report of a checkpoint. None is, once the driver has ended. -/
def due (st : Standing) (id : Checkpoint) : List Event :=
  if st.exited then [] else (EventQueue.takeDue id st.left).1

section Answers

variable {id : Checkpoint} {t : Ticket}

/-- What the runner may do with a report that it holds: turn to the events that are due, inject the
one at the front, release the reporter, or shut the channel down after a failure. -/
theorem Step.answering (h : Step st d st') (hheld : st.held = some (id, t))
    (hphase : st.phase ∈ [.awaitingCheckpoint, .driverCompleting, .injecting]) :
    (st.Handles id t ∧ ∃ e rest, st.left = e :: rest ∧ e.checkpoint = id ∧
      (st.phase = .awaitingCheckpoint ∧
          d = .enter .injecting ∧ st' = { st with phase := .injecting } ∨
        st.phase = .injecting ∧ ∃ registered,
          d = .inject e id registered true ∧
            st' = { st with fired := st.fired ++ [e], left := rest } ∨
          d = .inject e id registered false ∧ st' = { st with failed := some e, left := rest })) ∨
    (st.failed = none ∧ st.due id = [] ∧ d = .release t) ∨
    (st.failed ≠ none ∧ d = .shutDown [t]) := by
  cases h with
  | fire hawaiting hhandles hleft he =>
      cases hheld.symm.trans hhandles.held
      exact .inl ⟨hhandles, _, _, hleft, he, .inl ⟨hawaiting, rfl, rfl⟩⟩
  | @inject _ _ _ _ registered hinjecting hhandles hleft he =>
      cases hheld.symm.trans hhandles.held
      exact .inl ⟨hhandles, _, _, hleft, he, .inr ⟨hinjecting, registered, .inl ⟨rfl, rfl⟩⟩⟩
  | @fail _ _ _ _ registered hinjecting hhandles hleft he =>
      cases hheld.symm.trans hhandles.held
      exact .inl ⟨hhandles, _, _, hleft, he, .inr ⟨hinjecting, registered, .inr ⟨rfl, rfl⟩⟩⟩
  | release hheld' hfailed hdue =>
      cases hheld.symm.trans hheld'
      refine .inr (.inl ⟨hfailed, ?_, rfl⟩)
      unfold due
      split
      next => rfl
      next hrunning => exact hdue (by simpa using hrunning)
  | shutDownHeld hheld' hfailed =>
      cases hheld.symm.trans hheld'
      exact .inr (.inr ⟨by simp [hfailed], rfl⟩)
  | load hother | launch hother | launched hother | heal hother | judge hother =>
      simp [hother] at hphase
  | turn hnone | shutDown hnone | abandon hnone => cases hnone.symm.trans hheld
  | await hturns _ | complete hturns _ => cases hturns.held.symm.trans hheld
  | receive hwaits _ | report hwaits | observeExit hwaits _ | check hwaits _ =>
      cases hwaits.held.symm.trans hheld

/-- After a failed injection, a report is answered by the end of the channel. -/
theorem Path.shutsDown (h : Path st ds st') (hheld : st.held = some (id, t))
    (hphase : st.phase = .injecting) (hfailed : st.failed ≠ none) (hanswered : st'.held = none) :
    ∃ rest, ds = .shutDown [t] :: rest := by
  cases h with
  | nil => cases hanswered.symm.trans hheld
  | cons hstep _ =>
      rcases hstep.answering hheld (by simp [hphase]) with ⟨hhandles, _⟩ | ⟨hnone, _⟩ | ⟨_, rfl⟩
      · exact absurd hhandles.failed hfailed
      · exact absurd hnone hfailed
      · exact ⟨_, rfl⟩

/-- Once the injections for a report have begun, the report is served. The induction is on the
events that are due. -/
theorem Path.serves (h : Path st ds st') (hhandles : st.Handles id t)
    (hphase : st.phase = .injecting) (hanswered : st'.held = none) :
    Serves id t (EventQueue.takeDue id st.left).1 ds := by
  generalize hdue : (EventQueue.takeDue id st.left).1 = due
  induction due generalizing st ds with
  | nil =>
      cases h with
      | nil => cases hanswered.symm.trans hhandles.held
      | cons hstep _ =>
          rcases hstep.answering hhandles.held (by simp [hphase]) with
            ⟨_, e, rest, hleft, he, _⟩ | ⟨_, _, rfl⟩ | ⟨hfailed, _⟩
          · rw [hleft, EventQueue.takeDue_cons he] at hdue
            cases hdue
          · exact .released
          · exact absurd hhandles.failed hfailed
  | cons e due ih =>
      cases h with
      | nil => cases hanswered.symm.trans hhandles.held
      | cons hstep hrest =>
          rcases hstep.answering hhandles.held (by simp [hphase]) with
            ⟨_, e', rest, hleft, he, hdeed⟩ | ⟨_, hnone, _⟩ | ⟨hfailed, _⟩
          · rw [hleft, EventQueue.takeDue_cons he] at hdue
            cases hdue
            rcases hdeed with ⟨hawaiting, _⟩ | ⟨_, _, ⟨rfl, rfl⟩ | ⟨rfl, rfl⟩⟩
            · cases hphase.symm.trans hawaiting
            · exact .injected
                (ih hrest ⟨hhandles.held, hhandles.failed, hhandles.running⟩ hphase rfl)
            · obtain ⟨_, rfl⟩ := hrest.shutsDown hhandles.held hphase nofun hanswered
              exact .failed
          · rw [Standing.due, if_neg (by simp [hhandles.running]), hdue] at hnone
            cases hnone
          · exact absurd hhandles.failed hfailed

/-- A report that is held while the runner waits, and that is answered later, is answered as it
should be. -/
theorem Path.answers (h : Path st ds st') (hheld : st.held = some (id, t))
    (hfailed : st.failed = none)
    (hphase : st.phase = .awaitingCheckpoint ∨ st.phase = .driverCompleting)
    (hanswered : st'.held = none) : Answers id t (st.due id) ds := by
  have hother : st.phase ≠ .injecting := by rcases hphase with hphase | hphase <;> simp [hphase]
  cases h with
  | nil => cases hanswered.symm.trans hheld
  | cons hstep hrest =>
      rcases hstep.answering hheld (by rcases hphase with hphase | hphase <;> simp [hphase]) with
        ⟨hhandles, e, rest, hleft, he, hdeed⟩ | ⟨_, hnone, rfl⟩ | ⟨hsome, _⟩
      · rcases hdeed with ⟨_, rfl, rfl⟩ | ⟨hinjecting, _⟩
        · have hserves := hrest.serves ⟨hheld, hfailed, hhandles.running⟩ rfl hanswered
          have hdue : st.due id = e :: (EventQueue.takeDue id rest).1 := by
            rw [due, if_neg (by simp [hhandles.running]), hleft, EventQueue.takeDue_cons he]
          rw [hdue]
          simp only [hleft, EventQueue.takeDue_cons he] at hserves
          exact .injecting hserves
        · exact absurd hinjecting hother
      · rw [hnone]
        exact .atOnce
      · exact absurd hfailed hsome

end Answers

/-- The events that are due at a report of a checkpoint, told from what has been done before: those
at the front of what has not been injected, as long as the end of the driver has not been observed.
-/
def dueAfter (events : List Event) (before : List Deed) (id : Checkpoint) : List Event :=
  if before.any Deed.isExit then []
  else (EventQueue.takeDue id (events.drop (before.filterMap Deed.injection?).length)).1

theorem Accounts.left (h : Accounts events ds st) :
    st.left = events.drop (ds.filterMap Deed.injection?).length := by
  have hlength : (ds.filterMap Deed.injection?).length = (st.fired ++ st.failed.toList).length := by
    simp [h.injections]
  rw [hlength, ← h.total, List.drop_left]

/-- A received report is answered as it should be, if the trial goes on until nothing is held. -/
theorem Path.answered {before after : List Deed} {id : Checkpoint} {t : Ticket}
    (h : Path { left := events } (before ++ .receive ⟨t, .checkpoint id⟩ :: after) st)
    (hanswered : st.held = none) : Answers id t (dueAfter events before id) after := by
  obtain ⟨st₁, st₂, hbefore, hstep, hafter⟩ := h.split_cons
  cases hstep with
  | receive _ hother => exact absurd rfl (hother id)
  | report hwaits =>
      have hanswers := hafter.answers rfl hwaits.failed hwaits.phase hanswered
      rwa [due, hbefore.exited, hbefore.account.left] at hanswers

/-- An event is injected only while a report of its own checkpoint is handled: it has been received
last, and nothing has been released since. -/
theorem Path.injected {before after : List Deed} {e : Event} {reported : Checkpoint}
    {registered : SortedMap String UInt32} {succeeded : Bool}
    (h : Path { left := events } (before ++ .inject e reported registered succeeded :: after) st) :
    e.checkpoint = reported ∧
      ∃ t earlier since, before = earlier ++ .receive ⟨t, .checkpoint reported⟩ :: since ∧
        ∀ d ∈ since, IsSilent d := by
  obtain ⟨st₁, st₂, hbefore, hstep, _⟩ := h.split_cons
  cases hstep with
  | inject _ hhandles _ he | fail _ hhandles _ he =>
      exact ⟨he, _, hbefore.held_history hhandles.held⟩

end Standing

end FaultDrill
