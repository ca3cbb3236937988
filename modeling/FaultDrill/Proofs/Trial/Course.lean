import FaultDrill.Proofs.Trial.Protocol
import FaultDrill.Trial.Runner

/-!
# FaultDrill.Proofs.Trial.Course

Every trial keeps to the protocol. A run follows a standing if its journal leads there and what the
run itself knows agrees with it (`Run.Follows`). Each operation takes a run that follows a standing
to one that follows the next: first the single operations, then the injections for one report, a
round of each loop, the loops by induction on their rounds, and at last the whole attempt
(`Run.attempt_closes`). Where the clock comes to its end in the middle, nothing is said about the
run but that its journal keeps to the protocol so far.
-/

namespace FaultDrill

open Standing (Step Path)

namespace Standing

/-- A round begins while the driver runs. -/
structure Heads (st : Standing) : Prop where
  phase : st.phase = .driverLaunched ∨ st.phase = .injecting ∨
    st.phase = if st.left.isEmpty then .driverCompleting else .awaitingCheckpoint
  held : st.held = none
  failed : st.failed = none
  running : st.exited = false

/-- The driver has to be stopped. If a report is held, its injection has failed. -/
structure BreaksOff (st : Standing) : Prop where
  held : st.held = none ∨ st.failed ≠ none
  running : st.exited = false

end Standing

namespace Run

variable {σ α : Type} {b : Bench σ} {events skipped : List Event} {r r' : Run σ}
  {st st' : Standing} {d : Deed}

/-- The journal of a run leads to a standing, and the run agrees with it. -/
structure Follows (events skipped : List Event) (r : Run σ) (st : Standing) : Prop where
  path : Path { left := events } r.journal.deeds st
  phase : r.phase = st.phase
  pending : r.inbox.pending = st.held.toList
  fired : r.fired = st.fired
  skipped : r.skipped = skipped

/-- A part of a trial that may be stopped in its middle keeps to the protocol. If it is not stopped,
it comes to a standing of the given kind. -/
def Comes (events skipped : List Event) (P : Standing → Prop) : Except Halt α × Run σ → Prop
  | (.ok _, r) => ∃ st, Follows events skipped r st ∧ P st
  | (.error (.failed _), r) => ∃ st, Follows events skipped r st ∧ st.BreaksOff
  | (.error .clockOverflow, r) => ∃ st, Path { left := events } r.journal.deeds st

/-! ### Single operations -/

/-- What a standing tells of a run. -/
def course (r : Run σ) : Journal × Phase × List (Checkpoint × Ticket) × List Event × List Event :=
  (r.journal, r.phase, r.inbox.pending, r.fired, r.skipped)

theorem Follows.congr (h : Follows events skipped r st) (hcourse : r'.course = r.course) :
    Follows events skipped r' st := by
  simp only [course, Prod.mk.injEq] at hcourse
  obtain ⟨hjournal, hphase, hpending, hfired, hskipped⟩ := hcourse
  exact ⟨hjournal ▸ h.path, hphase.trans h.phase, hpending.trans h.pending, hfired.trans h.fired,
    hskipped.trans h.skipped⟩

theorem course_foldl {β : Type} {f : Run σ → β → Run σ} (hf : ∀ r x, (f r x).course = r.course)
    (l : List β) (r : Run σ) : (l.foldl f r).course = r.course := by
  induction l generalizing r with
  | nil => rfl
  | cons x l ih => exact (ih (f r x)).trans (hf r x)

@[simp] theorem course_absorb (r : Run σ) : r.absorb.course = r.course := by
  exact (course_foldl (f := setVariable) (fun _ _ => rfl) r.inbox.reports.state _).trans
    (course_foldl (f := register) (fun _ _ => rfl) r.inbox.reports.targets _)

theorem course_collect (exit : Option DriverExit) (r : Run σ) :
    (r.collect b exit).course = r.course :=
  rfl

theorem deeds_note (r : Run σ) : (r.note b d).journal.deeds = r.journal.deeds ++ [d] := by
  simp [Run.note, Journal.deeds]

/-- A deed that the protocol allows is written down. -/
theorem Follows.note (h : Follows events skipped r st) (hstep : Step st d st')
    (hjournal : r'.journal = r.journal) (hphase : r'.phase = st'.phase)
    (hpending : r'.inbox.pending = st'.held.toList) (hfired : r'.fired = st'.fired)
    (hskipped : r'.skipped = r.skipped) : Follows events skipped (Run.note b d r') st' where
  path := by
    rw [deeds_note, hjournal]
    exact h.path.snoc hstep
  phase := hphase
  pending := hpending
  fired := hfired
  skipped := hskipped.trans h.skipped

theorem Follows.enter {p : Phase} (h : Follows events skipped r st)
    (hstep : st.phase ≠ p → Step st (.enter p) { st with phase := p }) :
    Follows events skipped (r.enter b p) { st with phase := p } := by
  unfold Run.enter
  split
  next hsame =>
    have hphase : st.phase = p := h.phase.symm.trans hsame
    subst hphase
    exact h
  next hother =>
    exact h.note (hstep fun hphase => hother (h.phase.trans hphase)) rfl rfl h.pending h.fired rfl

theorem Follows.beginRound (h : Follows events skipped r st) (hheld : st.held = none) :
    Follows events skipped (r.beginRound b) st := by
  have hpending : r.inbox.pending = [] := by rw [h.pending, hheld]; rfl
  unfold Run.beginRound
  rw [hpending]
  exact h.note (.turn hheld) rfl h.phase h.pending h.fired rfl

/-- What a wait makes of a standing: a reported checkpoint is held from then on, and any other news
leaves the standing as it is. -/
def Heard (st : Standing) : News → Standing → Prop
  | .reported id, st' => ∃ t, st' = { st with held := some (id, t) }
  | _, st' => st' = st

theorem listen_follows {w : Watch} {messages : Nat} {news : News}
    (hlisten : r.listen b w messages = (news, r')) (hwaits : st.Waits)
    (h : Follows events skipped r st) :
    ∃ st', Follows events skipped r' st' ∧ Heard st news st' := by
  induction messages generalizing r with
  | zero =>
      cases hlisten
      exact ⟨st, h, rfl⟩
  | succ messages ih =>
      unfold Run.listen at hlisten
      split at hlisten
      next m s heq =>
        have hpending : r.inbox.pending = [] := by rw [h.pending, hwaits.held]; rfl
        obtain ⟨t, report⟩ := m
        cases report with
        | checkpoint id =>
            cases hlisten
            have hstep : Step st (.receive ⟨t, .checkpoint id⟩) { st with held := some (id, t) } :=
              .report hwaits
            refine ⟨_, h.note hstep rfl h.phase ?_ h.fired rfl, t, rfl⟩
            simp [hpending]
        | _ =>
            dsimp only [Inbox.take] at hlisten
            refine ih hlisten ?_
            refine h.note (.receive hwaits ?_) rfl h.phase h.pending h.fired rfl
            rintro id ⟨⟩
      all_goals
        cases hlisten
        exact ⟨st, h.congr rfl, rfl⟩

theorem Follows.release {id : Checkpoint} {t : Ticket} (h : Follows events skipped r st)
    (hheld : st.held = some (id, t)) (hfailed : st.failed = none)
    (hdue : st.exited = false → (EventQueue.takeDue id st.left).1 = []) :
    Follows events skipped (r.release b id) { st with held := none } := by
  have hpending : r.inbox.pending = [(id, t)] := by rw [h.pending, hheld]; rfl
  have hrelease : r.inbox.release id = .ok (t, { r.inbox with pending := [] }) := by
    simp [Inbox.release, hpending]
  unfold Run.release
  rw [hrelease]
  exact h.note (.release hheld hfailed hdue) rfl h.phase rfl h.fired rfl

/-- The end of the channel answers a report at which an injection has failed. -/
theorem Follows.shutDown (h : Follows events skipped r st)
    (hheld : st.held = none ∨ st.failed ≠ none) :
    Follows events skipped (r.shutDown b) { st with held := none } := by
  have hpending := h.pending
  cases hst : st.held with
  | none =>
      rw [hst] at hpending
      have hstep : Step st (.shutDown []) { st with held := none } := by
        have hsame : { st with held := none } = st := by rw [← hst]
        rw [hsame]
        exact .shutDown hst
      unfold Run.shutDown
      simp only [Inbox.releaseAll, hpending]
      exact h.note hstep rfl h.phase rfl h.fired rfl
  | some report =>
      obtain ⟨id, t⟩ := report
      obtain ⟨e, hfailed⟩ := Option.ne_none_iff_exists'.mp (hheld.resolve_left (by simp [hst]))
      rw [hst] at hpending
      unfold Run.shutDown
      simp only [Inbox.releaseAll, hpending]
      exact h.note (.shutDownHeld hst hfailed) rfl h.phase rfl h.fired rfl

theorem Follows.abandon (h : Follows events skipped r st) (hheld : st.held = none) :
    Follows events skipped (r.abandon b) st :=
  h.note (.abandon hheld) rfl h.phase h.pending h.fired rfl

/-! ### Injecting -/

/-- The injections for a report go on until one of them fails. The induction is on the events that
are due. -/
theorem injectAll_comes {id : Checkpoint} {t : Ticket} {due rest : List Event} (delay : Duration)
    (h : Follows events skipped r st) (hhandles : st.Handles id t) (hphase : st.phase = .injecting)
    (hleft : st.left = due ++ rest) (hdue : ∀ e ∈ due, e.checkpoint = id) :
    Comes events skipped
      (fun st' => st'.Handles id t ∧ st'.phase = .injecting ∧ st'.left = rest)
      (injectAll b id delay due r) := by
  induction due generalizing r st delay with
  | nil => exact ⟨st, h, hhandles, hphase, hleft⟩
  | cons e due ih =>
      have he : e.checkpoint = id := hdue e List.mem_cons_self
      unfold injectAll
      split
      next cause j s heq =>
        exact ⟨_, h.note (.fail hphase hhandles hleft he) rfl h.phase h.pending h.fired rfl,
          .inr nofun, hhandles.running⟩
      next record j s heq =>
        dsimp only
        have hinject : Step st (.inject e id r.injector.registry.runtime true)
            { st with fired := st.fired ++ [e], left := due ++ rest } :=
          .inject hphase hhandles hleft he
        split
        next =>
          refine ⟨{ st with fired := st.fired ++ [e], left := due ++ rest }, ?_⟩
          rw [deeds_note]
          exact h.path.snoc hinject
        next delay' _ =>
          have hnext : Follows events skipped
              (Run.note b (.inject e id r.injector.registry.runtime true)
                { r with injector := j, world := s, fired := r.fired ++ [e] })
              { st with fired := st.fired ++ [e], left := due ++ rest } :=
            h.note hinject rfl h.phase h.pending (congrArg (· ++ [e]) h.fired) rfl
          exact ih delay' hnext ⟨hhandles.held, hhandles.failed, hhandles.running⟩ hphase rfl
            fun e' he' => hdue e' (List.mem_cons_of_mem e he')

/-- All events that are due at a report are injected, and none is due after that. -/
theorem fire_comes {id : Checkpoint} {t : Ticket} (h : Follows events skipped r st)
    (hhandles : st.Handles id t)
    (hphase : st.phase = if st.left.isEmpty then .driverCompleting else .awaitingCheckpoint) :
    Comes events skipped
      (fun st' => st'.Handles id t ∧ st'.left = (EventQueue.takeDue id st.left).2 ∧
        (st'.phase = .injecting ∨
          st'.phase = if st'.left.isEmpty then .driverCompleting else .awaitingCheckpoint))
      (fire b id (EventQueue.takeDue id st.left).1 r) := by
  have hqueue := EventQueue.takeDue_append id st.left
  cases hdue : (EventQueue.takeDue id st.left).1 with
  | nil =>
      rw [hdue, List.nil_append] at hqueue
      exact ⟨st, h, hhandles, hqueue.symm, .inr hphase⟩
  | cons e due =>
      rw [hdue] at hqueue
      have hcheckpoints : ∀ e' ∈ e :: due, e'.checkpoint = id :=
        fun e' he' => EventQueue.mem_takeDue (hdue ▸ he')
      have hleft : st.left = e :: (due ++ (EventQueue.takeDue id st.left).2) := hqueue.symm
      have hawaiting : st.phase = .awaitingCheckpoint := by rw [hphase, hleft]; rfl
      have henter : Follows events skipped (r.enter b .injecting) { st with phase := .injecting } :=
        h.enter fun _ => .fire hawaiting hhandles hleft (hcheckpoints e List.mem_cons_self)
      have hcomes := injectAll_comes (b := b) .zero henter
        ⟨hhandles.held, hhandles.failed, hhandles.running⟩ rfl hqueue.symm hcheckpoints
      unfold fire
      simp only [List.isEmpty_cons, Bool.false_eq_true, if_false]
      split
      next halt r' heq =>
        rw [heq] at hcomes
        cases halt <;> exact hcomes
      next delay r' heq =>
        rw [heq] at hcomes
        obtain ⟨st', hfollows, hhandles', hphase', hleft'⟩ := hcomes
        refine ⟨st', ?_, hhandles', hleft', .inl hphase'⟩
        split
        next => exact hfollows
        next => exact hfollows.congr rfl

/-! ### Rounds -/

/-- The rounds are over: the driver has ended, or the trial is stopped. -/
def Ends (events : List Event) (result : Except Halt DriverExit × EventQueue × Run σ) : Prop :=
  Comes events [] (fun st => st.Waits ∧ st.exited = true ∧ st.left = result.2.1)
    (result.1, result.2.2)

/-- A round begins with waiting for the next checkpoint or for the end of the driver. -/
theorem Follows.head (h : Follows events skipped r st) (hheads : st.Heads) :
    let p := if st.left.isEmpty then .driverCompleting else .awaitingCheckpoint
    Follows events skipped (r.enter b p) { st with phase := p } ∧
      ({ st with phase := p } : Standing).Waits := by
  have hturns : ∀ p, p = (if st.left.isEmpty then .driverCompleting else .awaitingCheckpoint) →
      st.phase ≠ p → st.Turns := fun p hp hother =>
    ⟨by
      rcases hheads.phase with hphase | hphase | hphase
      · exact .inl hphase
      · exact .inr hphase
      · exact absurd (hphase.trans hp.symm) hother, hheads.held, hheads.failed, hheads.running⟩
  cases hempty : st.left.isEmpty with
  | true =>
      have hleft : st.left = [] := List.isEmpty_iff.mp hempty
      exact ⟨h.enter fun hother => .complete (hturns _ (by simp [hempty]) hother) hleft,
        .inr rfl, hheads.held, hheads.failed⟩
  | false =>
      have hleft : st.left ≠ [] := by simpa using hempty
      exact ⟨h.enter fun hother => .await (hturns _ (by simp [hempty]) hother) hleft,
        .inl rfl, hheads.held, hheads.failed⟩

/-- What comes of a round while the driver runs. -/
def Goes (events : List Event) :
    Turn (Except Halt DriverExit × EventQueue × Run σ) (Bool × EventQueue × Run σ) → Prop
  | .over result => Ends events result
  | .again (_, queue, r) => ∃ st, Follows events [] r st ∧ st.Heads ∧ st.left = queue

theorem hear_goes {s : Settings} {time : Nat} {listening : Bool} {queue : EventQueue} {news : News}
    (hwaits : st.Waits) (hrunning : st.exited = false) (hqueue : st.left = queue)
    (hphase : st.phase = if queue.isEmpty then .driverCompleting else .awaitingCheckpoint)
    (h : Follows events [] r st') (hheard : Heard st news st') :
    Goes events (hear b s time listening queue news r) := by
  subst hqueue
  cases news with
  | cancelled | lost _ =>
      cases hheard
      exact ⟨_, h, .inl hwaits.held, hrunning⟩
  | exited e =>
      cases hheard
      have habsorbed := h.congr r.course_absorb
      exact ⟨_, habsorbed.note (.observeExit hwaits hrunning) rfl habsorbed.phase
        habsorbed.pending habsorbed.fired rfl, ⟨hwaits.phase, hwaits.held, hwaits.failed⟩, rfl, rfl⟩
  | deserted =>
      cases hheard
      exact ⟨_, h.congr r.course_absorb, ⟨.inr (.inr hphase), hwaits.held, hwaits.failed, hrunning⟩,
        rfl⟩
  | timedOut =>
      cases hheard
      dsimp only [hear]
      split
      next => exact ⟨_, h.congr r.course_absorb, .inl hwaits.held, hrunning⟩
      next => exact ⟨_, h, .inl hwaits.held, hrunning⟩
  | reported id =>
      obtain ⟨t, rfl⟩ := hheard
      have hseen := h.congr (show (r.absorb.see id).course = r.course from r.course_absorb)
      have hcomes := fire_comes (b := b) hseen ⟨rfl, hwaits.failed, hrunning⟩ hphase
      unfold hear
      dsimp only at hcomes ⊢
      split
      next halt r' heq =>
        rw [heq] at hcomes
        cases halt <;> exact hcomes
      next r' heq =>
        rw [heq] at hcomes
        obtain ⟨st', hr', hhandles, hleft, hphase'⟩ := hcomes
        refine ⟨_, hr'.release hhandles.held hhandles.failed fun _ => ?_,
          ⟨.inr hphase', rfl, hhandles.failed, hhandles.running⟩, hleft⟩
        rw [hleft]
        exact EventQueue.takeDue_takeDue id st.left

/-- One round while the driver runs. -/
theorem round_goes (s : Settings) (deadline : Nat) (listening : Bool)
    (h : Follows events [] r st) (hheads : st.Heads) :
    Goes events (round b s deadline listening st.left r) := by
  obtain ⟨hhead, hwaits⟩ := (h.beginRound (b := b) hheads.held).head (b := b) hheads
  unfold round
  refine iteInduction (motive := Goes events) (fun _ => ?_) fun _ => ?_
  · exact ⟨_, hhead.congr rfl, .inl hheads.held, hheads.running⟩
  · dsimp only
    generalize hlisten : Run.listen b _ _ _ = heard
    obtain ⟨news, r'⟩ := heard
    obtain ⟨st', hr', hheard⟩ := listen_follows hlisten hwaits (hhead.congr rfl)
    exact hear_goes hwaits hheads.running rfl rfl hr' hheard

/-- All rounds while the driver runs. -/
theorem coordinate_ends (s : Settings) (deadline rounds : Nat) (listening : Bool)
    (h : Follows events [] r st) (hheads : st.Heads) :
    Ends events (coordinate b s deadline rounds listening st.left r) := by
  induction rounds generalizing r st listening with
  | zero => exact ⟨st, h, .inl hheads.held, hheads.running⟩
  | succ rounds ih =>
      have hround := round_goes (b := b) s deadline listening h hheads
      unfold coordinate
      split
      next result heq =>
        rw [heq] at hround
        exact hround
      next listening' queue r' heq =>
        rw [heq] at hround
        obtain ⟨st', hr', hheads', rfl⟩ := hround
        exact ih listening' hr' hheads'

/-- What comes of a round after the driver has ended. -/
def Stays (events skipped : List Event) (st : Standing) : Turn (Run σ) (Run σ) → Prop
  | .over r | .again r => Follows events skipped r st

/-- A checkpoint that is reported after the driver has ended is released at once. -/
theorem settleRound_stays (until_ : Nat) (h : Follows events skipped r st) (hwaits : st.Waits)
    (hexited : st.exited = true) : Stays events skipped st (settleRound b until_ r) := by
  have hbegun := h.beginRound (b := b) hwaits.held
  unfold settleRound
  refine iteInduction (motive := Stays events skipped st) (fun _ => ?_) fun _ => ?_
  · exact hbegun.congr (course_absorb _)
  · dsimp only
    generalize hlisten : Run.listen b _ _ _ = heard
    obtain ⟨news, r'⟩ := heard
    obtain ⟨st', hr', hheard⟩ := listen_follows hlisten hwaits (hbegun.congr rfl)
    cases news with
    | reported id =>
        obtain ⟨t, rfl⟩ := hheard
        have hseen := hr'.congr (show (r'.see id).course = r'.course from rfl)
        have hreleased := hseen.release (b := b) rfl hwaits.failed (by simp [hexited])
        have hsame : ({ st with held := none } : Standing) = st := by rw [← hwaits.held]
        exact hsame ▸ hreleased
    | _ =>
        cases hheard
        exact hr'.congr r'.course_absorb

/-- All rounds after the driver has ended. -/
theorem settle_follows (until_ rounds : Nat) (h : Follows events skipped r st) (hwaits : st.Waits)
    (hexited : st.exited = true) : Follows events skipped (settle b until_ rounds r) st := by
  induction rounds generalizing r with
  | zero => exact h.congr r.course_absorb
  | succ rounds ih =>
      have hround := settleRound_stays (b := b) until_ h hwaits hexited
      unfold settle
      split
      next r' heq => rwa [heq] at hround
      next r' heq =>
        rw [heq] at hround
        exact ih hround

/-! ### The attempt -/

/-- An attempt is over. If it has come to a verdict, the driver has ended and the events that are
left are those that were skipped; if it has failed, the driver has not been seen to end and none was
skipped. -/
def Closes (events : List Event) : Except Halt Outcome × Run σ → Prop
  | (.ok outcome, r) => ∃ st, Follows events st.left r st ∧ st.held = none ∧ st.exited = true ∧
      st.phase = .checking ∧ outcome.isEngineError = false
  | (.error (.failed _), r) => ∃ st, Follows events [] r st ∧ st.held = none ∧ st.exited = false
  | (.error .clockOverflow, r) => ∃ st, Path { left := events } r.journal.deeds st

theorem Follows.heal (h : Follows events skipped r st) (hphase : st.phase = .checking) :
    Follows events skipped (r.heal b) st :=
  h.note (.heal hphase) rfl h.phase h.pending h.fired rfl

theorem Follows.judge (h : Follows events skipped r st) (hphase : st.phase = .checking)
    (check : Check) : Follows events skipped (r.judge b check).2 st := by
  have hnoted : Follows events skipped (r.note b (.check r.observation)) st :=
    h.note (.judge hphase) rfl h.phase h.pending h.fired rfl
  unfold Run.judge
  dsimp only
  split
  next => exact hnoted.congr rfl
  next => exact hnoted

theorem isEngineError_ofVerdict (verdict : Verdict) :
    (Outcome.ofVerdict verdict).isEngineError = false := by
  cases verdict <;> rfl

theorem conclude_closes (s : Settings) (check : Check) (exit : DriverExit)
    (h : Follows events st.left r st) (hwaits : st.Waits) (hexited : st.exited = true) :
    Closes events (conclude b s check exit r) := by
  unfold conclude
  split
  next => exact ⟨st, h.path⟩
  next until_ _ =>
    have hsettled := settle_follows (b := b) until_ (s.trial.settle.nanos + 1) h hwaits hexited
    have hshut := hsettled.shutDown (b := b) (.inl hwaits.held)
    have hchecking := (hshut.congr (course_collect (b := b) (some exit) _)).enter (b := b) fun _ =>
      .check ⟨hwaits.phase, rfl, hwaits.failed⟩ hexited
    refine ⟨{ st with held := none, phase := .checking }, Follows.judge ?_ rfl check, rfl, hexited,
      rfl, isEngineError_ofVerdict _⟩
    split
    next => exact hchecking.heal rfl
    next => exact hchecking

/-- Stopping the driver answers the report at which an injection has failed. -/
theorem Follows.breakOff (h : Follows events skipped r st) (hbreaks : st.BreaksOff) :
    Follows events skipped (r.breakOff b) { st with held := none } := by
  have hterminated : Follows events skipped
      { r with terminated := true, world := (b.terminate r.world).2 } st := h.congr rfl
  exact (hterminated.shutDown hbreaks.held).congr (course_collect _ _)

@[simp] theorem campaign_note (r : Run σ) : (r.note b d).campaign = r.campaign := rfl

@[simp] theorem campaign_enter (p : Phase) (r : Run σ) : (r.enter b p).campaign = r.campaign := by
  unfold Run.enter
  split <;> rfl

/-- A run whose driver has been started is at the head of its first round. -/
theorem Follows.launched (h : Follows events [] r { phase := .planLoaded, left := events }) (w : σ)
    (capture : Capture) :
    Follows events []
      (Run.enter b .driverLaunched (Run.note b .launch { r with world := w, capture := capture }))
      { phase := .driverLaunched, left := events } := by
  have hstarting : Follows events [] { r with world := w, capture := capture }
      { phase := .planLoaded, left := events } := h.congr rfl
  have hnoted := hstarting.note (b := b) (.launch rfl) rfl h.phase h.pending h.fired rfl
  exact hnoted.enter fun _ => .launched rfl

theorem Follows.skip (h : Follows events [] r st) (queue : EventQueue) :
    Follows events queue { r with skipped := queue } st :=
  ⟨h.path, h.phase, h.pending, h.fired, rfl⟩

/-- With the driver, from its start to the outcome. -/
theorem drive_closes (s : Settings) (driver : Script) (plan : Plan) (reference : Reference)
    (check : Check) (h : Follows events [] r { phase := .planLoaded, left := events })
    (hevents : eventsIn r.campaign.stage plan = events) :
    Closes events (drive b s driver plan reference check r) := by
  unfold drive
  dsimp only
  split
  next cause w _ =>
    have hstarting : Follows events []
        { r with
          world := w
          capture := Capture.new s.trial.outputTailLines
            (Check.watchedMarkers s.checker reference) }
        { phase := .planLoaded, left := events } := h.congr rfl
    exact ⟨_, hstarting.shutDown (.inl rfl), rfl, rfl⟩
  next w _ =>
    have hlaunched := h.launched (b := b) w
      (Capture.new s.trial.outputTailLines (Check.watchedMarkers s.checker reference))
    split
    next => exact ⟨_, hlaunched.path⟩
    next deadline _ =>
      have hends := coordinate_ends (b := b) s deadline (s.trial.trialTimeout.nanos + 1) true
        hlaunched ⟨.inl rfl, rfl, rfl, rfl⟩
      simp only [campaign_enter, campaign_note, hevents]
      split
      next r' heq =>
        rw [heq] at hends
        exact hends
      next cause _ r' heq =>
        rw [heq] at hends
        obtain ⟨st', hr', hbreaks⟩ := hends
        exact ⟨_, hr'.breakOff hbreaks, rfl, hbreaks.running⟩
      next exit queue r' heq =>
        rw [heq] at hends
        obtain ⟨st', hr', hwaits, hexited, rfl⟩ := hends
        exact conclude_closes s check exit (hr'.skip _) hwaits hexited

/-- A trial is ready to go on with its driver, or has failed before. -/
def Readies (events : List Event) :
    Except TrialFailure (Plan × Reference × Check) × Run σ → Prop
  | (.ok (plan, _, _), r) => Follows events [] r { phase := .planLoaded, left := events } ∧
      eventsIn r.campaign.stage plan = events
  | (.error _, r) => ∃ p, Follows events [] r { phase := p, left := events }

theorem begin_readies {plan : Plan} (reference : Reference)
    (hevents : eventsIn r.campaign.stage plan = events)
    (h : Follows events [] r { left := events }) :
    Follows events [] (r.begin b plan reference) { phase := .planLoaded, left := events } ∧
      eventsIn (r.begin b plan reference).campaign.stage plan = events := by
  have hentered := h.enter (b := b) fun _ => .load rfl
  have hcampaign : (r.begin b plan reference).campaign.stage =
      (r.enter b .planLoaded).campaign.stage := rfl
  exact ⟨hentered.congr rfl, by rw [hcampaign, campaign_enter, hevents]⟩

theorem publish_eq {paths : CampaignPaths} {answer : Except FileError Unit}
    (h : r.publish b paths = (answer, r')) : r' = { r with world := r'.world } := by
  cases h
  rfl

theorem prepare_readies (s : Settings) (spec : TrialSpec)
    (hevents : ∀ plan, r.loadPlan b spec.plan = .ok plan → eventsIn r.campaign.stage plan = events)
    (h : Follows events [] r { left := events }) : Readies events (r.prepare b s spec) := by
  unfold prepare
  split
  next failure _ => exact ⟨.init, h⟩
  next plan hplan =>
    have hbegun :=
      begin_readies (b := b) (spec.invariant.getD plan.invariant) (hevents plan hplan) h
    dsimp only
    split
    next cause r' heq =>
      rw [publish_eq heq]
      exact ⟨_, hbegun.1.congr rfl⟩
    next r' heq =>
      have hr' := publish_eq heq
      have hpublished : Follows events [] r' { phase := .planLoaded, left := events } := by
        rw [hr']
        exact hbegun.1.congr rfl
      split
      next => exact ⟨_, hpublished⟩
      next check _ =>
        refine iteInduction (motive := Readies events) (fun _ => ⟨_, hpublished⟩) fun _ =>
          ⟨hpublished, ?_⟩
        rw [hr']
        exact hbegun.2

theorem Follows.connect (h : Follows events skipped r st) (address : String) :
    Follows events skipped
      { r with environment := { r.environment with channelAddr := address } } st :=
  h.congr rfl

/-- Every attempt keeps to the protocol. -/
theorem attempt_closes (s : Settings) (driver : Script) (spec : TrialSpec)
    (channel : Except ChannelError String)
    (hevents : ∀ plan, r.loadPlan b spec.plan = .ok plan → eventsIn r.campaign.stage plan = events)
    (h : Follows events [] r { left := events }) :
    Closes events (r.attempt b s driver spec channel) := by
  have hreadies := prepare_readies (b := b) s spec hevents h
  unfold attempt
  split
  next failure r' _ heq =>
    rw [heq] at hreadies
    obtain ⟨p, hr'⟩ := hreadies
    exact ⟨_, hr'.abandon rfl, rfl, rfl⟩
  next failure r' _ heq =>
    rw [heq] at hreadies
    obtain ⟨p, hr'⟩ := hreadies
    exact ⟨_, hr', rfl, rfl⟩
  next _ r' cause heq =>
    rw [heq] at hreadies
    exact ⟨_, hreadies.1, rfl, rfl⟩
  next plan reference check r' address heq =>
    rw [heq] at hreadies
    obtain ⟨hr', hqueue⟩ := hreadies
    have hdrive :=
      drive_closes (b := b) s driver plan reference check (hr'.connect address) hqueue
    dsimp only
    split
    next r'' heq' =>
      rw [heq'] at hdrive
      exact hdrive
    next outcome r'' hother heq' =>
      rw [heq'] at hdrive
      cases outcome with
      | ok outcome =>
          obtain ⟨st, hr'', hheld, hverdict⟩ := hdrive
          exact ⟨st, hr''.abandon hheld, hheld, hverdict⟩
      | error halt =>
          cases halt with
          | failed cause =>
              obtain ⟨st, hr'', hheld, hrunning⟩ := hdrive
              exact ⟨st, hr''.abandon hheld, hheld, hrunning⟩
          | clockOverflow => exact absurd rfl hother

end Run

end FaultDrill
