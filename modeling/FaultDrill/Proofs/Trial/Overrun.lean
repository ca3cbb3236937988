import FaultDrill.Proofs.Trial.Isolation
import FaultDrill.Proofs.Trial.Playback
import Mathlib.Data.Bool.Basic
import Mathlib.Order.Basic

/-!
# FaultDrill.Proofs.Trial.Overrun

What a trial still does when it has to stop, because an operator has asked for it or because its
deadline has come. Both are looked at while the runner waits, and nowhere else. So whatever is
injected or released belongs to one report, which was received in a round that began before the
deadline, and everything that has to do with this report is done to its end, however late it is
(`Run.served_of_coordinate`): the events that are due are injected one after the other, with all
their attempts, the reporter is held for all of the delays, and then it is released
(`late_injections_and_release`).

Each round takes time, so the rounds come to an end, and the bounds on their number that a trial
goes by are never what ends them (`Run.coordinate_congr`, `Run.settle_congr`).

The proof follows a run through its rounds. At each point the run stands between two rounds, waits
for a report, or handles one (`Station`); its entries since the beginning are in order of time, and
each effect among them has served the report that was handled then (`Run.Writes`).
-/

namespace FaultDrill

variable {σ : Type}

/-! ### Time and the request to stop -/

/-- The time, with whether a stop has been asked for. -/
def Bench.stamp (b : Bench σ) (s : σ) : Nat × Bool :=
  (b.now s, b.cancelled s)

/-- Time does not go back, and a request to stop is not withdrawn. -/
structure Bench.Steady (b : Bench σ) : Prop where
  keeps : ∀ stamp, b.Keeps fun s => stamp ≤ b.stamp s
  wait : ∀ w s, b.stamp s ≤ b.stamp (b.wait w s).2

theorem Bench.Steady.le_of_leads {b : Bench σ} (hb : b.Steady) {s s' : σ} (h : b.Leads s s') :
    b.stamp s ≤ b.stamp s' :=
  h _ (hb.keeps _) le_rfl

namespace JournalEntry

/-- The time of an entry, with whether a stop had been asked for. -/
def stamp (x : JournalEntry) : Nat × Bool :=
  (x.time, x.cancelled)

/-- A stop had been asked for, or the deadline had come. -/
def IsLate (deadline : Nat) (x : JournalEntry) : Prop :=
  x.cancelled = true ∨ deadline ≤ x.time

instance (deadline : Nat) (x : JournalEntry) : Decidable (x.IsLate deadline) :=
  inferInstanceAs (Decidable (_ ∨ _))

theorem IsLate.mono {deadline : Nat} {x y : JournalEntry} (h : x.IsLate deadline)
    (hle : x.stamp ≤ y.stamp) : y.IsLate deadline := by
  obtain ⟨htime, hcancelled⟩ := Prod.mk_le_mk.mp hle
  exact h.imp (Bool.le_iff_imp.mp hcancelled) htime.trans'

end JournalEntry

/-! ### The handling of a report -/

namespace Deed

/-- The deeds by which a trial takes effect on the system under test. -/
def isEffect : Deed → Bool
  | inject .. | release _ => true
  | _ => false

/-- Whether a round begins. -/
def isTurn : Deed → Bool
  | turn _ => true
  | _ => false

/-- The handling of a report of a checkpoint goes on. -/
inductive Continues (id : Checkpoint) : Deed → Prop
  | enter : Continues id (.enter .injecting)
  | inject {e : Event} {registered : SortedMap String UInt32} : e.checkpoint = id →
      Continues id (.inject e id registered true)

/-- An effect that serves a report of a checkpoint: one of the events that are due at it, or the
release of its reporter. -/
inductive Serves (id : Checkpoint) (sender : Ticket) : Deed → Prop
  | inject {e : Event} {registered : SortedMap String UInt32} {succeeded : Bool} :
      e.checkpoint = id → Serves id sender (.inject e id registered succeeded)
  | release : Serves id sender (.release sender)

end Deed

namespace Journal

variable {deadline : Nat} {id : Checkpoint} {sender : Ticket} {js : Journal} {x : JournalEntry}

/-- The last round has begun before the deadline. -/
def Opened (deadline : Nat) (js : Journal) : Prop :=
  ∃ earlier head waiting, js = earlier ++ head :: waiting ∧ head.deed.isTurn = true ∧
    (∀ y ∈ earlier ++ [head], y.time < deadline) ∧ ∀ y ∈ waiting, y.deed.isTurn = false

/-- In a round that has begun before the deadline a report was received, and nothing has been done
since but to handle it. -/
def Handles (deadline : Nat) (id : Checkpoint) (sender : Ticket) (js : Journal) : Prop :=
  ∃ opened report handling, js = opened ++ report :: handling ∧ Opened deadline opened ∧
    report.deed = .receive ⟨sender, .checkpoint id⟩ ∧ ∀ y ∈ handling, y.deed.Continues id

theorem forall_mem_snoc {P : JournalEntry → Prop} (h : ∀ y ∈ js, P y) (hx : P x) :
    ∀ y ∈ js ++ [x], P y :=
  List.forall_mem_append.mpr ⟨h, List.forall_mem_singleton.mpr hx⟩

theorem Opened.snoc (h : Opened deadline js) (hx : x.deed.isTurn = false) :
    Opened deadline (js ++ [x]) := by
  obtain ⟨earlier, head, waiting, rfl, hhead, hbefore, hwaiting⟩ := h
  exact ⟨earlier, head, waiting ++ [x], by simp, hhead, hbefore, forall_mem_snoc hwaiting hx⟩

theorem Opened.handles (h : Opened deadline js) (hx : x.deed = .receive ⟨sender, .checkpoint id⟩) :
    Handles deadline id sender (js ++ [x]) :=
  ⟨js, x, [], rfl, h, hx, nofun⟩

theorem Handles.snoc (h : Handles deadline id sender js) (hx : x.deed.Continues id) :
    Handles deadline id sender (js ++ [x]) := by
  obtain ⟨opened, report, handling, rfl, hopened, hreport, hhandling⟩ := h
  exact ⟨opened, report, handling ++ [x], by simp, hopened, hreport, forall_mem_snoc hhandling hx⟩

end Journal

/-! ### Where a run stands -/

/-- Where a run stands in its rounds. -/
inductive Station where
  /-- The rounds may be over. -/
  | ended
  | between
  | waiting
  | handling (id : Checkpoint) (sender : Ticket)

/-- What has been written and who is held where a run stands. -/
def Station.Fits (deadline : Nat) : Station → Journal → List (Checkpoint × Ticket) → Prop
  | .ended, _, _ => True
  | .between, _, held => held = []
  | .waiting, js, held => js.Opened deadline ∧ held = []
  | .handling id sender, js, held => js.Handles deadline id sender ∧ held = [(id, sender)]

namespace Run

variable {b : Bench σ} {deadline : Nat} {first js : Journal} {st : Station} {r r' : Run σ}

/-- Entries that have been written after the first ones are in order of time, and each effect among
them has served a report that was handled then. -/
structure Writes (b : Bench σ) (deadline : Nat) (first js : Journal) (r : Run σ) : Prop where
  journal : r.journal = first ++ js
  ordered : js.Pairwise fun x y => x.stamp ≤ y.stamp
  past : ∀ x ∈ js, x.stamp ≤ b.stamp r.world
  served : ∀ before e after, js = before ++ e :: after → e.deed.isEffect = true →
    ∃ id sender, Journal.Handles deadline id sender before ∧ e.deed.Serves id sender

/-- A run stands somewhere in its rounds, after entries that are in order. -/
def StandsAt (b : Bench σ) (deadline : Nat) (first : Journal) (st : Station) (r : Run σ) : Prop :=
  ∃ js, Writes b deadline first js r ∧ st.Fits deadline js r.inbox.pending

theorem Writes.nil (r : Run σ) : Writes b deadline r.journal [] r :=
  ⟨(List.append_nil _).symm, .nil, nofun, fun _ _ _ h => by simp at h⟩

theorem Writes.note {d : Deed} (h : Writes b deadline first js r)
    (hd : d.isEffect = true →
      ∃ id sender, Journal.Handles deadline id sender js ∧ d.Serves id sender) :
    Writes b deadline first (js ++ [⟨b.now r.world, b.cancelled r.world, d⟩]) (r.note b d) := by
  refine ⟨?_, ?_, Journal.forall_mem_snoc h.past le_rfl, ?_⟩
  · show r.journal ++ _ = _
    rw [h.journal, List.append_assoc]
  · rw [List.pairwise_append]
    exact ⟨h.ordered, List.pairwise_singleton .., fun x hx y hy =>
      List.mem_singleton.mp hy ▸ h.past x hx⟩
  · intro before e after heq he
    obtain ⟨rfl, rfl, -⟩ | ⟨rest, hjs, -⟩ := snoc_eq_append_cons heq
    · exact hd he
    · exact h.served before e rest hjs he

/-- Time may pass, and whatever is not written down may change. -/
theorem Writes.onward (h : Writes b deadline first js r)
    (hworld : b.stamp r.world ≤ b.stamp r'.world) (hjournal : r'.journal = r.journal) :
    Writes b deadline first js r' :=
  ⟨hjournal.trans h.journal, h.ordered, fun x hx => (h.past x hx).trans hworld, h.served⟩

theorem StandsAt.onward (h : StandsAt b deadline first st r)
    (hworld : b.stamp r.world ≤ b.stamp r'.world) (hjournal : r'.journal = r.journal)
    (hpending : r'.inbox.pending = r.inbox.pending) : StandsAt b deadline first st r' := by
  obtain ⟨js, hwrites, hfits⟩ := h
  exact ⟨js, hwrites.onward hworld hjournal, hpending ▸ hfits⟩

theorem StandsAt.ended (h : StandsAt b deadline first st r) :
    StandsAt b deadline first .ended r := by
  obtain ⟨js, hwrites, -⟩ := h
  exact ⟨js, hwrites, trivial⟩

theorem StandsAt.absorb (h : StandsAt b deadline first st r) :
    StandsAt b deadline first st r.absorb :=
  h.onward (by rw [absorb_eq]) (by rw [absorb_eq]) (by rw [absorb_eq])

/-! ### Waiting for a report -/

/-- The news of a wait leave a run between two rounds, unless they are a report. -/
def Leaves (b : Bench σ) (deadline : Nat) (first : Journal) : News → Run σ → Prop
  | .reported id, r => ∃ sender, StandsAt b deadline first (.handling id sender) r
  | _, r => StandsAt b deadline first .between r

theorem listen_leaves (hb : b.Steady) {w : Watch} {messages : Nat} {news : News}
    (hlisten : r.listen b w messages = (news, r')) (h : StandsAt b deadline first .waiting r) :
    Leaves b deadline first news r' := by
  induction messages generalizing r with
  | zero =>
      cases hlisten
      obtain ⟨js, hwrites, -, hheld⟩ := h
      exact ⟨js, hwrites, hheld⟩
  | succ messages ih =>
      obtain ⟨js, hwrites, hopened, hheld⟩ := h
      have hwait := hb.wait w r.world
      unfold Run.listen at hlisten
      split at hlisten
      next m s heq =>
        rw [heq] at hwait
        have hmoved : Writes b deadline first js
            { r with world := s, inbox := (r.inbox.take m).2 } := hwrites.onward hwait rfl
        have hreceived := hmoved.note (d := .receive m) nofun
        obtain ⟨sender, report⟩ := m
        cases report with
        | checkpoint id =>
            cases hlisten
            exact ⟨sender, _, hreceived, hopened.handles rfl, by simp [hheld, note]⟩
        -- other reports are put aside, and the wait goes on in the same round
        | _ => exact ih hlisten ⟨_, hreceived, hopened.snoc rfl, hheld⟩
      all_goals
        next heq =>
          rw [heq] at hwait
          cases hlisten
          exact ⟨js, hwrites.onward hwait rfl, hheld⟩

/-! ### Handling a report -/

variable {id : Checkpoint} {sender : Ticket}

/-- What comes of the injections for a report: it is still handled, or the rounds are over. -/
def Strikes (b : Bench σ) (deadline : Nat) (first : Journal) (id : Checkpoint) (sender : Ticket)
    {α : Type} : Except Halt α × Run σ → Prop
  | (.ok _, r) => StandsAt b deadline first (.handling id sender) r
  | (.error _, r) => StandsAt b deadline first .ended r

/-- Nothing but the failure of an event ends the injections: the induction is on the events that are
due, and neither time nor a request to stop appears in it. -/
theorem injectAll_strikes (hb : b.Steady) (delay : Duration) {due : List Event}
    (hdue : ∀ e ∈ due, e.checkpoint = id) (h : StandsAt b deadline first (.handling id sender) r) :
    Strikes b deadline first id sender (injectAll b id delay due r) := by
  induction due generalizing r delay with
  | nil => exact h
  | cons e due ih =>
      obtain ⟨he, hrest⟩ := List.forall_mem_cons.mp hdue
      obtain ⟨js, hwrites, hhandles, hheld⟩ := h
      unfold injectAll
      dsimp only
      split
      next cause j s heq =>
        have hmoved : Writes b deadline first js { r with injector := j, world := s } :=
          hwrites.onward (hb.le_of_leads (inject_leads heq).1) rfl
        exact ⟨_, hmoved.note fun _ => ⟨id, sender, hhandles, .inject he⟩, trivial⟩
      next record j s heq =>
        have hmoved : Writes b deadline first js { r with injector := j, world := s } :=
          hwrites.onward (hb.le_of_leads (inject_leads heq).1) rfl
        have hinjected := hmoved.note (d := .inject e id r.injector.registry.runtime true)
          fun _ => ⟨id, sender, hhandles, .inject he⟩
        split
        next => exact ⟨_, hinjected, trivial⟩
        next delay' _ =>
          exact ih delay' hrest
            ⟨_, hinjected.onward le_rfl rfl, hhandles.snoc (.inject he), hheld⟩

theorem fire_strikes (hb : b.Steady) {due : List Event} (hdue : ∀ e ∈ due, e.checkpoint = id)
    (h : StandsAt b deadline first (.handling id sender) r) :
    Strikes b deadline first id sender (fire b id due r) := by
  have hentered : StandsAt b deadline first (.handling id sender) (r.enter b .injecting) := by
    unfold Run.enter
    split
    next => exact h
    next =>
      obtain ⟨js, hwrites, hhandles, hheld⟩ := h
      have hphase : Writes b deadline first js { r with phase := .injecting } :=
        hwrites.onward le_rfl rfl
      exact ⟨_, hphase.note nofun, hhandles.snoc .enter, hheld⟩
  have hinjected := injectAll_strikes hb .zero hdue hentered
  unfold fire
  split
  next => exact h
  next =>
    split
    next heq =>
      rw [heq] at hinjected
      exact hinjected
    next delay r₁ heq =>
      rw [heq] at hinjected
      split
      next => exact hinjected
      next =>
        -- the hold is slept through, whatever comes up meanwhile
        have hslept : b.Leads r₁.world (b.sleep delay.nanos r₁.world) :=
          fun _ hQ => hQ.sleep delay.nanos r₁.world
        exact StandsAt.onward hinjected (hb.le_of_leads hslept) rfl rfl

theorem StandsAt.release (hb : b.Steady) (h : StandsAt b deadline first (.handling id sender) r) :
    StandsAt b deadline first .between (r.release b id) := by
  obtain ⟨js, hwrites, hhandles, hheld⟩ := h
  have hrelease : r.inbox.release id = .ok (sender, { r.inbox with pending := [] }) := by
    simp [Inbox.release, hheld]
  have hanswered : b.Leads r.world (b.answer sender r.world) :=
    fun _ hQ => hQ.answer sender r.world
  unfold Run.release
  rw [hrelease]
  have hgone : Writes b deadline first js { r with
      inbox := { r.inbox with pending := [] }, world := b.answer sender r.world } :=
    hwrites.onward (hb.le_of_leads hanswered) rfl
  exact ⟨_, hgone.note fun _ => ⟨id, sender, hhandles, .release⟩, rfl⟩

/-! ### Rounds -/

/-- What comes of a round: the rounds are over, or the run stands before the next one. -/
def Rounds (b : Bench σ) (deadline : Nat) (first : Journal) :
    Turn (Except Halt DriverExit × EventQueue × Run σ) (Bool × EventQueue × Run σ) → Prop
  | .over (_, _, r) => StandsAt b deadline first .ended r
  | .again (_, _, r) => StandsAt b deadline first .between r

theorem hear_rounds (hb : b.Steady) {s : Settings} {time : Nat} {listening : Bool}
    {queue : EventQueue} {news : News} (h : Leaves b deadline first news r) :
    Rounds b deadline first (hear b s time listening queue news r) := by
  cases news with
  | cancelled | lost _ => exact StandsAt.ended h
  | exited e =>
      obtain ⟨js, hwrites, -⟩ := StandsAt.absorb h
      exact ⟨_, hwrites.note nofun, trivial⟩
  | deserted => exact StandsAt.absorb h
  | timedOut =>
      dsimp only [hear]
      split
      next => exact (StandsAt.absorb h).ended
      next => exact StandsAt.ended h
  | reported id =>
      obtain ⟨sender, hreported⟩ := h
      have hseen : StandsAt b deadline first (.handling id sender) (r.absorb.see id) :=
        hreported.absorb.onward le_rfl rfl rfl
      have hdue : ∀ e ∈ (EventQueue.takeDue id queue).1, e.checkpoint = id :=
        fun _ he => EventQueue.mem_takeDue he
      have hfired := fire_strikes hb hdue hseen
      unfold hear
      dsimp only
      split
      next heq =>
        rw [heq] at hfired
        exact hfired
      next heq =>
        rw [heq] at hfired
        exact StandsAt.release hb hfired

/-- A run is at the beginning of a round that has not yet been granted any time. -/
theorem StandsAt.head (hb : b.Steady) (h : StandsAt b deadline first .between r) (p : Phase) :
    ∃ earlier head opening, Writes b deadline first (earlier ++ head :: opening)
        { (r.beginRound b).enter b p with
          world := b.sleep 1 ((r.beginRound b).enter b p).world } ∧
      head.deed.isTurn = true ∧ (∀ y ∈ opening, y.deed.isTurn = false) ∧
      ((r.beginRound b).enter b p).inbox.pending = [] := by
  obtain ⟨js, hwrites, hheld⟩ := h
  have hbegun := hwrites.note (d := .turn (r.inbox.pending.map (·.2))) nofun
  have hslept (r : Run σ) : b.stamp r.world ≤ b.stamp (b.sleep 1 r.world) :=
    hb.le_of_leads fun _ hQ => hQ.sleep 1 r.world
  unfold Run.enter
  split
  next => exact ⟨js, _, [], hbegun.onward (hslept _) rfl, rfl, nofun, hheld⟩
  next =>
    have hphase : Writes b deadline first _ { r.beginRound b with phase := p } :=
      hbegun.onward le_rfl rfl
    have hentered := hphase.note (d := .enter p) nofun
    rw [List.append_assoc] at hentered
    exact ⟨js, _, [_], hentered.onward (hslept _) rfl, rfl, by simp [Deed.isTurn], hheld⟩

theorem round_rounds (hb : b.Steady) (s : Settings) (listening : Bool) (queue : EventQueue)
    (h : StandsAt b deadline first .between r) :
    Rounds b deadline first (round b s deadline listening queue r) := by
  obtain ⟨earlier, head, opening, hwrites, hhead, hopening, hheld⟩ :=
    h.head hb (if queue.isEmpty then .driverCompleting else .awaitingCheckpoint)
  unfold round
  refine iteInduction (motive := Rounds b deadline first) (fun _ => ⟨_, hwrites, trivial⟩)
    fun hearly => ?_
  -- here the round is granted time, so all that has been written is from before the deadline
  have hopened : Journal.Opened deadline (earlier ++ head :: opening) := by
    refine ⟨earlier, head, opening, rfl, hhead, fun y hy => ?_, hopening⟩
    have hy' : y ∈ earlier ++ head :: opening := by
      rw [← List.singleton_append, ← List.append_assoc]
      exact List.mem_append_left _ hy
    exact (hwrites.past y hy').1.trans_lt (not_le.mp hearly)
  dsimp only
  generalize hlisten : Run.listen b _ _ _ = heard
  obtain ⟨news, r'⟩ := heard
  exact hear_rounds hb (listen_leaves hb hlisten ⟨_, hwrites, hopened, hheld⟩)

/-- The induction is on the rounds; the entries are counted from the beginning of the first one. -/
theorem coordinate_stands (hb : b.Steady) (s : Settings) (rounds : Nat) (listening : Bool)
    (queue : EventQueue) (h : StandsAt b deadline first .between r) :
    StandsAt b deadline first .ended (coordinate b s deadline rounds listening queue r).2.2 := by
  induction rounds generalizing r listening queue with
  | zero => exact h.ended
  | succ rounds ih =>
      have hround := round_rounds hb s listening queue h
      unfold coordinate
      split
      next result heq =>
        rw [heq] at hround
        exact hround
      next listening' queue' r' heq =>
        rw [heq] at hround
        exact ih listening' queue' hround

/-- Whatever is injected or released while the driver runs serves the report that is being handled,
which was received in a round that had begun before the deadline. So nothing else comes about after
a stop was asked for or the deadline has come, unless the report itself was received that late. -/
theorem served_of_coordinate (hb : b.Steady) {s : Settings} {rounds : Nat} {listening : Bool}
    {queue : EventQueue} (hheld : r.inbox.pending = []) {before after : Journal} {e : JournalEntry}
    (h : (coordinate b s deadline rounds listening queue r).2.2.journal =
      r.journal ++ (before ++ e :: after)) (he : e.deed.isEffect = true) :
    ∃ opened report handling id sender, before = opened ++ report :: handling ∧
      Journal.Opened deadline opened ∧ report.deed = .receive ⟨sender, .checkpoint id⟩ ∧
      (∀ y ∈ handling, y.deed.Continues id) ∧ e.deed.Serves id sender ∧
      ((∃ x ∈ opened, x.IsLate deadline) → report.IsLate deadline) := by
  have hstart : StandsAt b deadline r.journal .between r := ⟨[], Writes.nil r, hheld⟩
  obtain ⟨js, hwrites, -⟩ := coordinate_stands hb s rounds listening queue hstart
  obtain rfl : js = before ++ e :: after := List.append_cancel_left (hwrites.journal.symm.trans h)
  obtain ⟨id, sender, ⟨opened, report, handling, rfl, hopened, hreport, hhandling⟩, hserves⟩ :=
    hwrites.served before e after rfl he
  refine ⟨opened, report, handling, id, sender, rfl, hopened, hreport, hhandling, hserves, ?_⟩
  rintro ⟨x, hx, hlate⟩
  have hordered := (List.pairwise_append.mp hwrites.ordered).1
  exact hlate.mono ((List.pairwise_append.mp hordered).2.2 x hx report List.mem_cons_self)

/-! ### The bound on rounds -/

theorem Move.stamp_le (hb : b.Steady) (h : Move b r r') : b.stamp r.world ≤ b.stamp r'.world := by
  have hwaited {w : Watch} {wake : Wake} {s s' : σ} (hwait : b.wait w s = (wake, s')) :
      b.stamp s ≤ b.stamp s' := by
    have hle := hb.wait w s
    rwa [hwait] at hle
  cases h with
  | aside haside => exact hb.le_of_leads haside.world
  | receive hwait => exact hwaited hwait
  | wake hwait => exact hwaited hwait
  | absorb => rw [absorb_eq]
  | exit hwait =>
      show _ ≤ b.stamp (Run.absorb _).world
      rw [absorb_eq]
      exact hwaited hwait
  | inject _ hinject => exact hb.le_of_leads (inject_leads hinject).1

theorem Moves.now_le (hb : b.Steady) (h : r.Moves b r') : b.now r.world ≤ b.now r'.world := by
  induction h with
  | refl => exact le_rfl
  | tail _ hmove ih => exact ih.trans (hmove.stamp_le hb).1

/-- A round that another one follows has begun before the deadline, and takes time. -/
theorem now_lt_of_round (hb : b.Steady) {s : Settings} {listening listening' : Bool}
    {queue queue' : EventQueue}
    (h : round b s deadline listening queue r = .again (listening', queue', r')) :
    b.now r.world < deadline ∧ b.now r.world < b.now r'.world := by
  unfold round at h
  dsimp only at h
  generalize (if queue.isEmpty then Phase.driverCompleting else .awaitingCheckpoint) = p at h
  have hbegun : ((r.beginRound b).enter b p).world = r.world := world_enter p _
  have hslept := b.add_le_now_sleep 1 r.world
  rw [hbegun] at h
  split at h
  next => cases h
  next hearly =>
    generalize hlisten : Run.listen b _ _ _ = heard at h
    have hturns : Turns b _ (.again (listening', queue', r')) :=
      h ▸ hear_turns (listen_hears hlisten)
    have hwaited := Moves.now_le hb hturns
    dsimp only at hwaited
    exact ⟨by omega, by omega⟩

/-- More rounds than nanoseconds until the deadline make no difference. The induction is on one of
the bounds: each round that is followed by another one leaves less time. -/
theorem coordinate_congr (hb : b.Steady) (s : Settings) {n m : Nat} (listening : Bool)
    (queue : EventQueue) (hn : deadline ≤ b.now r.world + n) (hm : deadline ≤ b.now r.world + m) :
    coordinate b s deadline (n + 1) listening queue r =
      coordinate b s deadline (m + 1) listening queue r := by
  induction n generalizing m listening queue r with
  | zero =>
      unfold coordinate
      split
      next => rfl
      next heq =>
        have hearly := (now_lt_of_round hb heq).1
        omega
  | succ n ih =>
      rw [coordinate, coordinate]
      split
      next => rfl
      next listening' queue' r' heq =>
        obtain ⟨hearly, htime⟩ := now_lt_of_round hb heq
        obtain ⟨m, rfl⟩ := Nat.exists_eq_add_one.mpr (show 0 < m by omega)
        exact ih listening' queue' (by omega) (by omega)

/-- A late round that another one follows is before the end of the time, and takes time. -/
theorem now_lt_of_settleRound (hb : b.Steady) {until_ : Nat}
    (h : settleRound b until_ r = .again r') :
    b.now r.world < until_ ∧ b.now r.world < b.now r'.world := by
  have hslept : b.now r.world + 1 ≤ b.now (b.sleep 1 (r.beginRound b).world) :=
    b.add_le_now_sleep 1 r.world
  unfold settleRound at h
  dsimp only at h
  split at h
  next => cases h
  next hearly =>
    split at h
    next id r₁ hlisten =>
      cases h
      have hseen : Aside b r₁ (r₁.see id) := .of_known (.refl _) rfl
      have hreleased := ((listen_hears hlisten).moves.aside hseen).aside (aside_release id _)
      have hwaited := Moves.now_le hb hreleased
      dsimp only at hwaited
      exact ⟨by omega, by omega⟩
    next => cases h

theorem settle_congr (hb : b.Steady) {until_ n m : Nat} (hn : until_ ≤ b.now r.world + n)
    (hm : until_ ≤ b.now r.world + m) : settle b until_ (n + 1) r = settle b until_ (m + 1) r := by
  induction n generalizing m r with
  | zero =>
      unfold settle
      split
      next => rfl
      next heq =>
        have hearly := (now_lt_of_settleRound hb heq).1
        omega
  | succ n ih =>
      rw [settle, settle]
      split
      next => rfl
      next r' heq =>
        obtain ⟨hearly, htime⟩ := now_lt_of_settleRound hb heq
        obtain ⟨m, rfl⟩ := Nat.exists_eq_add_one.mpr (show 0 < m by omega)
        exact ih (by omega) (by omega)

end Run

/-! ### Effects that come late -/

/-- The entries of a journal that are late. -/
def Journal.late (deadline : Nat) (j : Journal) : Journal :=
  j.filter fun x => x.IsLate deadline

/-- The rounds of a drill in which events are to be injected. -/
def coordinated {σ : Type} (b : Bench σ) (settings : Settings) (deadline : Nat)
    (events : List Event) (s : σ) : Except Halt DriverExit × EventQueue × Run σ :=
  let runner := Runner.new settings ⟨Rehearsal.standInName, []⟩ none
  Run.coordinate b settings deadline (deadline + 1) true events
    (runner.start b { stage := .injection } drillSpec s)

namespace Playback

/-- The bench of a playback in which an operator asks for a stop at some time. -/
def stoppedAt (time : Nat) : Bench Playback :=
  { bench with cancelled := fun s => decide (time ≤ s.clock) }

theorem stamp_stoppedAt_le {time : Nat} {s s' : Playback} (h : s.clock ≤ s'.clock) :
    (stoppedAt time).stamp s ≤ (stoppedAt time).stamp s' := by
  refine Prod.mk_le_mk.mpr ⟨h, Bool.le_iff_imp.mpr fun hstopped => ?_⟩
  have hle : time ≤ s.clock := of_decide_eq_true hstopped
  exact decide_eq_true (hle.trans h)

theorem stoppedAt_steady (time : Nat) : (stoppedAt time).Steady where
  keeps stamp :=
    have hkeeps : bench.Keeps fun s => stamp ≤ (stoppedAt time).stamp s :=
      bench_keeps (fun _ _ h => h.trans (stamp_stoppedAt_le (Nat.le_max_left _ _))) (fun _ h => h)
        fun _ h => h
    { hkeeps with }
  wait w s := by
    refine stamp_stoppedAt_le ?_
    show s.clock ≤ (wait w s).2.clock
    rcases wait_cases w s with ⟨-, e, heq⟩ | ⟨m, rest, -, heq⟩ | ⟨-, heq⟩
    · rw [heq]
      exact le_rfl
    · rw [heq]
      exact le_rfl
    · rw [heq]
      exact Nat.le_max_left _ _

end Playback

/-- A playback in which a checkpoint is reported, and the driver ends when it has been released. -/
def heldPlayback : Playback where
  cues := [{ messages := [⟨0, .checkpoint "1"⟩] }, { exit := some (.exited 0) }]

/-- A reporter is held for five seconds, and a stop is asked for after one. Its release serves its
report, and comes four seconds late. -/
theorem Run.served_of_coordinate_held : ∃ (before after : Journal) (e : JournalEntry),
    (coordinated (Playback.stoppedAt nanosPerSecond) (drillSettings 600) (600 * nanosPerSecond)
      [⟨"1", "leader", .delay (.ofSecs 5)⟩] heldPlayback).2.2.journal = before ++ e :: after ∧
    e.cancelled = true ∧ 5 * nanosPerSecond ≤ e.time ∧ e.deed.released = [0] ∧
    ∃ opened report handling id sender, before = opened ++ report :: handling ∧
      Journal.Opened (600 * nanosPerSecond) opened ∧
      report.deed = .receive ⟨sender, .checkpoint id⟩ ∧
      (∀ y ∈ handling, y.deed.Continues id) ∧ e.deed.Serves id sender ∧
      ((∃ x ∈ opened, x.IsLate (600 * nanosPerSecond)) →
        report.IsLate (600 * nanosPerSecond)) := by
  have hmem : (true, true, true, [0]) ∈ (coordinated (Playback.stoppedAt nanosPerSecond)
      (drillSettings 600) (600 * nanosPerSecond) [⟨"1", "leader", .delay (.ofSecs 5)⟩]
      heldPlayback).2.2.journal.map fun e => (e.deed.isEffect, e.cancelled,
        decide (5 * nanosPerSecond ≤ e.time), e.deed.released) := by
    decide +kernel
  obtain ⟨e, he, htold⟩ := List.mem_map.mp hmem
  simp only [Prod.mk.injEq, decide_eq_true_eq] at htold
  obtain ⟨heffect, hcancelled, htime, hreleased⟩ := htold
  obtain ⟨before, after, hjournal⟩ := List.append_of_mem he
  exact ⟨before, after, e, hjournal, hcancelled, htime, hreleased,
    served_of_coordinate (Playback.stoppedAt_steady _) rfl hjournal heffect⟩

/-! ### Injections after the deadline -/

open Rehearsal (Scene)

/-- A configuration with a time limit of one second for trials, where a failed action is tried again
after two seconds. -/
def hesitantConfig : Config :=
  { drillConfig 1 with injector := { retryBackoffBaseMs := 2000, targets :=
      [{ name := "leader", pid := some 10 }, { name := "follower", pid := some 11 },
        { name := "third", pid := some 12 }] } }

/-- The settings of this configuration. -/
def hesitantSettings : Settings :=
  { drillSettings 1 with injector := .ofConfig hesitantConfig.injector }

/-- A scene in which the second attempt to pause a process fails and a checkpoint is reported. -/
def hesitantScene : Scene :=
  { machine := { controller := .scripted [.ok, .fail] [] } : Scene }
    |>.placeReporter [.report (.checkpoint "1")]

/-- The configuration passes both validations. Three targets are to be paused at a checkpoint, and
the second attempt fails. When it is made again the deadline has passed: it succeeds, then the third
target is paused as well, and then the reporter is released, before the rounds are over for lack of
time. A hold for two seconds ends with a release after the deadline, too. -/
theorem late_injections_and_release :
    Config.validate hesitantConfig = .ok () ∧
    Settings.ofConfig hesitantConfig = .ok hesitantSettings ∧
    let run := coordinated Scene.bench hesitantSettings nanosPerSecond [⟨"1", "leader", .pause⟩,
      ⟨"1", "follower", .pause⟩, ⟨"1", "third", .pause⟩] hesitantScene
    let held := coordinated Scene.bench hesitantSettings nanosPerSecond
      [⟨"1", "leader", .delay (.ofSecs 2)⟩] hesitantScene
    (run.2.2.journal.late nanosPerSecond).injections =
        [(⟨"1", "follower", .pause⟩, true), (⟨"1", "third", .pause⟩, true)] ∧
      (run.2.2.journal.late nanosPerSecond).released = [0] ∧
      run.1 = .error (.failed (.timedOut 1)) ∧
      (held.2.2.journal.late nanosPerSecond).released = [0] ∧
      held.1 = .error (.failed (.timedOut 1)) :=
  ⟨by decide +kernel, rfl, by decide +kernel, by decide +kernel, by decide +kernel,
    by decide +kernel, by decide +kernel⟩

end FaultDrill
