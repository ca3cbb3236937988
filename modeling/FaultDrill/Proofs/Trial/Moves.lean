import FaultDrill.Proofs.Injection.Healing
import FaultDrill.Proofs.Trial.Course
import Mathlib.Logic.Relation

/-!
# FaultDrill.Proofs.Trial.Moves

What a trial does to what has been reported and to its injector, move by move. A move receives a
message, ends a wait, takes over what has been received, sees the end of the driver, injects an
event, or leaves all of this alone (`Run.Move`). Every attempt is a series of moves; if it comes to
a verdict, the driver has been seen to end and all that was received has been taken over, and then
the faults may be healed and the check is made (`Run.attempt_attempts`). So what every move keeps
holds throughout a trial, whatever happens on its bench.
-/

namespace FaultDrill

variable {σ : Type}

/-! ### What the operations of a bench keep -/

/-- All operations of a bench other than opening a channel and waiting keep what holds of it. -/
structure Bench.Keeps (b : Bench σ) (Q : σ → Prop) : Prop extends b.toSite.Keeps Q where
  freshId : ∀ s, Q s → Q (b.freshId s).2
  answer : ∀ ticket s, Q s → Q (b.answer ticket s)
  shutDown : ∀ s, Q s → Q (b.shutDown s)
  abandon : ∀ s, Q s → Q (b.abandon s)
  launch : ∀ driver bindings s, Q s → Q (b.launch driver bindings s).2
  terminate : ∀ s, Q s → Q (b.terminate s).2
  output : ∀ s, Q s → Q (b.output s).2
  ask : ∀ probe trialId s, Q s → Q (b.ask probe trialId s).2
  cleanUp : ∀ script bindings limit s, Q s → Q (b.cleanUp script bindings limit s).2

/-- The operations of a bench other than opening a channel and waiting lead from one state to
another: whatever they keep still holds. -/
def Bench.Leads (b : Bench σ) (s s' : σ) : Prop :=
  ∀ Q, b.Keeps Q → Q s → Q s'

theorem Bench.Leads.refl {b : Bench σ} (s : σ) : b.Leads s s :=
  fun _ _ h => h

theorem Bench.Leads.trans {b : Bench σ} {s₁ s₂ s₃ : σ} (h : b.Leads s₁ s₂) (h' : b.Leads s₂ s₃) :
    b.Leads s₁ s₃ :=
  fun Q hQ hs => h' Q hQ (h Q hQ hs)

/-- The deeds that neither receive nor take over nor check anything and leave the faults alone. -/
def Deed.isAside : Deed → Bool
  | enter _ | launch | turn _ | release _ | shutDown _ | abandon => true
  | _ => false

/-- The deeds of a trial up to its check: nothing is checked and nothing healed. -/
def Deed.isMove : Deed → Bool
  | receive _ | observeExit _ | inject .. => true
  | d => d.isAside

theorem Deed.isMove_of_isAside {d : Deed} (h : d.isAside = true) : d.isMove = true := by
  cases d <;> first | rfl | cases h

theorem Deed.silent_of_isAside {d : Deed} (h : d.isAside = true) :
    d.message? = none ∧ d.injection? = none := by
  cases d <;> first | exact ⟨rfl, rfl⟩ | cases h

namespace Run

variable {b : Bench σ} {r r' r₁ r₂ r₃ : Run σ}

/-! ### Moves -/

/-- What has been received and what has been made of it stay as they are, and so does the
injector. -/
structure Aside (b : Bench σ) (r r' : Run σ) : Prop where
  world : b.Leads r.world r'.world
  reports : r'.inbox.reports = r.inbox.reports
  injector : r'.injector = r.injector
  state : r'.state = r.state
  deeds : ∃ ds, r'.journal.deeds = r.journal.deeds ++ ds ∧ ∀ d ∈ ds, d.isAside = true

/-- What a trial may do up to its check. -/
inductive Move (b : Bench σ) : Run σ → Run σ → Prop
  | aside {r r' : Run σ} : Aside b r r' → Move b r r'
  | receive {r : Run σ} {w : Watch} {m : Message} {s : σ} : b.wait w r.world = (.received m, s) →
      Move b r (note b (.receive m) { r with world := s, inbox := (r.inbox.take m).2 })
  /-- A wait ends without a message. -/
  | wake {r : Run σ} {w : Watch} {wake : Wake} {s : σ} : b.wait w r.world = (wake, s) →
      (∀ m, wake ≠ .received m) → Move b r { r with world := s }
  | absorb {r : Run σ} : Move b r r.absorb
  | exit {r : Run σ} {w : Watch} {e : DriverExit} {s : σ} : b.wait w r.world = (.exited e, s) →
      Move b r (note b (.observeExit e) (Run.absorb { r with world := s }))
  /-- An event is injected when all that was received before has been taken over. -/
  | inject {r : Run σ} {e : Event} {id : Checkpoint}
      {answer : Except InjectionError InjectionRecord} {j : Injector} {s : σ} :
      r.inbox.reports = {} → r.injector.inject b.toSite e r.world = (answer, j, s) →
      Move b r (note b (.inject e id r.injector.registry.runtime answer.isOk)
        { r with injector := j, world := s })

/-- What a series of moves leads to. -/
abbrev Moves (b : Bench σ) : Run σ → Run σ → Prop :=
  Relation.ReflTransGen (Move b)

theorem Aside.refl (r : Run σ) : Aside b r r :=
  ⟨.refl _, rfl, rfl, rfl, [], (List.append_nil _).symm, nofun⟩

theorem Aside.trans (h : Aside b r₁ r₂) (h' : Aside b r₂ r₃) : Aside b r₁ r₃ := by
  obtain ⟨ds, hdeeds, hds⟩ := h.deeds
  obtain ⟨ds', hdeeds', hds'⟩ := h'.deeds
  refine ⟨h.world.trans h'.world, h'.reports.trans h.reports, h'.injector.trans h.injector,
    h'.state.trans h.state, ds ++ ds', ?_, ?_⟩
  · rw [hdeeds', hdeeds, List.append_assoc]
  · intro d hd
    rcases List.mem_append.mp hd with hd | hd
    · exact hds d hd
    · exact hds' d hd

theorem Aside.moves (h : Aside b r r') : Moves b r r' :=
  .single (.aside h)

theorem Moves.aside (h : Moves b r₁ r₂) (h' : Aside b r₂ r₃) : Moves b r₁ r₃ :=
  h.tail (.aside h')

/-! ### Operations that leave reports and faults alone -/

/-- What is followed of a run here, apart from its world. -/
def known (r : Run σ) : Reports × Injector × SortedMap String String × Journal :=
  (r.inbox.reports, r.injector, r.state, r.journal)

theorem Aside.of_known (hworld : b.Leads r.world r'.world) (hknown : r'.known = r.known) :
    Aside b r r' := by
  simp only [known, Prod.mk.injEq] at hknown
  obtain ⟨hreports, hinjector, hstate, hjournal⟩ := hknown
  exact ⟨hworld, hreports, hinjector, hstate, [], by rw [hjournal, List.append_nil], nofun⟩

theorem aside_note {d : Deed} (hd : d.isAside = true) (r : Run σ) : Aside b r (r.note b d) :=
  ⟨.refl _, rfl, rfl, rfl, [d], deeds_note r, by simpa using hd⟩

theorem aside_enter (p : Phase) (r : Run σ) : Aside b r (r.enter b p) := by
  unfold Run.enter
  split
  next => exact .refl r
  next =>
    have hphase : Aside b r { r with phase := p } := .of_known (.refl _) rfl
    exact hphase.trans (aside_note rfl _)

theorem aside_beginRound (r : Run σ) : Aside b r (r.beginRound b) :=
  aside_note rfl r

theorem aside_sleep (n : Nat) (r : Run σ) : Aside b r { r with world := b.sleep n r.world } :=
  .of_known (fun _ hQ => hQ.sleep n r.world) rfl

theorem aside_release (id : Checkpoint) (r : Run σ) : Aside b r (r.release b id) := by
  unfold Run.release
  split
  next ticket inbox heq =>
    have hreports : inbox.reports = r.inbox.reports := by
      unfold Inbox.release at heq
      split at heq
      next => cases heq; rfl
      next => cases heq
    have hanswered : Aside b r { r with inbox := inbox, world := b.answer ticket r.world } :=
      .of_known (fun _ hQ => hQ.answer ticket r.world) (by rw [known, hreports]; rfl)
    exact hanswered.trans (aside_note rfl _)
  next => exact .refl r

theorem leads_answers (tickets : List Ticket) (s : σ) :
    b.Leads s (tickets.foldl (fun s t => b.answer t s) s) := by
  induction tickets generalizing s with
  | nil => exact .refl s
  | cons t rest ih => exact Bench.Leads.trans (fun _ hQ => hQ.answer t s) (ih _)

theorem aside_shutDown (r : Run σ) : Aside b r (r.shutDown b) := by
  have hworld : b.Leads r.world (b.shutDown
      (r.inbox.releaseAll.1.foldl (fun s t => b.answer t s) r.world)) :=
    (leads_answers _ _).trans fun _ hQ => hQ.shutDown _
  have hclosed : Aside b r { r with inbox := r.inbox.releaseAll.2, world := _ } :=
    .of_known hworld rfl
  exact hclosed.trans (aside_note rfl _)

theorem aside_abandon (r : Run σ) : Aside b r (r.abandon b) := by
  have hgiven : Aside b r { r with world := b.abandon r.world } :=
    .of_known (fun _ hQ => hQ.abandon r.world) rfl
  exact hgiven.trans (aside_note rfl _)

theorem aside_collect (exit : Option DriverExit) (r : Run σ) : Aside b r (r.collect b exit) :=
  .of_known (fun _ hQ => hQ.output r.world) rfl

theorem aside_breakOff (r : Run σ) : Aside b r (r.breakOff b) := by
  have hterminated : Aside b r
      { r with terminated := true, world := (b.terminate r.world).2 } :=
    .of_known (fun _ hQ => hQ.terminate r.world) rfl
  exact (hterminated.trans (aside_shutDown _)).trans (aside_collect _ _)

/-! ### Taking reports over -/

theorem foldl_register (targets : List (String × UInt32)) (r : Run σ) :
    targets.foldl register r = { r with
      injector.registry.runtime :=
        targets.foldl (fun m t => m.insert t.1 t.2) r.injector.registry.runtime } := by
  induction targets generalizing r with
  | nil => rfl
  | cons t rest ih => exact ih (r.register t)

theorem foldl_setVariable (pairs : List (String × String)) (r : Run σ) :
    pairs.foldl setVariable r = { r with
      state := pairs.foldl (fun m v => m.insert v.1 v.2) r.state } := by
  induction pairs generalizing r with
  | nil => rfl
  | cons v rest ih => exact ih (r.setVariable v)

/-- What taking over the collected reports makes of a run. -/
theorem absorb_eq (r : Run σ) : r.absorb = { r with
    inbox := { r.inbox with reports := {} }
    injector.registry.runtime :=
      r.inbox.reports.targets.foldl (fun m t => m.insert t.1 t.2) r.injector.registry.runtime
    state := r.inbox.reports.state.foldl (fun m v => m.insert v.1 v.2) r.state } := by
  unfold absorb
  dsimp only
  rw [foldl_setVariable, foldl_register]
  rfl

theorem reports_absorb (r : Run σ) : r.absorb.inbox.reports = {} := by
  rw [absorb_eq]

/-! ### Waiting -/

/-- What a wait leads to. The end of the driver is news of the last wait. -/
def Hears (b : Bench σ) (r : Run σ) : News → Run σ → Prop
  | .exited e, r' => ∃ r₁ w s, r.Moves b r₁ ∧ b.wait w r₁.world = (.exited e, s) ∧
      r' = { r₁ with world := s }
  | _, r' => r.Moves b r'

theorem listen_hears {w : Watch} {messages : Nat} {news : News}
    (h : r.listen b w messages = (news, r')) : Hears b r news r' := by
  induction messages generalizing r with
  | zero =>
      cases h
      exact .refl
  | succ messages ih =>
      unfold Run.listen at h
      split at h
      next m s heq =>
        have hreceive := Move.receive (r := r) heq
        dsimp only at h
        split at h
        next =>
          cases h
          exact .single hreceive
        next =>
          have hrest := ih h
          cases news with
          | exited e =>
              obtain ⟨r₁, w', s', hmoves, hrest⟩ := hrest
              exact ⟨r₁, w', s', hmoves.head hreceive, hrest⟩
          | _ => exact Relation.ReflTransGen.head hreceive hrest
      next e s heq =>
        cases h
        exact ⟨r, w, s, .refl, heq, rfl⟩
      all_goals
        next heq =>
          cases h
          exact .single (.wake heq (by simp))

theorem Hears.moves {news : News} (h : Hears b r news r') : r.Moves b r' := by
  cases news with
  | exited e =>
      obtain ⟨r₁, w, s, hmoves, hwait, rfl⟩ := h
      exact hmoves.tail (.wake hwait nofun)
  | _ => exact h

/-! ### Injecting -/

/-- An injection leads from one state of the bench to another, and changes only the ledger. -/
theorem inject_leads {j j' : Injector} {e : Event} {s s' : σ}
    {answer : Except InjectionError InjectionRecord}
    (h : j.inject b.toSite e s = (answer, j', s')) :
    b.Leads s s' ∧ ∃ ledger, j' = { j with ledger := ledger } := by
  constructor
  · intro Q hQ hs
    have hinjected := (Injector.inject_keeps hQ.toKeeps j e hs).1
    rwa [h] at hinjected
  · have hinjected := (Injector.inject_keeps b.toSite.keeps_true j e (s := s) trivial).2
    rwa [h] at hinjected

theorem injectAll_moves (id : Checkpoint) (delay : Duration) (due : List Event)
    (h : r.inbox.reports = {}) : r.Moves b (injectAll b id delay due r).2 := by
  induction due generalizing r delay with
  | nil => exact .refl
  | cons e due ih =>
      unfold injectAll
      split
      next cause j s heq => exact .single (.inject h heq)
      next record j s heq =>
        have hinject : Move b r (note b (.inject e id r.injector.registry.runtime true)
            { r with injector := j, world := s }) := .inject h heq
        dsimp only
        split
        next => exact .single hinject
        next delay' _ =>
          have hfired : r.Moves b
              { Run.note b (.inject e id r.injector.registry.runtime true)
                  { r with injector := j, world := s } with fired := r.fired ++ [e] } :=
            .tail (.single hinject) (.aside (.of_known (.refl _) rfl))
          exact hfired.trans (ih delay' h)

theorem fire_moves (id : Checkpoint) (due : List Event) (h : r.inbox.reports = {}) :
    r.Moves b (fire b id due r).2 := by
  have hentered := aside_enter (b := b) .injecting r
  have hinjected := injectAll_moves (b := b) id .zero due (hentered.reports.trans h)
  unfold fire
  split
  next => exact .refl
  next =>
    split
    next heq =>
      rw [heq] at hinjected
      exact hentered.moves.trans hinjected
    next heq =>
      rw [heq] at hinjected
      dsimp only
      split
      next => exact hentered.moves.trans hinjected
      next => exact (hentered.moves.trans hinjected).tail (.aside (aside_sleep _ _))

/-! ### Rounds -/

/-- Where the rounds are over without a failure, the driver has been seen to end, and all that has
come before is taken over. -/
def Stops (b : Bench σ) (r : Run σ) (result : Except Halt DriverExit × EventQueue × Run σ) : Prop :=
  r.Moves b result.2.2 ∧
    ∀ e, result.1 = .ok e → result.2.2.journal.deeds.any Deed.isExit = true

/-- What comes of a round while the driver runs. -/
def Turns (b : Bench σ) (r : Run σ) :
    Turn (Except Halt DriverExit × EventQueue × Run σ) (Bool × EventQueue × Run σ) → Prop
  | .over result => Stops b r result
  | .again (_, _, r') => r.Moves b r'

theorem Turns.of_moves {turn : Turn (Except Halt DriverExit × EventQueue × Run σ)
    (Bool × EventQueue × Run σ)} (h : r.Moves b r₁) (hturns : Turns b r₁ turn) :
    Turns b r turn := by
  match turn, hturns with
  | .over _, hturns => exact ⟨h.trans hturns.1, hturns.2⟩
  | .again _, hturns => exact h.trans hturns

theorem hear_turns {s : Settings} {time : Nat} {listening : Bool} {queue : EventQueue} {news : News}
    (h : Hears b r news r') : Turns b r (hear b s time listening queue news r') := by
  have hmoves := h.moves
  have habsorbed : r.Moves b r'.absorb := hmoves.tail .absorb
  cases news with
  | cancelled | lost _ => exact ⟨hmoves, by simp⟩
  | exited e =>
      obtain ⟨r₁, w, s, hbefore, hwait, rfl⟩ := h
      refine ⟨hbefore.tail (.exit hwait), fun _ _ => ?_⟩
      show (Run.note b (.observeExit e) _).journal.deeds.any Deed.isExit = true
      rw [deeds_note, List.any_append]
      simp [Deed.isExit]
  | deserted => exact habsorbed
  | timedOut =>
      dsimp only [hear]
      split
      next => exact ⟨habsorbed, by simp⟩
      next => exact ⟨hmoves, by simp⟩
  | reported id =>
      have hseen : r.Moves b (r'.absorb.see id) := habsorbed.aside (.of_known (.refl _) rfl)
      have hfired := fire_moves (b := b) id (EventQueue.takeDue id queue).1
        (r := r'.absorb.see id) (reports_absorb r')
      unfold hear
      dsimp only
      split
      next heq =>
        rw [heq] at hfired
        exact ⟨hseen.trans hfired, by simp⟩
      next heq =>
        rw [heq] at hfired
        exact (hseen.trans hfired).tail (.aside (aside_release id _))

theorem round_turns (s : Settings) (deadline : Nat) (listening : Bool) (queue : EventQueue)
    (r : Run σ) : Turns b r (round b s deadline listening queue r) := by
  have hhead := ((aside_beginRound (b := b) r).trans (aside_enter (b := b)
    (if queue.isEmpty then .driverCompleting else .awaitingCheckpoint) _)).trans (aside_sleep 1 _)
  unfold round
  refine iteInduction (motive := Turns b r) (fun _ => ⟨hhead.moves, nofun⟩) fun _ => ?_
  dsimp only
  generalize hlisten : Run.listen b _ _ _ = heard
  obtain ⟨news, r'⟩ := heard
  exact (hear_turns (listen_hears hlisten)).of_moves hhead.moves

theorem coordinate_stops (s : Settings) (deadline rounds : Nat) (listening : Bool)
    (queue : EventQueue) (r : Run σ) :
    Stops b r (coordinate b s deadline rounds listening queue r) := by
  induction rounds generalizing r listening queue with
  | zero => exact ⟨.refl, nofun⟩
  | succ rounds ih =>
      have hround := round_turns (b := b) s deadline listening queue r
      unfold coordinate
      split
      next result heq =>
        rw [heq] at hround
        exact hround
      next listening' queue' r' heq =>
        rw [heq] at hround
        exact ⟨hround.trans (ih listening' queue' r').1, (ih listening' queue' r').2⟩

/-! ### After the end of the driver -/

/-- What comes of a round after the driver has ended. When the rounds are over, everything that was
received has been taken over. -/
def Settles (b : Bench σ) (r : Run σ) : Turn (Run σ) (Run σ) → Prop
  | .over r' => r.Moves b r' ∧ r'.inbox.reports = {}
  | .again r' => r.Moves b r'

theorem settleRound_settles (until_ : Nat) (r : Run σ) :
    Settles b r (settleRound b until_ r) := by
  have hhead := (aside_beginRound (b := b) r).trans (aside_sleep 1 _)
  unfold settleRound
  refine iteInduction (motive := Settles b r)
    (fun _ => ⟨hhead.moves.tail .absorb, reports_absorb _⟩) fun _ => ?_
  dsimp only
  generalize hlisten : Run.listen b _ _ _ = heard
  obtain ⟨news, r'⟩ := heard
  have hheard : r.Moves b r' := hhead.moves.trans (listen_hears hlisten).moves
  cases news with
  | reported id =>
      have hseen : r.Moves b (r'.see id) := hheard.tail (.aside (.of_known (.refl _) rfl))
      exact hseen.tail (.aside (aside_release id _))
  | _ => exact ⟨hheard.tail .absorb, reports_absorb _⟩

theorem settle_settles (until_ rounds : Nat) (r : Run σ) :
    r.Moves b (settle b until_ rounds r) ∧ (settle b until_ rounds r).inbox.reports = {} := by
  induction rounds generalizing r with
  | zero => exact ⟨.single .absorb, reports_absorb _⟩
  | succ rounds ih =>
      have hround := settleRound_settles (b := b) until_ r
      unfold settle
      split
      next r' heq => rwa [heq] at hround
      next r' heq =>
        rw [heq] at hround
        exact ⟨hround.trans (ih r').1, (ih r').2⟩

/-! ### The journal -/

theorem journal_absorb (r : Run σ) : r.absorb.journal = r.journal := by
  rw [absorb_eq]

/-- A move writes into the journal what it does. -/
theorem Move.deeds (h : Move b r r') :
    ∃ ds, r'.journal.deeds = r.journal.deeds ++ ds ∧ ∀ d ∈ ds, d.isMove = true := by
  cases h with
  | aside haside =>
      obtain ⟨ds, hdeeds, hds⟩ := haside.deeds
      exact ⟨ds, hdeeds, fun d hd => Deed.isMove_of_isAside (hds d hd)⟩
  | wake => exact ⟨[], (List.append_nil _).symm, nofun⟩
  | absorb => exact ⟨[], by rw [journal_absorb, List.append_nil], nofun⟩
  | receive => exact ⟨_, deeds_note _, by simp [Deed.isMove]⟩
  | exit => exact ⟨_, by rw [deeds_note, journal_absorb], by simp [Deed.isMove]⟩
  | inject => exact ⟨_, deeds_note _, by simp [Deed.isMove]⟩

theorem Moves.deeds (h : r.Moves b r') :
    ∃ ds, r'.journal.deeds = r.journal.deeds ++ ds ∧ ∀ d ∈ ds, d.isMove = true := by
  induction h with
  | refl => exact ⟨[], (List.append_nil _).symm, nofun⟩
  | tail _ hmove ih =>
      obtain ⟨ds, hdeeds, hds⟩ := ih
      obtain ⟨ds', hdeeds', hds'⟩ := hmove.deeds
      refine ⟨ds ++ ds', by rw [hdeeds', hdeeds, List.append_assoc], fun d hd => ?_⟩
      rcases List.mem_append.mp hd with hd | hd
      · exact hds d hd
      · exact hds' d hd

/-- Moves alone have made the journal. -/
theorem isMove_of_moves (h : r.Moves b r') (hjournal : r.journal = []) {d : Deed}
    (hd : d ∈ r'.journal.deeds) : d.isMove = true := by
  obtain ⟨ds, hdeeds, hds⟩ := Moves.deeds h
  rw [hdeeds, hjournal] at hd
  exact hds d hd

/-! ### The attempt -/

/-- What an attempt comes to. If it comes to a verdict, there is a check, before which the faults
may be healed; what comes before that are moves. -/
inductive Attempts (b : Bench σ) (s : Settings) (r : Run σ) : Except Halt Outcome × Run σ → Prop
  | failed {halt : Halt} {r₁ : Run σ} : r.Moves b r₁ → Attempts b s r (.error halt, r₁)
  | checked {outcome : Outcome} {check : Check} {r₁ r₂ : Run σ} : r.Moves b r₁ →
      r₁.inbox.reports = {} → r₁.journal.deeds.any Deed.isExit = true →
      Aside b ((if s.trial.healBeforeCheck then r₁.heal b else r₁).judge b check).2 r₂ →
      Attempts b s r (.ok outcome, r₂)

theorem Attempts.of_moves {s : Settings} {attempted : Except Halt Outcome × Run σ}
    (h : r.Moves b r₁) (h' : Attempts b s r₁ attempted) : Attempts b s r attempted := by
  cases h' with
  | failed hmoves => exact .failed (h.trans hmoves)
  | checked hmoves hreports hexited hlast =>
      exact .checked (h.trans hmoves) hreports hexited hlast

theorem Attempts.aside {s : Settings} {answer : Except Halt Outcome} (h : Attempts b s r (answer, r₁))
    (h' : Aside b r₁ r₂) : Attempts b s r (answer, r₂) := by
  cases h with
  | failed hmoves => exact .failed (hmoves.tail (.aside h'))
  | checked hmoves hreports hexited hlast =>
      exact .checked hmoves hreports hexited (hlast.trans h')

theorem conclude_attempts (s : Settings) (check : Check) (exit : DriverExit)
    (hexited : r.journal.deeds.any Deed.isExit = true) :
    Attempts b s r (conclude b s check exit r) := by
  unfold conclude
  split
  next => exact .failed .refl
  next until_ _ =>
    obtain ⟨hsettled, hreports⟩ :=
      settle_settles (b := b) until_ (s.trial.settle.nanos + 1) r
    generalize settle b until_ _ r = settled at hsettled hreports ⊢
    have hclosed : Aside b settled
        (Run.enter b .checking (Run.collect b (some exit) (settled.shutDown b))) :=
      ((aside_shutDown settled).trans (aside_collect (some exit) _)).trans (aside_enter _ _)
    have hmoves := hsettled.tail (.aside hclosed)
    obtain ⟨ds, hdeeds, -⟩ := Moves.deeds hmoves
    refine .checked hmoves (hclosed.reports.trans hreports) ?_ (.refl _)
    rw [hdeeds, List.any_append, hexited, Bool.true_or]

theorem leads_launch {driver : Script} {bindings : List (String × String)} {s w : σ}
    {answer : Except FileError Unit} (h : b.launch driver bindings s = (answer, w)) :
    b.Leads s w := by
  intro Q hQ hs
  have hlaunched := hQ.launch driver bindings s hs
  rwa [h] at hlaunched

theorem drive_attempts (s : Settings) (driver : Script) (plan : Plan) (reference : Reference)
    (check : Check) (r : Run σ) : Attempts b s r (drive b s driver plan reference check r) := by
  have hstarting : ∀ w capture, b.Leads r.world w →
      Aside b r { r with world := w, capture := capture } := fun w capture hw => .of_known hw rfl
  unfold drive
  dsimp only
  split
  next cause w heq =>
    exact .failed ((hstarting w _ (leads_launch heq)).trans (aside_shutDown _)).moves
  next w heq =>
    have hlaunched := ((hstarting w (Capture.new s.trial.outputTailLines
      (Check.watchedMarkers s.checker reference)) (leads_launch heq)).trans
        (aside_note (d := .launch) rfl _)).trans (aside_enter .driverLaunched _)
    split
    next => exact .failed hlaunched.moves
    next deadline _ =>
      generalize hrounds : coordinate b s deadline _ _ _ _ = result
      have hstops := hrounds ▸ coordinate_stops (b := b) s deadline _ _ _ _
      split
      next r' => exact .failed (hlaunched.moves.trans hstops.1)
      next cause _ r' =>
        exact .failed ((hlaunched.moves.trans hstops.1).tail (.aside (aside_breakOff r')))
      next exit skipped r' =>
        have hskipped : Aside b r' { r' with skipped := skipped } := .of_known (.refl _) rfl
        have hconcluded := conclude_attempts (b := b) (r := { r' with skipped := skipped }) s check
          exit (hstops.2 exit rfl)
        exact hconcluded.of_moves ((hlaunched.moves.trans hstops.1).tail (.aside hskipped))

theorem leads_storeAll (signals : List (String × String)) (s : σ) :
    b.Leads s (storeAll b.write signals s).2 := by
  induction signals generalizing s with
  | nil => exact .refl s
  | cons signal rest ih =>
      have hwrite : b.Leads s (b.write signal.1 (Text.Utf8.encode signal.2) s).2 :=
        fun _ hQ => hQ.write _ _ s
      unfold storeAll
      split
      next s₁ heq =>
        rw [heq] at hwrite
        exact hwrite.trans (ih s₁)
      next heq =>
        rw [heq] at hwrite
        exact hwrite

theorem aside_prepare (s : Settings) (spec : TrialSpec) (r : Run σ) :
    Aside b r (r.prepare b s spec).2 := by
  unfold prepare
  split
  next => exact .refl r
  next plan _ =>
    have hbegun : Aside b r (r.begin b plan (spec.invariant.getD plan.invariant)) :=
      (aside_enter .planLoaded r).trans (.of_known (.refl _) rfl)
    have hpublished : Aside b r ((r.begin b plan (spec.invariant.getD plan.invariant)).publish b
        s.campaign).2 :=
      hbegun.trans (.of_known (leads_storeAll _ _) rfl)
    dsimp only
    split
    next heq =>
      rw [heq] at hpublished
      exact hpublished
    next heq =>
      rw [heq] at hpublished
      split
      next => exact hpublished
      next =>
        split
        next => exact hpublished
        next => exact hpublished

/-- Every attempt is made of moves, and of a check if it comes to a verdict. -/
theorem attempt_attempts (s : Settings) (driver : Script) (spec : TrialSpec)
    (channel : Except ChannelError String) (r : Run σ) :
    Attempts b s r (r.attempt b s driver spec channel) := by
  have hprepared := aside_prepare (b := b) s spec r
  unfold attempt
  split
  next failure r' _ heq =>
    rw [heq] at hprepared
    exact .failed (hprepared.trans (aside_abandon r')).moves
  next failure r' _ heq =>
    rw [heq] at hprepared
    exact .failed hprepared.moves
  next r' cause heq =>
    rw [heq] at hprepared
    exact .failed hprepared.moves
  next plan reference check r' address heq =>
    rw [heq] at hprepared
    have hconnected : Aside b r
        { r' with environment := { r'.environment with channelAddr := address } } :=
      hprepared.trans (.of_known (.refl _) rfl)
    have hdrive := (drive_attempts s driver plan reference check _).of_moves hconnected.moves
    dsimp only
    split
    next r'' heq' =>
      rw [heq'] at hdrive
      exact hdrive
    next outcome r'' _ heq' =>
      rw [heq'] at hdrive
      exact hdrive.aside (aside_abandon r'')

/-! ### Check and teardown -/

theorem leads_heal (r : Run σ) : b.Leads r.world (r.heal b).world :=
  fun _ hQ h => Injector.healAll_keeps hQ.toKeeps r.injector h

theorem leads_judge (check : Check) (r : Run σ) : b.Leads r.world (r.judge b check).2.world := by
  intro Q hQ h
  unfold judge
  dsimp only
  split
  next p => exact hQ.ask p _ r.world h
  next => exact h

theorem leads_cleanUp (timeout : Duration) (cleanup : Option Script) (r : Run σ) :
    b.Leads r.world (r.cleanUp b timeout cleanup).2.world := by
  cases cleanup with
  | none => exact .refl _
  | some script => exact fun _ hQ => hQ.cleanUp script _ _ r.world

theorem leads_tearDown (timeout : Duration) (cleanup : Option Script) (aborted : Bool)
    (r : Run σ) : b.Leads r.world (r.tearDown b timeout cleanup aborted).2.2.world := by
  intro Q hQ h
  have hhealed : Q ((r.enter b .cleaningUp).heal b).world :=
    leads_heal _ Q hQ ((aside_enter .cleaningUp r).world Q hQ h)
  unfold tearDown
  dsimp only
  refine (aside_enter _ _).world Q hQ ?_
  refine leads_cleanUp timeout cleanup _ Q hQ ?_
  exact Injector.lingeringFaults_keeps hQ.toKeeps _ hhealed

theorem injector_judge (check : Check) (r : Run σ) : (r.judge b check).2.injector = r.injector := by
  unfold judge
  dsimp only
  split <;> rfl

theorem deeds_judge (check : Check) (r : Run σ) :
    (r.judge b check).2.journal.deeds = r.journal.deeds ++ [.check r.observation] := by
  unfold judge
  dsimp only
  split
  next => exact deeds_note r
  next => exact deeds_note r

/-- The last deeds of an attempt that comes to a verdict. The check is told what is known by then. -/
theorem deeds_checked (heals : Bool) (check : Check) (r : Run σ) :
    ∃ healed o, ((if heals then r.heal b else r).judge b check).2.journal.deeds =
        r.journal.deeds ++ (healed ++ [.check o]) ∧
      (∀ d ∈ healed, ∃ failures, d = .heal failures) ∧ o.state = r.state := by
  rw [deeds_judge]
  cases heals with
  | true =>
      refine ⟨[.heal (r.injector.healAll b.toSite r.world).1], (r.heal b).observation, ?_, ?_, rfl⟩
      · rw [if_pos rfl, ← List.append_assoc]
        exact congrArg (· ++ [_]) (deeds_note _)
      · simp
  | false => exact ⟨[], r.observation, rfl, nofun, rfl⟩

theorem leads_checked (heals : Bool) (check : Check) (r : Run σ) :
    b.Leads r.world ((if heals then r.heal b else r).judge b check).2.world := by
  cases heals with
  | true => exact (leads_heal r).trans (leads_judge check _)
  | false => exact leads_judge check r

/-- The moves of an attempt are followed by deeds that neither receive nor inject anything. -/
theorem Attempts.ends {s : Settings} {attempted : Except Halt Outcome × Run σ}
    (h : Attempts b s r attempted) : ∃ r₁ last, r.Moves b r₁ ∧ b.Leads r₁.world attempted.2.world ∧
      attempted.2.journal.deeds = r₁.journal.deeds ++ last ∧
      ∀ d ∈ last, d.message? = none ∧ d.injection? = none := by
  cases h with
  | failed hmoves => exact ⟨_, [], hmoves, .refl _, (List.append_nil _).symm, by simp⟩
  | @checked _ check r₁ r₂ hmoves _ _ hlast =>
      obtain ⟨healed, o, hchecked, hheals, -⟩ :=
        deeds_checked (b := b) s.trial.healBeforeCheck check r₁
      obtain ⟨ds, hds, hasides⟩ := hlast.deeds
      refine ⟨r₁, healed ++ [.check o] ++ ds, hmoves,
        (leads_checked s.trial.healBeforeCheck check r₁).trans hlast.world, ?_, fun d hd => ?_⟩
      · dsimp only
        rw [hds, hchecked, List.append_assoc]
      · simp only [List.mem_append, List.mem_singleton] at hd
        rcases hd with (hd | rfl) | hd
        · obtain ⟨failures, rfl⟩ := hheals d hd
          exact ⟨rfl, rfl⟩
        · exact ⟨rfl, rfl⟩
        · exact Deed.silent_of_isAside (hasides d hd)

end Run

end FaultDrill
