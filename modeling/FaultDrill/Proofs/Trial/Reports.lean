import FaultDrill.Proofs.Trial.Moves
import FaultDrill.Proofs.Trial.Teardown

/-!
# FaultDrill.Proofs.Trial.Reports

What a trial knows of what has been reported to it. The channel of a bench is assumed to be a queue
(`QueueView`): messages are accepted at its one end and received at the other, and a wait for
messages runs out of time only when the queue is empty. Whatever else happens on the bench, a trial
has received the first messages of the queue, and what it has made of them and not yet taken over
comes to the registrations and the variables of these messages (`QueueView.Knows`).
-/

namespace FaultDrill

variable {σ : Type} {b : Bench σ}

/-! ### Messages -/

/-- The process that a message registers, under the name of its target. -/
def Message.target? (m : Message) : Option (String × UInt32) :=
  match m.report with
  | .target name pid => some (name, pid)
  | _ => none

/-- The variable that a message reports, with its value. -/
def Message.variable? (m : Message) : Option (String × String) :=
  match m.report with
  | .state var value => some (var, value)
  | _ => none

/-- What messages tell about names; of two values for one name the later counts. -/
def latest {α : Type} (told : Message → Option (String × α)) (ms : List Message) :
    SortedMap String α :=
  .ofList (ms.filterMap told)

/-- The processes that messages register. -/
def registrations (ms : List Message) : SortedMap String UInt32 :=
  latest Message.target? ms

/-- The variables that messages report. -/
def reportedState (ms : List Message) : SortedMap String String :=
  latest Message.variable? ms

/-- The messages that have been received, in order. -/
def messagesOf (ds : List Deed) : List Message :=
  ds.filterMap Deed.message?

/-- What stands in a list with one more entry at its end is this entry, or stands before it. -/
theorem snoc_eq_append_cons {β : Type} {l before after : List β} {x y : β}
    (h : l ++ [x] = before ++ y :: after) :
    (l = before ∧ x = y ∧ after = []) ∨ ∃ rest, l = before ++ y :: rest ∧ after = rest ++ [x] := by
  rcases List.eq_nil_or_concat' after with rfl | ⟨rest, z, rfl⟩
  · obtain ⟨hl, hx⟩ := List.append_inj' h rfl
    cases hx
    exact .inl ⟨hl, rfl, rfl⟩
  · rw [← List.cons_append, ← List.append_assoc] at h
    obtain ⟨hl, hx⟩ := List.append_inj' h rfl
    cases hx
    exact .inr ⟨rest, hl, rfl⟩

section Latest

variable {α : Type} {told : Message → Option (String × α)} {name : String} {v : α}

theorem latest_append (told : Message → Option (String × α)) (ms : List Message) (m : Message) :
    latest told (ms ++ [m]) =
      (told m).toList.foldl (fun map t => map.insert t.1 t.2) (latest told ms) := by
  unfold latest SortedMap.ofList
  rw [List.filterMap_append, List.foldl_append]
  cases h : told m <;> simp [h]

theorem get?_latest_append_of_ne {m : Message} (hm : ∀ v, told m ≠ some (name, v))
    (ms : List Message) : (latest told (ms ++ [m])).get? name = (latest told ms).get? name := by
  rw [latest_append]
  cases h : told m with
  | none => rfl
  | some t =>
      have hname : name ≠ t.1 := fun hname => hm t.2 (by rw [h, hname])
      exact SortedMap.get?_insert_of_ne _ _ (by simpa using hname)

/-- The value for a name is that of the last message about it. -/
theorem get?_latest {ms : List Message} : (latest told ms).get? name = some v ↔
    ∃ before m after, ms = before ++ m :: after ∧ told m = some (name, v) ∧
      ∀ m' ∈ after, ∀ v', told m' ≠ some (name, v') := by
  induction ms using List.reverseRecOn with
  | nil => simp [latest, SortedMap.ofList]
  | append_singleton ms m ih =>
      by_cases hm : ∃ w, told m = some (name, w)
      · obtain ⟨w, hm⟩ := hm
        have hlast : (latest told (ms ++ [m])).get? name = some w := by
          rw [latest_append, hm]
          exact SortedMap.get?_insert_self _ _ _
        rw [hlast]
        constructor
        · rintro ⟨⟩
          exact ⟨ms, m, [], rfl, hm, by simp⟩
        · rintro ⟨before, m', after, hsplit, hm', hafter⟩
          obtain ⟨-, rfl, -⟩ | ⟨rest, -, rfl⟩ := snoc_eq_append_cons hsplit
          · cases hm.symm.trans hm'
            rfl
          · exact absurd hm (hafter m (by simp) w)
      · rw [not_exists] at hm
        rw [get?_latest_append_of_ne hm, ih]
        constructor
        · rintro ⟨before, m', after, rfl, hm', hafter⟩
          refine ⟨before, m', after ++ [m], by simp, hm', fun m'' hmem => ?_⟩
          rcases List.mem_append.mp hmem with hmem | hmem
          · exact hafter m'' hmem
          · rwa [List.mem_singleton.mp hmem]
        · rintro ⟨before, m', after, hsplit, hm', hafter⟩
          obtain ⟨-, rfl, -⟩ | ⟨rest, hms, rfl⟩ := snoc_eq_append_cons hsplit
          · exact absurd hm' (hm v)
          · exact ⟨before, m', rest, hms, hm', fun m'' hmem => hafter m'' (by simp [hmem])⟩

end Latest

theorem registrations_checkpoint (ms : List Message) (t : Ticket) (id : Checkpoint) :
    registrations (ms ++ [⟨t, .checkpoint id⟩]) = registrations ms :=
  latest_append _ ms ⟨t, .checkpoint id⟩

@[simp] theorem messagesOf_append (ds ds' : List Deed) :
    messagesOf (ds ++ ds') = messagesOf ds ++ messagesOf ds' :=
  List.filterMap_append

theorem messagesOf_eq_nil {ds : List Deed} (h : ∀ d ∈ ds, d.message? = none) :
    messagesOf ds = [] :=
  List.filterMap_eq_nil_iff.mpr h

theorem Deed.isExit_of_isAside {d : Deed} (h : d.isAside = true) : d.isExit = false := by
  cases d <;> first | rfl | cases h

/-- What the inbox keeps of a message. -/
theorem Inbox.reports_take (box : Inbox) (m : Message) :
    (box.take m).2.reports.targets = box.reports.targets ++ m.target?.toList ∧
      (box.take m).2.reports.state = box.reports.state ++ m.variable?.toList := by
  unfold Inbox.take Message.target? Message.variable?
  cases m.report <;> simp

/-! ### Queues -/

/-- What is assumed of the channel of a bench. -/
structure QueueView (b : Bench σ) where
  /-- The messages that the channel has accepted since it was opened, in order. -/
  accepted : σ → List Message
  /-- Those of them that have been received. -/
  received : σ → List Message
  /-- How many had been accepted when the driver ended, if it has. -/
  atExit : σ → Option Nat
  /-- The last wait, and what has ended it. -/
  lastWait : σ → Option (Watch × Wake)
  ordered : ∀ s, received s <+: accepted s
  grows : ∀ w s, accepted s <+: accepted (b.wait w s).2
  receives : ∀ w s m s', b.wait w s = (.received m, s') → received s' = received s ++ [m]
  rests : ∀ w s wake s', b.wait w s = (wake, s') → (∀ m, wake ≠ .received m) →
    received s' = received s
  /-- Messages are not waited for in vain while there are any. -/
  empties : ∀ w s wake s', b.wait w s = (wake, s') → w.channel = true →
    wake = .timedOut ∨ wake = .deserted → received s' = accepted s'
  exits : ∀ w s e s', b.wait w s = (.exited e, s') →
    ∃ n, atExit s' = some n ∧ n ≤ (accepted s').length
  atExit_wait : ∀ w s n, atExit s = some n → atExit (b.wait w s).2 = some n
  lastWait_wait : ∀ w s, lastWait (b.wait w s).2 = some (w, (b.wait w s).1)
  /-- The other operations receive nothing. -/
  keeps : ∀ s₀, b.Keeps fun s => accepted s₀ <+: accepted s ∧ received s = received s₀ ∧
    lastWait s = lastWait s₀ ∧ ∀ n, atExit s₀ = some n → atExit s = some n

namespace QueueView

/-- The last wait has found the queue empty. -/
def Emptied (view : QueueView b) (s : σ) : Prop :=
  ∃ w wake, view.lastWait s = some (w, wake) ∧ w.channel = true ∧
    (wake = .timedOut ∨ wake = .deserted)

variable (view : QueueView b) {r r' : Run σ} {s s' : σ}

theorem emptied_of_wait {view : QueueView b} {w : Watch} {wake : Wake}
    (hwait : b.wait w s = (wake, s')) (h : view.Emptied s') :
    w.channel = true ∧ (wake = .timedOut ∨ wake = .deserted) := by
  obtain ⟨w', wake', hlast, hchannel, hwake⟩ := h
  have hsame := view.lastWait_wait w s
  rw [hwait] at hsame
  cases hsame.symm.trans hlast
  exact ⟨hchannel, hwake⟩

theorem leads (h : b.Leads s s') : view.accepted s <+: view.accepted s' ∧
    view.received s' = view.received s ∧ view.lastWait s' = view.lastWait s ∧
      ∀ n, view.atExit s = some n → view.atExit s' = some n :=
  h _ (view.keeps s) ⟨List.prefix_refl _, rfl, rfl, fun _ => id⟩

/-- An injection has found registered what the messages before it have registered. -/
def Registered (before : List Deed) : Deed → Prop
  | .inject _ _ registered _ => registered = registrations (messagesOf before)
  | _ => True

/-- What a run knows of what has been reported. -/
structure Knows (r : Run σ) : Prop where
  received : view.received r.world = messagesOf r.journal.deeds
  targets : r.inbox.reports.targets.foldl (fun m t => m.insert t.1 t.2)
    r.injector.registry.runtime = registrations (messagesOf r.journal.deeds)
  state : r.inbox.reports.state.foldl (fun m v => m.insert v.1 v.2) r.state =
    reportedState (messagesOf r.journal.deeds)
  registered : ∀ before d after, r.journal.deeds = before ++ d :: after → Registered before d

/-- Once the driver is seen to have ended, an empty queue means that all has been received that had
been accepted by then. -/
def Sees (r : Run σ) : Prop :=
  r.journal.deeds.any Deed.isExit = true → ∃ n, view.atExit r.world = some n ∧
    n ≤ (view.accepted r.world).length ∧
      (view.Emptied r.world → n ≤ (view.received r.world).length)

/-! ### What moves keep -/

/-- The deeds of a journal stay as they should be when others come that are so. -/
theorem registered_append {ds last : List Deed}
    (h : ∀ before d after, ds = before ++ d :: after → Registered before d)
    (hlast : ∀ before d after, last = before ++ d :: after → Registered (ds ++ before) d) :
    ∀ before d after, ds ++ last = before ++ d :: after → Registered before d := by
  intro before d after hsplit
  rcases List.append_eq_append_iff.mp hsplit with ⟨t, rfl, hlast'⟩ | ⟨t, hds, hrest⟩
  · exact hlast t d after hlast'
  · cases t with
    | nil =>
        rw [List.append_nil] at hds
        have hnext := hlast [] d after hrest.symm
        rwa [List.append_nil, hds] at hnext
    | cons d' t =>
        cases hrest
        exact h before d t hds

theorem registered_singleton {ds : List Deed} {d : Deed} (hd : Registered ds d) :
    ∀ before d' after, [d] = before ++ d' :: after → Registered (ds ++ before) d' := by
  intro before d' after hsplit
  obtain ⟨rfl, rfl, -⟩ | ⟨rest, hnil, -⟩ := snoc_eq_append_cons (l := []) hsplit
  · rwa [List.append_nil]
  · cases before <;> cases hnil

/-- Deeds that receive nothing leave what is known as it is, where no report gets lost between the
inbox and what has been taken over. -/
theorem Knows.quiet {view : QueueView b} {ds : List Deed} (h : view.Knows r)
    (hdeeds : r'.journal.deeds = r.journal.deeds ++ ds) (hquiet : ∀ d ∈ ds, d.message? = none)
    (hreceived : view.received r'.world = view.received r.world)
    (htargets : r'.inbox.reports.targets.foldl (fun m t => m.insert t.1 t.2)
        r'.injector.registry.runtime =
      r.inbox.reports.targets.foldl (fun m t => m.insert t.1 t.2) r.injector.registry.runtime)
    (hstate : r'.inbox.reports.state.foldl (fun m v => m.insert v.1 v.2) r'.state =
      r.inbox.reports.state.foldl (fun m v => m.insert v.1 v.2) r.state)
    (hregistered : ∀ before d after, ds = before ++ d :: after →
      Registered (r.journal.deeds ++ before) d) : view.Knows r' := by
  have hmessages : messagesOf r'.journal.deeds = messagesOf r.journal.deeds := by
    rw [hdeeds, messagesOf_append, messagesOf_eq_nil hquiet, List.append_nil]
  constructor
  · rw [hreceived, hmessages, h.received]
  · rw [htargets, hmessages, h.targets]
  · rw [hstate, hmessages, h.state]
  · rw [hdeeds]
    exact registered_append h.registered hregistered

theorem Knows.aside {view : QueueView b} (h : view.Knows r) (haside : Run.Aside b r r') :
    view.Knows r' := by
  obtain ⟨ds, hdeeds, hds⟩ := haside.deeds
  obtain ⟨-, hreceived, -, -⟩ := view.leads haside.world
  refine h.quiet hdeeds (fun d hd => (Deed.silent_of_isAside (hds d hd)).1) hreceived
    (by rw [haside.reports, haside.injector]) (by rw [haside.reports, haside.state])
    fun before d after hsplit => ?_
  have hd : d.isAside = true := hds d (hsplit ▸ List.mem_append_right _ List.mem_cons_self)
  cases d <;> trivial

/-- A message is received: it goes to the end of what is known. -/
theorem Knows.receive {view : QueueView b} (h : view.Knows r) {w : Watch} {m : Message}
    (hwait : b.wait w r.world = (.received m, s)) :
    view.Knows (Run.note b (.receive m) { r with world := s, inbox := (r.inbox.take m).2 }) := by
  obtain ⟨htargets, hstate⟩ := r.inbox.reports_take m
  have hmessages : messagesOf (r.journal.deeds ++ [.receive m]) =
      messagesOf r.journal.deeds ++ [m] := messagesOf_append _ _
  constructor
  · rw [Run.deeds_note, hmessages, ← h.received]
    exact view.receives w _ m s hwait
  · rw [Run.deeds_note, hmessages, registrations, latest_append, ← registrations, ← h.targets,
      ← List.foldl_append]
    exact congrArg _ htargets
  · rw [Run.deeds_note, hmessages, reportedState, latest_append, ← reportedState, ← h.state,
      ← List.foldl_append]
    exact congrArg _ hstate
  · rw [Run.deeds_note]
    exact registered_append h.registered (registered_singleton trivial)

theorem Knows.move {view : QueueView b} (h : view.Knows r) (hmove : Run.Move b r r') :
    view.Knows r' := by
  cases hmove with
  | aside haside => exact h.aside haside
  | receive hwait => exact h.receive hwait
  | @wake w wake s hwait hother =>
      exact ⟨(view.rests w _ wake s hwait hother).trans h.received, h.targets, h.state, h.registered⟩
  | absorb =>
      rw [Run.absorb_eq]
      exact ⟨h.received, h.targets, h.state, h.registered⟩
  | @exit w e s hwait =>
      rw [Run.absorb_eq]
      exact h.quiet (Run.deeds_note _) (by simp [Deed.message?]) (view.rests w _ _ s hwait nofun)
        rfl rfl (registered_singleton trivial)
  | @inject e id answer j s hreports heq =>
      obtain ⟨hleads, ledger, rfl⟩ := Run.inject_leads heq
      obtain ⟨-, hreceived, -, -⟩ := view.leads hleads
      -- nothing that was received before is still to be taken over
      have htargets := h.targets
      rw [hreports] at htargets
      exact h.quiet (Run.deeds_note _) (by simp [Deed.message?]) hreceived rfl rfl
        (registered_singleton htargets)

theorem Knows.moves {view : QueueView b} (h : view.Knows r) (hmoves : r.Moves b r') :
    view.Knows r' := by
  induction hmoves with
  | refl => exact h
  | tail _ hmove ih => exact ih.move hmove

theorem Sees.leads {view : QueueView b} (h : view.Sees r) (hleads : b.Leads r.world r'.world)
    (hexit : r'.journal.deeds.any Deed.isExit = r.journal.deeds.any Deed.isExit) :
    view.Sees r' := by
  obtain ⟨hgrows, hreceived, hlast, hmark⟩ := view.leads hleads
  intro hexited
  obtain ⟨n, hn, hle, hall⟩ := h (hexit ▸ hexited)
  refine ⟨n, hmark n hn, hle.trans hgrows.length_le, fun hemptied => ?_⟩
  rw [hreceived]
  refine hall ?_
  unfold Emptied at hemptied ⊢
  rwa [hlast] at hemptied

theorem Sees.wait {view : QueueView b} {w : Watch} {wake : Wake} (h : view.Sees r)
    (hwait : b.wait w r.world = (wake, r'.world))
    (hexit : r'.journal.deeds.any Deed.isExit = r.journal.deeds.any Deed.isExit) :
    view.Sees r' := by
  intro hexited
  obtain ⟨n, hn, hle, -⟩ := h (hexit ▸ hexited)
  have hmark := view.atExit_wait w r.world n hn
  have hgrows := view.grows w r.world
  rw [hwait] at hmark hgrows
  refine ⟨n, hmark, hle.trans hgrows.length_le, fun hemptied => ?_⟩
  obtain ⟨hchannel, hwake⟩ := emptied_of_wait hwait hemptied
  rw [view.empties w r.world wake r'.world hwait hchannel hwake]
  exact hle.trans hgrows.length_le

theorem Sees.move {view : QueueView b} (h : view.Sees r) (hmove : Run.Move b r r') :
    view.Sees r' := by
  cases hmove with
  | aside haside =>
      obtain ⟨ds, hdeeds, hds⟩ := haside.deeds
      refine h.leads haside.world ?_
      have hnone : ds.any Deed.isExit = false := List.any_eq_false.mpr fun d hd => by
        rw [Deed.isExit_of_isAside (hds d hd)]
        exact Bool.false_ne_true
      rw [hdeeds, List.any_append, hnone, Bool.or_false]
  | @inject e id answer j s hreports heq =>
      obtain ⟨hleads, -⟩ := Run.inject_leads heq
      refine h.leads hleads ?_
      rw [Run.deeds_note, List.any_append]
      exact Bool.or_false _
  | absorb =>
      rw [Run.absorb_eq]
      exact h
  | @receive w m s hwait =>
      refine h.wait hwait ?_
      rw [Run.deeds_note, List.any_append]
      exact Bool.or_false _
  | wake hwait => exact h.wait hwait rfl
  | @exit w e s hwait =>
      rw [Run.absorb_eq]
      intro _
      obtain ⟨n, hn, hle⟩ := view.exits w r.world e s hwait
      refine ⟨n, hn, hle, fun hemptied => ?_⟩
      obtain ⟨-, hwake | hwake⟩ := emptied_of_wait hwait hemptied
      · cases hwake
      · cases hwake

theorem Sees.moves {view : QueueView b} (h : view.Sees r) (hmoves : r.Moves b r') :
    view.Sees r' := by
  induction hmoves with
  | refl => exact h
  | tail _ hmove ih => exact ih.move hmove

end QueueView

end FaultDrill
