import FaultDrill.Channel.Lobby
import FaultDrill.Proofs.Trial.Reports
import Mathlib.Data.List.Nodup
import Mathlib.Data.List.Perm.Basic

/-!
# FaultDrill.Proofs.Channel.Inbox

**The books of an inbox** (`Inbox.books_balance`). Messages come into a queue; waits receive some of
them, releases answer held checkpoints, and drains take out what else has been reported, in any
order. A `Desk` is an inbox together with its queue and with what has been done at it so far, and
`Desk.perform` does at it what the inbox does.

A wait receives messages one by one (`perform_wait`), so it does not matter for the books how many
of them it has received when it ends (`exists_perform_wait`); that the waits of a channel are such
waits is `LocalChannel.await_eq_perform`. A release takes one entry out of the middle
(`perform_release`). What each of them preserves is `Desk.Balanced`: among the checkpoints that have
been received, those that are held stand in their order, and together with the answered ones they
are all. This holds with any tickets; if they are different, then it says which ones are held.
-/

namespace FaultDrill

/-- The checkpoint that a message reports, with the ticket of its reporter. -/
def Message.held? (m : Message) : Option (Checkpoint × Ticket) :=
  match m.report with
  | .checkpoint id => some (id, m.sender)
  | _ => none

namespace Inbox

/-! ### What is done at an inbox -/

/-- What can be done at an inbox, and what can happen to it. A wait ends when a checkpoint is
reported, when its time is over, or when it is given up; the last two can be after any number of
messages. A wait in which messages arrive is one before they do and one after that. -/
inductive Act where
  | arrive (m : Message)
  | wait (most : Nat)
  | release (id : Checkpoint)
  | drain

/-- An inbox with its queue, and what has been done so far. -/
structure Desk where
  /-- The messages that have been sent and not yet received. -/
  queue : List Message := []
  inbox : Inbox := {}
  /-- The messages that have been received, in order. -/
  received : List Message := []
  /-- What has been taken out, one entry for each time. -/
  drained : List Reports := []
  /-- The reports of checkpoints that have been answered. -/
  answered : List (Checkpoint × Ticket) := []

/-- The desk after an act. -/
def Desk.perform (d : Desk) : Act → Desk
  | .arrive m => { d with queue := d.queue ++ [m] }
  | .wait most =>
    let (_, box, rest) := d.inbox.next (d.queue.take most)
    let queue := rest ++ d.queue.drop most
    { d with
      inbox := box
      queue := queue
      received := d.received ++ d.queue.take (d.queue.length - queue.length) }
  | .release id =>
    match d.inbox.release id with
    | .ok (ticket, box) => { d with inbox := box, answered := d.answered ++ [(id, ticket)] }
    | .error _ => d
  | .drain =>
    let (reports, box) := d.inbox.drain
    { d with inbox := box, drained := d.drained ++ [reports] }

/-- The desk after some acts, from an empty one. -/
def Desk.after (acts : List Act) : Desk :=
  acts.foldl Desk.perform {}

/-- The message that is sent. -/
def Act.message? : Act → Option Message
  | .arrive m => some m
  | _ => none

/-- The messages that are sent in the course of some acts. -/
def arrivals (acts : List Act) : List Message :=
  acts.filterMap Act.message?

/-! ### One step -/

theorem pending_take (box : Inbox) (m : Message) :
    (box.take m).2.pending = box.pending ++ m.held?.toList := by
  unfold Inbox.take Message.held?
  cases m.report <;> simp

theorem fst_take (box : Inbox) (m : Message) : (box.take m).1 = m.held?.map Prod.fst := by
  unfold Inbox.take Message.held?
  cases m.report <;> rfl

/-- The inbox after some messages. -/
def takeAll (box : Inbox) (ms : List Message) : Inbox :=
  ms.foldl (fun box m => (box.take m).2) box

/-- All messages are taken, or those up to the first one that reports a checkpoint. -/
theorem next_cases (box : Inbox) (ms : List Message) :
    (∀ m ∈ ms, m.held? = none) ∧ box.next ms = (none, box.takeAll ms, []) ∨
    ∃ before m after held, ms = before ++ m :: after ∧ (∀ m ∈ before, m.held? = none) ∧
      m.held? = some held ∧ box.next ms = (some held.1, box.takeAll (before ++ [m]), after) := by
  induction ms generalizing box with
  | nil => exact .inl ⟨by simp, rfl⟩
  | cons m ms ih =>
      have hfst := fst_take box m
      unfold next
      rcases htake : box.take m with ⟨id?, box'⟩
      have hall : ∀ ms, box'.takeAll ms = box.takeAll (m :: ms) := fun ms => by
        rw [takeAll, takeAll, List.foldl_cons, htake]
      rw [htake] at hfst
      cases hheld : m.held? with
      | none =>
          obtain rfl : id? = none := by simpa [hheld] using hfst
          rcases ih box' with ⟨hnone, hnext⟩ | ⟨before, m', after, held, hms, hbefore, hm', hnext⟩
          · refine .inl ⟨List.forall_mem_cons.2 ⟨hheld, hnone⟩, ?_⟩
            rw [← hall]
            exact hnext
          · refine .inr ⟨m :: before, m', after, held, by rw [hms, List.cons_append],
              List.forall_mem_cons.2 ⟨hheld, hbefore⟩, hm', ?_⟩
            rw [List.cons_append, ← hall]
            exact hnext
      | some held =>
          obtain rfl : id? = some held.1 := by simpa [hheld] using hfst
          refine .inr ⟨[], m, ms, held, rfl, by simp, hheld, ?_⟩
          rw [List.nil_append, ← hall]
          rfl

/-- A release answers the oldest report of the checkpoint, if there is one. -/
theorem release_cases (box : Inbox) (id : Checkpoint) :
    (∃ earlier ticket later, box.pending = earlier ++ (id, ticket) :: later ∧
      (∀ held ∈ earlier, held.1 ≠ id) ∧
      box.release id = .ok (ticket, { box with pending := earlier ++ later })) ∨
    (∀ held ∈ box.pending, held.1 ≠ id) ∧
      box.release id = .error (.protocol s!"checkpoint {id} has no pending report") := by
  unfold release
  cases hfind : box.pending.find? (·.1 = id) with
  | none => exact .inr ⟨by simpa using List.find?_eq_none.1 hfind, rfl⟩
  | some held =>
      obtain ⟨hid, earlier, later, hpending, hearlier⟩ := List.find?_eq_some_iff_append.1 hfind
      obtain ⟨id', ticket⟩ := held
      obtain rfl : id' = id := by simpa using hid
      have hnot : ∀ held ∈ earlier, ¬ held.1 = id' := by simpa using hearlier
      refine .inl ⟨earlier, ticket, later, hpending, hnot, ?_⟩
      rw [hpending, List.eraseP_append_right _ (by simpa using hnot),
        List.eraseP_cons_of_pos (by simp)]

/-- A message is received. -/
def Desk.receive (d : Desk) (m : Message) : Desk :=
  { d with inbox := (d.inbox.take m).2, received := d.received ++ [m] }

theorem foldl_receive (d : Desk) (ms : List Message) :
    ms.foldl Desk.receive d =
      { d with inbox := d.inbox.takeAll ms, received := d.received ++ ms } := by
  unfold takeAll
  induction ms generalizing d with
  | nil => simp
  | cons m ms ih =>
      rw [List.foldl_cons, ih]
      simp [Desk.receive]

theorem perform_wait_eq {d : Desk} {most : Nat} {found : Option Checkpoint}
    {taken rest : List Message} (hseen : d.queue.take most = taken ++ rest)
    (hnext : d.inbox.next (d.queue.take most) = (found, d.inbox.takeAll taken, rest)) :
    d.perform (.wait most) =
      { taken.foldl Desk.receive d with queue := rest ++ d.queue.drop most } := by
  have hqueue : d.queue = taken ++ (rest ++ d.queue.drop most) := by
    rw [← List.append_assoc, ← hseen, List.take_append_drop]
  have hlength : d.queue.length - (rest ++ d.queue.drop most).length = taken.length := by
    have h := congrArg List.length hqueue
    rw [List.length_append] at h
    omega
  have htaken : d.queue.take taken.length = taken := by
    conv_lhs => rw [hqueue, List.take_left]
  rw [foldl_receive]
  unfold Desk.perform
  dsimp only
  rw [hnext, hlength, htaken]

/-- A wait receives all messages that it gets to see, or those up to the first one that reports a
checkpoint, and it gives this checkpoint. -/
theorem perform_wait (d : Desk) (most : Nat) :
    (∀ m ∈ d.queue.take most, m.held? = none) ∧ (d.inbox.next (d.queue.take most)).1 = none ∧
      d.perform (.wait most) =
        { (d.queue.take most).foldl Desk.receive d with queue := d.queue.drop most } ∨
    ∃ before m after held, d.queue.take most = before ++ m :: after ∧
      (∀ m ∈ before, m.held? = none) ∧ m.held? = some held ∧
      (d.inbox.next (d.queue.take most)).1 = some held.1 ∧
      d.perform (.wait most) =
        { (before ++ [m]).foldl Desk.receive d with queue := after ++ d.queue.drop most } := by
  rcases next_cases d.inbox (d.queue.take most) with
    ⟨hnone, hnext⟩ | ⟨before, m, after, held, hseen, hbefore, hm, hnext⟩
  · exact .inl ⟨hnone, by rw [hnext], perform_wait_eq (List.append_nil _).symm hnext⟩
  · exact .inr ⟨before, m, after, held, hseen, hbefore, hm, by rw [hnext],
      perform_wait_eq (by simpa using hseen) hnext⟩

/-- Whatever ends a wait, it receives the first messages of the queue, one by one. -/
theorem exists_perform_wait (d : Desk) (most : Nat) :
    ∃ taken rest, d.queue = taken ++ rest ∧
      d.perform (.wait most) = { taken.foldl Desk.receive d with queue := rest } := by
  rcases perform_wait d most with ⟨-, -, hwait⟩ | ⟨before, m, after, held, hseen, -, -, -, hwait⟩
  · exact ⟨_, _, (List.take_append_drop most d.queue).symm, hwait⟩
  · refine ⟨before ++ [m], after ++ d.queue.drop most, ?_, hwait⟩
    have hqueue := List.take_append_drop most d.queue
    rw [hseen] at hqueue
    simpa using hqueue.symm

/-- A release answers the oldest report of the checkpoint, or nothing happens. -/
theorem perform_release (d : Desk) (id : Checkpoint) :
    (∃ earlier ticket later, d.inbox.pending = earlier ++ (id, ticket) :: later ∧
      (∀ held ∈ earlier, held.1 ≠ id) ∧
      d.inbox.release id = .ok (ticket, { d.inbox with pending := earlier ++ later }) ∧
      d.perform (.release id) =
        { d with
          inbox := { d.inbox with pending := earlier ++ later }
          answered := d.answered ++ [(id, ticket)] }) ∨
    (∀ held ∈ d.inbox.pending, held.1 ≠ id) ∧
      d.inbox.release id = .error (.protocol s!"checkpoint {id} has no pending report") ∧
      d.perform (.release id) = d := by
  have hperform : d.perform (.release id) =
      match d.inbox.release id with
      | .ok (ticket, box) => { d with inbox := box, answered := d.answered ++ [(id, ticket)] }
      | .error _ => d := rfl
  rcases release_cases d.inbox id with
    ⟨earlier, ticket, later, hpending, hfirst, hrelease⟩ | ⟨hnone, hrelease⟩
  · rw [hrelease] at hperform
    exact .inl ⟨earlier, ticket, later, hpending, hfirst, hrelease, hperform⟩
  · rw [hrelease] at hperform
    exact .inr ⟨hnone, hrelease, hperform⟩

/-! ### The books -/

/-- What has been received is where it belongs: reports of variables and targets have been drained
or are still there, and checkpoints have been answered or are still held. -/
structure Desk.Balanced (d : Desk) : Prop where
  state : d.drained.flatMap Reports.state ++ d.inbox.reports.state =
    d.received.filterMap Message.variable?
  targets : d.drained.flatMap Reports.targets ++ d.inbox.reports.targets =
    d.received.filterMap Message.target?
  order : d.inbox.pending.Sublist (d.received.filterMap Message.held?)
  held : (d.answered ++ d.inbox.pending).Perm (d.received.filterMap Message.held?)

namespace Desk.Balanced

variable {d : Desk}

theorem receive (h : d.Balanced) (m : Message) : (d.receive m).Balanced := by
  have hlast : ∀ {β : Type} (f : Message → Option β),
      (d.received ++ [m]).filterMap f = d.received.filterMap f ++ (f m).toList := fun f => by
    rw [List.filterMap_append]
    cases hm : f m <;> simp [hm]
  obtain ⟨htargets, hstate⟩ := reports_take d.inbox m
  have hpending := pending_take d.inbox m
  constructor
  · show d.drained.flatMap Reports.state ++ (d.inbox.take m).2.reports.state =
      (d.received ++ [m]).filterMap Message.variable?
    rw [hstate, ← List.append_assoc, h.state, hlast]
  · show d.drained.flatMap Reports.targets ++ (d.inbox.take m).2.reports.targets =
      (d.received ++ [m]).filterMap Message.target?
    rw [htargets, ← List.append_assoc, h.targets, hlast]
  · show (d.inbox.take m).2.pending.Sublist ((d.received ++ [m]).filterMap Message.held?)
    rw [hpending, hlast]
    exact h.order.append (List.Sublist.refl _)
  · show (d.answered ++ (d.inbox.take m).2.pending).Perm
      ((d.received ++ [m]).filterMap Message.held?)
    rw [hpending, hlast, ← List.append_assoc]
    exact h.held.append (List.Perm.refl _)

theorem foldl_receive (h : d.Balanced) (ms : List Message) :
    (ms.foldl Desk.receive d).Balanced := by
  induction ms generalizing d with
  | nil => exact h
  | cons m ms ih => exact ih (h.receive m)

theorem release (h : d.Balanced) (id : Checkpoint) : (d.perform (.release id)).Balanced := by
  rcases perform_release d id with
    ⟨earlier, ticket, later, hpending, -, -, hperform⟩ | ⟨-, -, hperform⟩
  · rw [hperform]
    have horder := h.order
    have hheld := h.held
    rw [hpending] at horder hheld
    refine ⟨h.state, h.targets, ?_, ?_⟩
    · exact ((List.Sublist.refl earlier).append (List.sublist_cons_self _ later)).trans horder
    · show ((d.answered ++ [(id, ticket)]) ++ (earlier ++ later)).Perm _
      refine .trans ?_ hheld
      rw [List.append_assoc, List.singleton_append]
      exact (List.perm_middle.symm).append_left d.answered
  · rwa [hperform]

theorem perform (h : d.Balanced) (act : Act) : (d.perform act).Balanced := by
  cases act with
  | arrive m => exact ⟨h.state, h.targets, h.order, h.held⟩
  | wait most =>
      obtain ⟨taken, rest, -, hwait⟩ := exists_perform_wait d most
      have hfold := h.foldl_receive taken
      rw [hwait]
      exact ⟨hfold.state, hfold.targets, hfold.order, hfold.held⟩
  | release id => exact h.release id
  | drain =>
      refine ⟨?_, ?_, h.order, h.held⟩
      · show (d.drained ++ [d.inbox.reports]).flatMap Reports.state ++ [] =
          d.received.filterMap Message.variable?
        simpa using h.state
      · show (d.drained ++ [d.inbox.reports]).flatMap Reports.targets ++ [] =
          d.received.filterMap Message.target?
        simpa using h.targets

end Desk.Balanced

theorem balanced_after (acts : List Act) : (Desk.after acts).Balanced := by
  unfold Desk.after
  induction acts using List.reverseRecOn with
  | nil => exact ⟨rfl, rfl, List.Sublist.refl _, List.Perm.refl _⟩
  | append_singleton acts act ih =>
      rw [List.foldl_append]
      exact ih.perform act

theorem received_append_queue_perform (d : Desk) (act : Act) :
    (d.perform act).received ++ (d.perform act).queue =
      d.received ++ d.queue ++ act.message?.toList := by
  cases act with
  | arrive m => exact (List.append_assoc _ _ _).symm
  | wait most =>
      obtain ⟨taken, rest, hqueue, hwait⟩ := exists_perform_wait d most
      rw [hwait, foldl_receive, hqueue]
      simp [Act.message?]
  | release id =>
      rcases perform_release d id with
        ⟨earlier, ticket, later, -, -, -, hperform⟩ | ⟨-, -, hperform⟩ <;>
        simp [hperform, Act.message?]
  | drain => simp [Desk.perform, Act.message?]

theorem received_append_queue (acts : List Act) :
    (Desk.after acts).received ++ (Desk.after acts).queue = arrivals acts := by
  unfold Desk.after arrivals
  induction acts using List.reverseRecOn with
  | nil => rfl
  | append_singleton acts act ih =>
      rw [List.foldl_append, List.filterMap_append, ← ih]
      refine (received_append_queue_perform _ act).trans ?_
      cases hact : act.message? <;> simp [hact]

/-- What is left of a list without repetition when some of it is gone. -/
theorem eq_filter_of_perm {α : Type} [BEq α] [LawfulBEq α] {gone left all : List α}
    (hall : all.Nodup) (horder : left.Sublist all)
    (hperm : (gone ++ left).Perm all) :
    left = all.filter (· ∉ gone) := by
  have hdisjoint : ∀ a ∈ left, a ∉ gone := fun a ha hgone =>
    (List.nodup_append.1 (hperm.nodup_iff.2 hall)).2.2 a hgone a ha rfl
  have hself : left.filter (· ∉ gone) = left :=
    List.filter_eq_self.2 fun a ha => by simpa using hdisjoint a ha
  have hnone : gone.filter (· ∉ gone) = [] := by simp
  have hsub : left.Sublist (all.filter (· ∉ gone)) := hself ▸ horder.filter (· ∉ gone)
  -- a part of what is left can only be all of it, since there are as many of both
  refine hsub.eq_of_length ?_
  rw [← (hperm.filter (· ∉ gone)).length_eq, List.filter_append, hnone, hself, List.nil_append]

/-- **The books of an inbox.** Whatever is done at an inbox, in whatever order: the messages that
have been received are the first that were sent; what has been drained and what is still there are
the variables and the targets that they report, in order; the held checkpoints are those that they
report and that have not been answered, in order; and no reporter has been answered twice. The next
wait receives what it gets to see, up to the first checkpoint. The next release answers the oldest
held report of its checkpoint and no other, or it fails and changes nothing because there is
none. -/
theorem books_balance (acts : List Act)
    (htickets : (((arrivals acts).filterMap Message.held?).map Prod.snd).Nodup) :
    let d := Desk.after acts
    d.received ++ d.queue = arrivals acts ∧
    d.drained.flatMap Reports.state ++ d.inbox.reports.state =
      d.received.filterMap Message.variable? ∧
    d.drained.flatMap Reports.targets ++ d.inbox.reports.targets =
      d.received.filterMap Message.target? ∧
    d.inbox.pending = (d.received.filterMap Message.held?).filter (· ∉ d.answered) ∧
    (d.answered.map Prod.snd).Nodup ∧
    (∀ most,
      (∀ m ∈ d.queue.take most, m.held? = none) ∧ (d.inbox.next (d.queue.take most)).1 = none ∧
        d.perform (.wait most) =
          { (d.queue.take most).foldl Desk.receive d with queue := d.queue.drop most } ∨
      ∃ before m after held, d.queue.take most = before ++ m :: after ∧
        (∀ m ∈ before, m.held? = none) ∧ m.held? = some held ∧
        (d.inbox.next (d.queue.take most)).1 = some held.1 ∧
        d.perform (.wait most) =
          { (before ++ [m]).foldl Desk.receive d with queue := after ++ d.queue.drop most }) ∧
    ∀ id,
      (∃ earlier ticket later, d.inbox.pending = earlier ++ (id, ticket) :: later ∧
        (∀ held ∈ earlier, held.1 ≠ id) ∧
        d.inbox.release id = .ok (ticket, { d.inbox with pending := earlier ++ later }) ∧
        d.perform (.release id) =
          { d with
            inbox := { d.inbox with pending := earlier ++ later }
            answered := d.answered ++ [(id, ticket)] }) ∨
      (∀ held ∈ d.inbox.pending, held.1 ≠ id) ∧
        d.inbox.release id = .error (.protocol s!"checkpoint {id} has no pending report") ∧
        d.perform (.release id) = d := by
  intro d
  have hbalanced := balanced_after acts
  have hsent := received_append_queue acts
  have hreceived : ((d.received.filterMap Message.held?).map Prod.snd).Nodup := by
    rw [← hsent, List.filterMap_append, List.map_append] at htickets
    exact (List.nodup_append.1 htickets).1
  have hanswered : ((d.answered ++ d.inbox.pending).map Prod.snd).Nodup :=
    (hbalanced.held.map Prod.snd).nodup_iff.2 hreceived
  rw [List.map_append] at hanswered
  exact ⟨hsent, hbalanced.state, hbalanced.targets,
    eq_filter_of_perm (List.Nodup.of_map _ hreceived) hbalanced.order hbalanced.held,
    (List.nodup_append.1 hanswered).1, perform_wait d, perform_release d⟩

theorem books_balance_equalCheckpoints :
    let acts : List Act := [.arrive ⟨0, .checkpoint "1"⟩, .arrive ⟨1, .state "rows" "100"⟩,
      .arrive ⟨2, .checkpoint "1"⟩, .wait 1, .wait 2, .release "1"]
    (((arrivals acts).filterMap Message.held?).map Prod.snd).Nodup ∧
      (Desk.after acts).inbox.pending = [("1", 2)] ∧
      (Desk.after acts).answered = [("1", 0)] ∧
      ((Desk.after acts).answered.map Prod.snd).Nodup := by
  intro acts
  have htickets : (((arrivals acts).filterMap Message.held?).map Prod.snd).Nodup := by decide
  exact ⟨htickets, rfl, rfl, (books_balance acts htickets).2.2.2.2.1⟩

end Inbox

/-! ### The waits of a channel -/

@[simp] theorem Lobby.messages_confirm (l : Lobby) (ms : List Message) :
    (l.confirm ms).messages = l.messages := by
  unfold Lobby.confirm
  induction ms generalizing l with
  | nil => rfl
  | cons m ms ih =>
      rw [List.foldl_cons, ih]
      cases m.report <;> rfl

@[simp] theorem Lobby.messages_settle (l : Lobby) : l.settle.messages = l.messages :=
  l.messages_confirm l.accepted

/-- However the wait of a channel ends, it is a wait of its inbox. -/
theorem LocalChannel.await_eq_perform (c : LocalChannel) (timeout : Duration) :
    ∃ most, ∀ d : Inbox.Desk, d.queue = c.lobby.messages → d.inbox = c.inbox →
      (c.await timeout).2.inbox = (d.perform (.wait most)).inbox ∧
        (c.await timeout).2.lobby.messages = (d.perform (.wait most)).queue := by
  obtain ⟨seen, hdef⟩ : ∃ seen, seen =
      if timeout.nanos = 0 then c.lobby.accepted else c.lobby.messages := ⟨_, rfl⟩
  have hprefix : seen <+: c.lobby.messages := by
    rw [hdef]
    split
    · exact List.take_prefix _ _
    · exact List.prefix_rfl
  -- a wait without time sees only who is connected, and they are the first of the lobby
  refine ⟨seen.length, fun d hqueue hinbox => ?_⟩
  have htake := List.prefix_iff_eq_take.1 hprefix
  unfold await Inbox.Desk.perform
  dsimp only
  rw [hqueue, hinbox, ← htake, ← hdef]
  split
  · simp
  · split <;> simp

end FaultDrill
