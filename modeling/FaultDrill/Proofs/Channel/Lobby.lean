import FaultDrill.Proofs.Channel.Inbox

/-!
# FaultDrill.Proofs.Channel.Lobby

**Whoever waits at a channel is attended to** (`LocalChannel.tended_after`). Whatever reporters and
the engine do: a reporter that waits has one message in the channel. Either its checkpoint is held,
or the message is still to be received; and if the message has been accepted into the queue, then it
reports a checkpoint, since other reporters are done when that happens.

Everything that is done to reporters at a channel comes down to one operation, `Lobby.finishAll`:
the reporters of a list get done if they wait, and nothing else changes. So what becomes of one of
them is decided by which lists it stands in (`getElem?_progress_finishAll`), and only once
(`finishAll_of_decided`).
-/

namespace FaultDrill

/-! ### Received messages -/

theorem Message.eq_of_held? {m : Message} {held : Checkpoint × Ticket} (h : m.held? = some held) :
    m = ⟨held.2, .checkpoint held.1⟩ := by
  obtain ⟨sender, report⟩ := m
  cases report with
  | checkpoint id =>
      obtain rfl := Option.some.inj h
      rfl
  | state var value => cases h
  | target name pid => cases h

theorem Message.held?_tickets_sublist (ms : List Message) :
    ((ms.filterMap Message.held?).map Prod.snd).Sublist (ms.map Message.sender) := by
  induction ms with
  | nil => exact List.Sublist.refl _
  | cons m ms ih =>
      cases hm : m.held? with
      | none =>
          rw [List.filterMap_cons_none hm, List.map_cons]
          exact ih.cons _
      | some held =>
          rw [List.filterMap_cons_some hm, List.map_cons, List.map_cons, Message.eq_of_held? hm]
          exact ih.cons_cons _

theorem Inbox.pending_takeAll (box : Inbox) (ms : List Message) :
    (box.takeAll ms).pending = box.pending ++ ms.filterMap Message.held? := by
  unfold takeAll
  induction ms generalizing box with
  | nil => simp
  | cons m ms ih =>
      rw [List.foldl_cons, ih, pending_take, List.append_assoc]
      cases hm : m.held? <;> simp [hm]

/-- Whatever ends the taking of messages, the first ones are taken. -/
theorem Inbox.exists_next (box : Inbox) (ms : List Message) :
    ∃ found taken rest, ms = taken ++ rest ∧ box.next ms = (found, box.takeAll taken, rest) := by
  rcases box.next_cases ms with ⟨-, hnext⟩ | ⟨before, m, after, held, rfl, -, -, hnext⟩
  · exact ⟨none, ms, [], (List.append_nil ms).symm, hnext⟩
  · exact ⟨some held.1, before ++ [m], after, by simp, hnext⟩

namespace Lobby

/-! ### Reporters that are done -/

/-- The progress of some reporters that were waiting. -/
def finishAll (l : Lobby) (ts : List Ticket) (p : Progress) : Lobby :=
  ts.foldl (fun l t => l.finish t p) l

theorem getElem?_progress_finish (l : Lobby) (t u : Ticket) (p : Progress) :
    (l.finish t p).progress[u]? =
      l.progress[u]?.map fun old => if u = t ∧ old = .waiting then p else old := by
  unfold finish
  rw [List.getElem?_modify]
  by_cases htu : t = u
  · subst htu
    simp
  · simp [htu, Ne.symm htu]

theorem getElem?_progress_finishAll (l : Lobby) (ts : List Ticket) (p : Progress) (t : Ticket) :
    (l.finishAll ts p).progress[t]? =
      l.progress[t]?.map fun old => if t ∈ ts ∧ old = .waiting then p else old := by
  unfold finishAll
  induction ts generalizing l with
  | nil => simp
  | cons u ts ih =>
      rw [List.foldl_cons, ih, getElem?_progress_finish, Option.map_map]
      congr 1
      funext old
      by_cases hold : old = .waiting
      · by_cases htu : t = u
        · simp [hold, htu]
        · simp [hold, htu]
      · simp [hold]

/-- Nothing but the progress changes. -/
theorem finishAll_eq (l : Lobby) (ts : List Ticket) (p : Progress) :
    l.finishAll ts p = { l with progress := (l.finishAll ts p).progress } := by
  unfold finishAll
  induction ts generalizing l with
  | nil => rfl
  | cons t ts ih =>
      rw [List.foldl_cons, ih]
      rfl

section Finished

variable (l : Lobby) (ts : List Ticket) (p : Progress)

@[simp] theorem messages_finishAll : (l.finishAll ts p).messages = l.messages := by
  rw [finishAll_eq]

@[simp] theorem capacity_finishAll : (l.finishAll ts p).capacity = l.capacity := by
  rw [finishAll_eq]

@[simp] theorem accepted_finishAll : (l.finishAll ts p).accepted = l.accepted := by
  simp [accepted]

@[simp] theorem blocked_finishAll : (l.finishAll ts p).blocked = l.blocked := by
  simp [blocked]

@[simp] theorem length_progress_finishAll :
    (l.finishAll ts p).progress.length = l.progress.length := by
  unfold finishAll
  induction ts generalizing l with
  | nil => rfl
  | cons t ts ih =>
      rw [List.foldl_cons, ih]
      simp [finish]

end Finished

variable {l : Lobby} {ts : List Ticket} {t : Ticket} {p : Progress}

theorem finishAll_of_mem (h : l.progress[t]? = some .waiting) (ht : t ∈ ts) :
    (l.finishAll ts p).progress[t]? = some p := by
  simp [getElem?_progress_finishAll, h, ht]

theorem finishAll_of_not_mem (ht : t ∉ ts) :
    (l.finishAll ts p).progress[t]? = l.progress[t]? := by
  simp [getElem?_progress_finishAll, ht]

theorem finishAll_of_ne {u : Ticket} (h : t ≠ u) :
    (l.finishAll [u] p).progress[t]? = l.progress[t]? :=
  finishAll_of_not_mem (by simpa using h)

/-- What has become of a reporter does not change any more. -/
theorem finishAll_of_decided {q : Progress} (h : l.progress[t]? = some q) (hq : q ≠ .waiting) :
    (l.finishAll ts p).progress[t]? = some q := by
  simp [getElem?_progress_finishAll, h, hq]

theorem waiting_of_finishAll (hp : p ≠ .waiting)
    (h : (l.finishAll ts p).progress[t]? = some .waiting) :
    l.progress[t]? = some .waiting ∧ t ∉ ts := by
  rw [getElem?_progress_finishAll] at h
  obtain ⟨old, hold, heq⟩ := Option.map_eq_some_iff.1 h
  split at heq
  · exact absurd heq hp
  · next hnot =>
    subst heq
    exact ⟨hold, fun ht => hnot ⟨ht, rfl⟩⟩

theorem confirm_eq (l : Lobby) (ms : List Message) :
    l.confirm ms = l.finishAll ((ms.filter (·.held?.isNone)).map Message.sender) .done := by
  unfold confirm finishAll
  induction ms generalizing l with
  | nil => rfl
  | cons m ms ih =>
      rw [List.foldl_cons, ih]
      obtain ⟨sender, report⟩ := m
      cases report <;> rfl

theorem close_eq (l : Lobby) :
    l.close =
      { l.finishAll (l.blocked.map Message.sender) (.failed .deaf) with
        messages := l.accepted
        closed := true } := by
  unfold close finishAll
  rw [List.foldl_map]

@[simp] theorem messages_close (l : Lobby) : l.close.messages = l.accepted := rfl

@[simp] theorem capacity_close (l : Lobby) : l.close.capacity = l.capacity := by
  rw [close_eq]
  exact capacity_finishAll _ _ _

@[simp] theorem accepted_close (l : Lobby) : l.close.accepted = l.accepted := by
  unfold accepted
  rw [messages_close, capacity_close, accepted, List.take_take, Nat.min_self]

@[simp] theorem blocked_close (l : Lobby) : l.close.blocked = [] := by
  unfold blocked
  rw [messages_close, capacity_close, accepted, List.drop_take_self]

theorem progress_close (l : Lobby) :
    l.close.progress =
      (l.finishAll (l.blocked.map Message.sender) (.failed .deaf)).progress := by
  rw [close_eq]

/-! ### Reporters and their messages -/

/-- The reporters of checkpoints that are held, and the senders of messages that have not been
received. -/
def tickets (l : Lobby) (box : Inbox) : List Ticket :=
  box.pending.map Prod.snd ++ l.messages.map Message.sender

/-- Every reporter that waits has one message, which is held or still to be received. -/
structure Attended (l : Lobby) (box : Inbox) : Prop where
  nodup : (l.tickets box).Nodup
  known : ∀ t ∈ l.tickets box, t < l.progress.length
  attended : ∀ t : Ticket, l.progress[t]? = some .waiting → t ∈ l.tickets box

/-- Reporters of variables and targets do not wait once their messages are accepted. -/
def Confirmed (l : Lobby) : Prop :=
  ∀ m ∈ l.accepted, m.held? = none → l.progress[m.sender]? ≠ some .waiting

variable {l' : Lobby} {box box' : Inbox}

/-- Messages may go and reporters may get done, as long as those that wait are attended to. -/
theorem Attended.of_sublist (h : l.Attended box)
    (htickets : (l'.tickets box').Sublist (l.tickets box))
    (hlength : l'.progress.length = l.progress.length)
    (hattended : ∀ t : Ticket, l'.progress[t]? = some .waiting → t ∈ l'.tickets box') :
    l'.Attended box' where
  nodup := h.nodup.sublist htickets
  known := by
    intro t ht
    rw [hlength]
    exact h.known t (htickets.subset ht)
  attended := hattended

theorem Attended.finishAll (h : l.Attended box) (ts : List Ticket) (hp : p ≠ .waiting) :
    (l.finishAll ts p).Attended box := by
  have htickets : (l.finishAll ts p).tickets box = l.tickets box := by simp [tickets]
  refine h.of_sublist (by rw [htickets]) (by simp) ?_
  intro t ht
  rw [htickets]
  exact h.attended t (waiting_of_finishAll hp ht).1

theorem Confirmed.of_subset (h : l.Confirmed) (haccepted : l'.accepted ⊆ l.accepted)
    (hwaiting : ∀ t : Ticket, l'.progress[t]? = some .waiting → l.progress[t]? = some .waiting) :
    l'.Confirmed := by
  intro m hm hheld hwait
  exact h m (haccepted hm) hheld (hwaiting m.sender hwait)

theorem Confirmed.finishAll (h : l.Confirmed) (ts : List Ticket) (hp : p ≠ .waiting) :
    (l.finishAll ts p).Confirmed := by
  refine h.of_subset (by simp) ?_
  intro t ht
  exact (waiting_of_finishAll hp ht).1

/-- A new reporter comes with its message. -/
theorem Attended.arrive (h : l.Attended box) (r : Report) :
    Attended { l with
      messages := l.messages ++ [⟨l.progress.length, r⟩]
      progress := l.progress ++ [.waiting] } box := by
  have htickets : tickets { l with
      messages := l.messages ++ [⟨l.progress.length, r⟩]
      progress := l.progress ++ [.waiting] } box = l.tickets box ++ [l.progress.length] := by
    simp [tickets]
  refine ⟨?_, ?_, ?_⟩
  · have hnew : l.progress.length ∉ l.tickets box := by
      intro hmem
      exact Nat.lt_irrefl _ (h.known _ hmem)
    rw [htickets]
    exact h.nodup.append (List.nodup_singleton _) (by simpa using hnew)
  · intro t ht
    rw [htickets] at ht
    rw [List.length_append, List.length_singleton]
    rcases List.mem_append.1 ht with ht | ht
    · exact Nat.lt_succ_of_lt (h.known t ht)
    · exact Nat.lt_succ_of_le (Nat.le_of_eq (List.mem_singleton.1 ht))
  · intro t ht
    rw [htickets]
    rcases Nat.lt_trichotomy t l.progress.length with hlt | rfl | hgt
    · rw [List.getElem?_append_left hlt] at ht
      exact List.mem_append_left _ (h.attended t ht)
    · exact List.mem_append_right _ (List.mem_singleton_self _)
    · rw [List.getElem?_append_right (Nat.le_of_lt hgt), List.getElem?_singleton,
        if_neg (by omega)] at ht
      cases ht

/-- A new reporter that is turned away does not wait. -/
theorem waiting_of_append {cause : ChannelError}
    (h : (l.progress ++ [.failed cause])[t]? = some .waiting) :
    l.progress[t]? = some .waiting := by
  rw [List.getElem?_append] at h
  split at h
  · exact h
  · simp [List.getElem?_singleton] at h

theorem waiting_of_leave {ticket : Ticket}
    (h : (l.leave ticket).progress[t]? = some .waiting) :
    l.progress[t]? = some .waiting ∧ t ≠ ticket := by
  have hwait : (l.finishAll [ticket] .left).progress[t]? = some .waiting := h
  simpa using waiting_of_finishAll (by decide) hwait

theorem accepted_append_blocked (l : Lobby) : l.accepted ++ l.blocked = l.messages :=
  List.take_append_drop _ _

/-- Whoever goes away before its message is accepted makes no place in the queue. -/
theorem accepted_leave (l : Lobby) (ticket : Ticket) : (l.leave ticket).accepted = l.accepted := by
  show (l.accepted ++ l.blocked.filter (·.sender ≠ ticket)).take l.capacity = l.accepted
  unfold accepted blocked
  rw [List.take_append, List.take_take, Nat.min_self]
  rcases Nat.le_total l.messages.length l.capacity with hle | hle
  · simp [List.drop_eq_nil_of_le hle]
  · simp [hle]

theorem Attended.leave (h : l.Attended box) (ticket : Ticket) :
    (l.leave ticket).Attended box := by
  have hmessages : (l.leave ticket).messages =
      l.accepted ++ l.blocked.filter (·.sender ≠ ticket) := rfl
  have hsub : (l.leave ticket).messages.Sublist l.messages := by
    rw [hmessages, ← accepted_append_blocked]
    exact (List.Sublist.refl _).append List.filter_sublist
  refine h.of_sublist ?_ (length_progress_finishAll l [ticket] .left) ?_
  · exact (List.Sublist.refl _).append (hsub.map Message.sender)
  · intro t ht
    obtain ⟨hwait, hne⟩ := waiting_of_leave ht
    rcases List.mem_append.1 (h.attended t hwait) with hheld | hsent
    · exact List.mem_append_left _ hheld
    · refine List.mem_append_right _ ?_
      obtain ⟨m, hm, rfl⟩ := List.mem_map.1 hsent
      rw [← accepted_append_blocked] at hm
      refine List.mem_map_of_mem ?_
      rw [hmessages]
      rcases List.mem_append.1 hm with hm | hm
      · exact List.mem_append_left _ hm
      · exact List.mem_append_right _ (List.mem_filter.2 ⟨hm, by simpa using hne⟩)

/-- The next messages are received: checkpoints among them are held, the others are confirmed. -/
theorem Attended.receive (h : l.Attended box) {taken rest : List Message}
    (hmessages : l.messages = taken ++ rest) :
    Attended { l.confirm taken with messages := rest } (box.takeAll taken) := by
  have hpending := box.pending_takeAll taken
  refine h.of_sublist ?_ ?_ ?_
  · unfold tickets
    dsimp only
    rw [hpending, hmessages, List.map_append, List.map_append, List.append_assoc]
    exact (List.Sublist.refl _).append
      ((Message.held?_tickets_sublist taken).append (List.Sublist.refl _))
  · show (l.confirm taken).progress.length = l.progress.length
    rw [confirm_eq, length_progress_finishAll]
  · intro t ht
    have hwait : (l.confirm taken).progress[t]? = some .waiting := ht
    rw [confirm_eq] at hwait
    obtain ⟨hwait, hnot⟩ := waiting_of_finishAll (by decide) hwait
    unfold tickets
    dsimp only
    rw [hpending, List.map_append, List.append_assoc]
    have hthere := h.attended t hwait
    unfold tickets at hthere
    rw [hmessages, List.map_append] at hthere
    rcases List.mem_append.1 hthere with hold | hsent
    · exact List.mem_append_left _ hold
    · refine List.mem_append_right _ ?_
      rcases List.mem_append.1 hsent with htaken | hrest
      · -- it still waits, so it has not been confirmed, and its message reports a checkpoint
        refine List.mem_append_left _ ?_
        obtain ⟨m, hm, rfl⟩ := List.mem_map.1 htaken
        cases hheld : m.held? with
        | none => exact absurd (List.mem_map_of_mem (List.mem_filter.2 ⟨hm, by simp [hheld]⟩)) hnot
        | some held =>
            refine List.mem_map.2 ⟨held, List.mem_filterMap.2 ⟨m, hm, hheld⟩, ?_⟩
            rw [Message.eq_of_held? hheld]
      · exact List.mem_append_right _ hrest

theorem settle_eq (l : Lobby) :
    l.settle = l.finishAll ((l.accepted.filter (·.held?.isNone)).map Message.sender) .done :=
  confirm_eq l l.accepted

theorem Attended.settle (h : l.Attended box) : l.settle.Attended box := by
  rw [settle_eq]
  exact h.finishAll _ (by decide)

theorem confirmed_settle (l : Lobby) : l.settle.Confirmed := by
  intro m hm hheld hwait
  rw [settle_eq] at hm hwait
  refine (waiting_of_finishAll (by decide) hwait).2 ?_
  rw [accepted_finishAll] at hm
  exact List.mem_map_of_mem (List.mem_filter.2 ⟨hm, by simp [hheld]⟩)

end Lobby

/-! ### What is done at a channel -/

namespace LocalChannel

/-- What reporters and the engine can do at a channel. -/
inductive Act where
  | send (r : Report)
  | leave (ticket : Ticket)
  | stopAdmitting
  | await (timeout : Duration)
  | release (id : Checkpoint)
  | drain
  | shutDown

/-- The channel after an act. -/
def perform (c : LocalChannel) : Act → LocalChannel
  | .send r => { c with lobby := c.lobby.send r }
  | .leave ticket => { c with lobby := c.lobby.leave ticket }
  | .stopAdmitting => { c with lobby := c.lobby.stopAdmitting }
  | .await timeout => (c.await timeout).2
  | .release id => (c.release id).2
  | .drain => c.drain.2
  | .shutDown => c.shutDown

/-- The channel after some acts, from a new one. -/
def after (capacity : Nat) (acts : List Act) : LocalChannel :=
  acts.foldl perform { lobby := .new capacity }

/-- However a wait ends, it receives the first messages. -/
theorem await_eq (c : LocalChannel) (timeout : Duration) :
    ∃ taken rest, c.lobby.messages = taken ++ rest ∧
      (c.await timeout).2.inbox = c.inbox.takeAll taken ∧
      (c.await timeout).2.lobby =
        Lobby.settle { c.lobby.confirm taken with messages := rest } := by
  obtain ⟨seen, hdef⟩ : ∃ seen, seen =
      if timeout.nanos = 0 then c.lobby.accepted else c.lobby.messages := ⟨_, rfl⟩
  have hseen : seen ++ c.lobby.messages.drop seen.length = c.lobby.messages := by
    have hfirst : seen <+: c.lobby.messages := by
      rw [hdef]
      split
      · exact List.take_prefix _ _
      · exact List.prefix_rfl
    obtain ⟨unseen, hunseen⟩ := hfirst
    rw [← hunseen, List.drop_left]
  obtain ⟨found, taken, rest, htaken, hnext⟩ := c.inbox.exists_next seen
  have hcount : seen.take (seen.length - rest.length) = taken := by
    rw [htaken, List.length_append, Nat.add_sub_cancel, List.take_left]
  refine ⟨taken, rest ++ c.lobby.messages.drop seen.length, ?_, ?_⟩
  · rw [← List.append_assoc, ← htaken, hseen]
  · unfold await
    dsimp only
    rw [← hdef, hnext]
    dsimp only
    rw [hcount]
    split
    · exact ⟨rfl, rfl⟩
    · split
      · exact ⟨rfl, rfl⟩
      · exact ⟨rfl, rfl⟩

theorem lobby_shutDown (c : LocalChannel) :
    c.shutDown.lobby = (c.lobby.finishAll (c.inbox.pending.map Prod.snd) .done).close := rfl

@[simp] theorem messages_shutDown (c : LocalChannel) :
    c.shutDown.lobby.messages = c.lobby.accepted := by
  rw [lobby_shutDown, Lobby.messages_close, Lobby.accepted_finishAll]

/-- Who still waits after a shutdown has been passed over by all that it does. -/
theorem waiting_of_shutDown {c : LocalChannel} {t : Ticket}
    (h : c.shutDown.lobby.progress[t]? = some .waiting) :
    c.lobby.progress[t]? = some .waiting ∧ t ∉ c.inbox.pending.map Prod.snd ∧
      t ∉ c.lobby.blocked.map Message.sender := by
  rw [lobby_shutDown, Lobby.progress_close, Lobby.blocked_finishAll] at h
  obtain ⟨h, hblocked⟩ := Lobby.waiting_of_finishAll (by decide) h
  obtain ⟨h, hheld⟩ := Lobby.waiting_of_finishAll (by decide) h
  exact ⟨h, hheld, hblocked⟩

/-- Every reporter that waits has one message in the channel, and waits for an answer. -/
structure Tended (c : LocalChannel) : Prop where
  attended : c.lobby.Attended c.inbox
  confirmed : c.lobby.Confirmed

namespace Tended

variable {c : LocalChannel}

theorem send (h : c.Tended) (r : Report) : (c.perform (.send r)).Tended := by
  obtain ⟨hattended, hconfirmed⟩ := h
  show Tended { c with lobby := c.lobby.send r }
  unfold Lobby.send
  split
  · exact ⟨hattended, hconfirmed⟩
  · split
    · refine ⟨⟨hattended.nodup, ?_, ?_⟩, hconfirmed.of_subset (List.Subset.refl _) ?_⟩
      · intro t ht
        rw [List.length_append]
        exact Nat.lt_add_right _ (hattended.known t ht)
      · intro t ht
        exact hattended.attended t (Lobby.waiting_of_append ht)
      · intro t ht
        exact Lobby.waiting_of_append ht
    · exact ⟨(hattended.arrive r).settle, Lobby.confirmed_settle _⟩

theorem leave (h : c.Tended) (ticket : Ticket) : (c.perform (.leave ticket)).Tended := by
  refine ⟨h.attended.leave ticket, h.confirmed.of_subset ?_ ?_⟩
  · show (c.lobby.leave ticket).accepted ⊆ c.lobby.accepted
    rw [Lobby.accepted_leave]
    exact List.Subset.refl _
  · intro t ht
    exact (Lobby.waiting_of_leave ht).1

theorem await (h : c.Tended) (timeout : Duration) : (c.perform (.await timeout)).Tended := by
  obtain ⟨taken, rest, hmessages, hinbox, hlobby⟩ := c.await_eq timeout
  have hreceived := (h.attended.receive hmessages).settle
  rw [← hlobby, ← hinbox] at hreceived
  refine ⟨hreceived, ?_⟩
  show (c.await timeout).2.lobby.Confirmed
  rw [hlobby]
  exact Lobby.confirmed_settle _

theorem release (h : c.Tended) (id : Checkpoint) : (c.perform (.release id)).Tended := by
  rcases c.inbox.release_cases id with
    ⟨earlier, ticket, later, hpending, -, hrelease⟩ | ⟨-, hrelease⟩
  · have hperform : c.perform (.release id) =
        { c with
          lobby := c.lobby.finishAll [ticket] .done
          inbox := { c.inbox with pending := earlier ++ later } } := by
      show (c.release id).2 = _
      unfold LocalChannel.release
      rw [hrelease]
      rfl
    rw [hperform]
    refine ⟨h.attended.of_sublist ?_ (by simp) ?_, h.confirmed.finishAll _ (by decide)⟩
    · have hfewer : (earlier ++ later).Sublist c.inbox.pending := by
        rw [hpending]
        exact (List.Sublist.refl _).append (List.sublist_cons_self _ _)
      unfold Lobby.tickets
      rw [Lobby.messages_finishAll]
      exact (hfewer.map Prod.snd).append (List.Sublist.refl _)
    · intro t ht
      obtain ⟨hwait, hne⟩ := Lobby.waiting_of_finishAll (by decide) ht
      have hthere := h.attended.attended t hwait
      unfold Lobby.tickets at hthere ⊢
      rw [hpending] at hthere
      simp only [List.map_append, List.map_cons, List.mem_append, List.mem_cons,
        List.not_mem_nil, or_false, Lobby.messages_finishAll] at hthere hne ⊢
      tauto
  · have hperform : c.perform (.release id) = c := by
      show (c.release id).2 = _
      unfold LocalChannel.release
      rw [hrelease]
    rw [hperform]
    exact h

theorem shutDown (h : c.Tended) : (c.perform .shutDown).Tended := by
  show c.shutDown.Tended
  have htickets : c.shutDown.lobby.tickets c.shutDown.inbox =
      c.lobby.accepted.map Message.sender := by
    unfold Lobby.tickets
    rw [messages_shutDown]
    rfl
  refine ⟨h.attended.of_sublist ?_ ?_ ?_, h.confirmed.of_subset ?_ ?_⟩
  · rw [htickets]
    exact ((List.take_sublist _ _).map _).trans (List.sublist_append_right _ _)
  · rw [lobby_shutDown, Lobby.progress_close]
    simp
  · intro t ht
    obtain ⟨ht, hheld, hblocked⟩ := waiting_of_shutDown ht
    have hthere := h.attended.attended t ht
    unfold Lobby.tickets at hthere
    rw [← Lobby.accepted_append_blocked, List.map_append, List.mem_append,
      List.mem_append] at hthere
    rw [htickets]
    tauto
  · rw [lobby_shutDown, Lobby.accepted_close, Lobby.accepted_finishAll]
    exact List.Subset.refl _
  · intro t ht
    exact (waiting_of_shutDown ht).1

theorem stopAdmitting (h : c.Tended) : (c.perform .stopAdmitting).Tended :=
  ⟨⟨h.attended.nodup, h.attended.known, h.attended.attended⟩, h.confirmed⟩

theorem drain (h : c.Tended) : (c.perform .drain).Tended :=
  ⟨⟨h.attended.nodup, h.attended.known, h.attended.attended⟩, h.confirmed⟩

theorem perform (h : c.Tended) (act : Act) : (c.perform act).Tended := by
  cases act with
  | send r => exact h.send r
  | leave ticket => exact h.leave ticket
  | stopAdmitting => exact h.stopAdmitting
  | await timeout => exact h.await timeout
  | release id => exact h.release id
  | drain => exact h.drain
  | shutDown => exact h.shutDown

end Tended

theorem tended_after (capacity : Nat) (acts : List Act) : (after capacity acts).Tended := by
  unfold after
  induction acts using List.reverseRecOn with
  | nil =>
      refine ⟨⟨List.nodup_nil, by simp [Lobby.tickets, Lobby.new], ?_⟩, ?_⟩
      · intro t ht
        cases ht
      · intro m hm
        simp [Lobby.accepted, Lobby.new] at hm
  | append_singleton acts act ih =>
      rw [List.foldl_append]
      exact ih.perform act

end LocalChannel

end FaultDrill
