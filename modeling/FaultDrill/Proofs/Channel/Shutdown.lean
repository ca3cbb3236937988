import FaultDrill.Proofs.Channel.Lobby

/-!
# FaultDrill.Proofs.Channel.Shutdown

**Who is released when a channel is shut down** (`LocalChannel.shutDown_releases`). The engine
releases the reporters whose checkpoints are held, and no others: it does not look into the queue
again, so a report that has been accepted but not received is not answered
(`LocalChannel.queued_not_released`).

Over connections there is one more way to miss a release. All connections are told to end before the
engine releases the first reporter, and a connection that waits for a release looks at both, the
release first. `Closing.turn` lets engine and connections take turns in any order; what becomes of a
reporter is then a matter of what comes first (`Closing.fate_of_accepted`).
-/

namespace FaultDrill

/-! ### Channels over connections -/

namespace Lobby

/-- What comes next while a channel over connections is shut down. -/
inductive Turn where
  | engine
  | connection (ticket : Ticket)
  deriving DecidableEq

/-- A channel over connections that is shut down, with the held reporters that have not been
released yet. The connections have been told to end before. -/
structure Closing where
  lobby : Lobby
  held : List Ticket

namespace Closing

/-- The engine releases the next held reporter, and when there is none it closes the queue. A
connection whose message has been accepted looks whether its reporter has been released, and if not,
then it ends. -/
def turn (c : Closing) : Turn → Closing
  | .engine =>
    match c.held with
    | [] => { c with lobby := c.lobby.close }
    | t :: rest => { lobby := c.lobby.answer t, held := rest }
  | .connection t =>
    if t ∈ c.lobby.blocked.map Message.sender then c
    else { c with lobby := c.lobby.finish t .left }

/-- What has become of a reporter after some turns. -/
def fate (c : Closing) (turns : List Turn) (t : Ticket) : Option Progress :=
  (turns.foldl turn c).lobby.progress[t]?

variable {c : Closing} {t : Ticket}

theorem turn_engine_nil (h : c.held = []) :
    c.turn .engine = { c with lobby := c.lobby.close } := by
  simp [turn, h]

theorem turn_engine_cons {u : Ticket} {rest : List Ticket} (h : c.held = u :: rest) :
    c.turn .engine = ⟨c.lobby.finishAll [u] .done, rest⟩ := by
  simp [turn, h, answer, finishAll]

theorem turn_connection_of_mem {u : Ticket} (h : u ∈ c.lobby.blocked.map Message.sender) :
    c.turn (.connection u) = c :=
  if_pos h

theorem turn_connection {u : Ticket} (h : u ∉ c.lobby.blocked.map Message.sender) :
    c.turn (.connection u) = { c with lobby := c.lobby.finishAll [u] .left } :=
  if_neg h

theorem progress_turn_of_decided {q : Progress} (h : c.lobby.progress[t]? = some q)
    (hq : q ≠ .waiting) (next : Turn) : (c.turn next).lobby.progress[t]? = some q := by
  cases next with
  | engine =>
      cases hheld : c.held with
      | nil =>
          rw [turn_engine_nil hheld, progress_close]
          exact finishAll_of_decided h hq
      | cons u rest =>
          rw [turn_engine_cons hheld]
          exact finishAll_of_decided h hq
  | connection u =>
      by_cases hu : u ∈ c.lobby.blocked.map Message.sender
      · rwa [turn_connection_of_mem hu]
      · rw [turn_connection hu]
        exact finishAll_of_decided h hq

theorem fate_of_decided {q : Progress} (h : c.lobby.progress[t]? = some q) (hq : q ≠ .waiting)
    (turns : List Turn) : c.fate turns t = some q := by
  unfold fate
  induction turns generalizing c with
  | nil => exact h
  | cons next turns ih => exact ih (progress_turn_of_decided h hq next)

theorem fate_cons (next : Turn) (turns : List Turn) :
    c.fate (next :: turns) t = (c.turn next).fate turns t := rfl

/-- A reporter whose message has been accepted is released if it is held and its turn comes before
it looks; otherwise it ends when it looks. -/
theorem fate_of_accepted (hwait : c.lobby.progress[t]? = some .waiting)
    (hblocked : t ∉ c.lobby.blocked.map Message.sender) (turns : List Turn) :
    c.fate turns t = some
      (if t ∈ c.held ∧ c.held.idxOf t < (turns.takeWhile (· ≠ .connection t)).count .engine
        then .done
      else if .connection t ∈ turns then .left
      else .waiting) := by
  induction turns generalizing c with
  | nil => simpa [fate] using hwait
  | cons next turns ih =>
      rw [fate_cons]
      cases next with
      | engine =>
          cases hheld : c.held with
          | nil =>
              -- the queue is closed, which only those see that are blocked
              have hwait' : c.lobby.close.progress[t]? = some .waiting := by
                rw [progress_close, finishAll_of_not_mem hblocked]
                exact hwait
              rw [turn_engine_nil hheld, ih hwait' (by simp)]
              simp [hheld]
          | cons u rest =>
              rw [turn_engine_cons hheld]
              by_cases hu : t = u
              · subst hu
                rw [fate_of_decided (finishAll_of_mem hwait (by simp)) (by decide)]
                simp
              · rw [ih ((finishAll_of_ne hu).trans hwait) (by simpa using hblocked)]
                simp [hu, Ne.symm hu]
      | connection u =>
          by_cases hu : t = u
          · subst hu
            rw [turn_connection hblocked,
              fate_of_decided (finishAll_of_mem hwait (by simp)) (by decide)]
            simp
          · -- another connection only sees to its own reporter
            have hpassed : (c.turn (.connection u)).held = c.held ∧
                (c.turn (.connection u)).lobby.progress[t]? = some .waiting ∧
                t ∉ (c.turn (.connection u)).lobby.blocked.map Message.sender := by
              by_cases hub : u ∈ c.lobby.blocked.map Message.sender
              · rw [turn_connection_of_mem hub]
                exact ⟨rfl, hwait, hblocked⟩
              · rw [turn_connection hub]
                exact ⟨rfl, (finishAll_of_ne hu).trans hwait, by simpa using hblocked⟩
            obtain ⟨hheld, hwait', hblocked'⟩ := hpassed
            rw [ih hwait' hblocked', hheld]
            simp [hu, Ne.symm hu]

/-- A reporter whose message has no place fails when the queue is closed. -/
theorem fate_of_blocked (hwait : c.lobby.progress[t]? = some .waiting)
    (hheld : t ∉ c.held) (hblocked : t ∈ c.lobby.blocked.map Message.sender) (turns : List Turn) :
    c.fate turns t = some
      (if c.held.length < turns.count .engine then .failed .deaf else .waiting) := by
  induction turns generalizing c with
  | nil => simpa [fate] using hwait
  | cons next turns ih =>
      rw [fate_cons]
      cases next with
      | engine =>
          cases hrest : c.held with
          | nil =>
              have hfailed : c.lobby.close.progress[t]? = some (.failed .deaf) := by
                rw [progress_close]
                exact finishAll_of_mem hwait hblocked
              rw [turn_engine_nil hrest, fate_of_decided hfailed (by simp)]
              simp
          | cons u rest =>
              rw [hrest] at hheld
              obtain ⟨hne, hlater⟩ : t ≠ u ∧ t ∉ rest := by simpa using hheld
              rw [turn_engine_cons hrest,
                ih ((finishAll_of_ne hne).trans hwait) hlater (by simpa using hblocked)]
              simp
      | connection u =>
          by_cases hub : u ∈ c.lobby.blocked.map Message.sender
          · rw [turn_connection_of_mem hub, ih hwait hheld hblocked]
            simp
          · have hne : t ≠ u := by
              rintro rfl
              exact hub hblocked
            have hrest := @ih { c with lobby := c.lobby.finishAll [u] .left }
              ((finishAll_of_ne hne).trans hwait) hheld (by simpa using hblocked)
            rw [turn_connection hub, hrest]
            simp

end Closing

end Lobby

namespace LocalChannel

/-- The channel when it is shut down over connections. -/
def closing (c : LocalChannel) : Lobby.Closing :=
  ⟨c.lobby, c.inbox.pending.map Prod.snd⟩

section Places

variable {c : LocalChannel} {t : Ticket}

/-- Whoever waits is in one of three places. -/
theorem Tended.places (h : c.Tended) (hwait : c.lobby.progress[t]? = some .waiting) :
    (t ∈ c.inbox.pending.map Prod.snd ∧ t ∉ c.lobby.blocked.map Message.sender) ∨
    (t ∉ c.inbox.pending.map Prod.snd ∧ t ∉ c.lobby.blocked.map Message.sender ∧
      ∃ id, ⟨t, .checkpoint id⟩ ∈ c.lobby.accepted) ∨
    (t ∉ c.inbox.pending.map Prod.snd ∧ t ∈ c.lobby.blocked.map Message.sender) := by
  obtain ⟨⟨hnodup, -, hattended⟩, hconfirmed⟩ := h
  have hthere := hattended t hwait
  unfold Lobby.tickets at hnodup hthere
  rw [← Lobby.accepted_append_blocked, List.map_append] at hnodup hthere
  obtain ⟨-, hqueue, hheld⟩ := List.nodup_append.1 hnodup
  obtain ⟨-, -, hblocked⟩ := List.nodup_append.1 hqueue
  rcases List.mem_append.1 hthere with hmem | hmem
  · refine .inl ⟨hmem, ?_⟩
    intro hlast
    exact hheld t hmem t (List.mem_append_right _ hlast) rfl
  · have hnot : t ∉ c.inbox.pending.map Prod.snd := by
      intro hfirst
      exact hheld t hfirst t hmem rfl
    rcases List.mem_append.1 hmem with hmem | hmem
    · refine .inr (.inl ⟨hnot, fun hlast => hblocked t hmem t hlast rfl, ?_⟩)
      obtain ⟨m, hm, rfl⟩ := List.mem_map.1 hmem
      cases hcheckpoint : m.held? with
      | none => exact absurd hwait (hconfirmed m hm hcheckpoint)
      | some held =>
          obtain rfl := Message.eq_of_held? hcheckpoint
          exact ⟨held.1, hm⟩
    · exact .inr (.inr ⟨hnot, hmem⟩)

theorem shutDown_of_held (hwait : c.lobby.progress[t]? = some .waiting)
    (hheld : t ∈ c.inbox.pending.map Prod.snd) : c.shutDown.lobby.progress[t]? = some .done := by
  rw [lobby_shutDown, Lobby.progress_close]
  exact Lobby.finishAll_of_decided (Lobby.finishAll_of_mem hwait hheld) (by decide)

theorem shutDown_of_queued (hheld : t ∉ c.inbox.pending.map Prod.snd)
    (hblocked : t ∉ c.lobby.blocked.map Message.sender) :
    c.shutDown.lobby.progress[t]? = c.lobby.progress[t]? := by
  rw [lobby_shutDown, Lobby.progress_close, Lobby.blocked_finishAll,
    Lobby.finishAll_of_not_mem hblocked, Lobby.finishAll_of_not_mem hheld]

theorem shutDown_of_blocked (hwait : c.lobby.progress[t]? = some .waiting)
    (hheld : t ∉ c.inbox.pending.map Prod.snd) (hblocked : t ∈ c.lobby.blocked.map Message.sender) :
    c.shutDown.lobby.progress[t]? = some (.failed .deaf) := by
  rw [lobby_shutDown, Lobby.progress_close, Lobby.blocked_finishAll]
  refine Lobby.finishAll_of_mem ?_ hblocked
  rw [Lobby.finishAll_of_not_mem hheld]
  exact hwait

/-- When a channel that has been shut down is given up, whoever waits fails. -/
theorem abandon_shutDown (h : c.shutDown.lobby.progress[t]? = some .waiting) :
    c.shutDown.lobby.abandon.progress[t]? = some (.failed .dropped) := by
  have hclosed : c.shutDown.lobby.close.progress[t]? = some .waiting := by
    rw [Lobby.progress_close, lobby_shutDown, Lobby.blocked_close, ← lobby_shutDown]
    exact h
  unfold Lobby.abandon
  simp [hclosed]

end Places

/-- **Who is released when a channel is shut down.** A reporter that waits is in one of three
places. If its checkpoint is held, then it is released. If its message is in the queue, then it is
not: it goes on waiting, and it fails when the channel is given up. If its message has no place yet,
then it fails at once.

Over connections the reporters are told of the end before the first one is released. So a held
reporter is released only if its turn comes before its connection looks, and one whose message is in
the queue ends without an answer as soon as its connection looks. -/
theorem shutDown_releases (capacity : Nat) (acts : List Act) {t : Ticket}
    (hwait : (after capacity acts).lobby.progress[t]? = some .waiting) :
    let c := after capacity acts
    (t ∈ c.inbox.pending.map Prod.snd ∧ c.shutDown.lobby.progress[t]? = some .done ∧
      ∀ turns, c.closing.fate turns t = some
        (if c.closing.held.idxOf t < (turns.takeWhile (· ≠ .connection t)).count .engine then .done
        else if .connection t ∈ turns then .left
        else .waiting)) ∨
    (∃ id, ⟨t, .checkpoint id⟩ ∈ c.lobby.accepted ∧
      ⟨t, .checkpoint id⟩ ∈ c.shutDown.lobby.accepted ∧
      c.shutDown.lobby.progress[t]? = some .waiting ∧
      c.shutDown.lobby.abandon.progress[t]? = some (.failed .dropped) ∧
      ∀ turns, c.closing.fate turns t =
        some (if .connection t ∈ turns then .left else .waiting)) ∨
    (t ∈ c.lobby.blocked.map Message.sender ∧
      c.shutDown.lobby.progress[t]? = some (.failed .deaf) ∧
      ∀ turns, c.closing.fate turns t = some
        (if c.closing.held.length < turns.count .engine then .failed .deaf else .waiting)) := by
  intro c
  rcases (tended_after capacity acts).places hwait with
    ⟨hheld, hblocked⟩ | ⟨hheld, hblocked, id, hqueued⟩ | ⟨hheld, hblocked⟩
  · refine .inl ⟨hheld, shutDown_of_held hwait hheld, ?_⟩
    intro turns
    have hmem : t ∈ c.closing.held := hheld
    rw [Lobby.Closing.fate_of_accepted (c := c.closing) hwait hblocked]
    simp only [hmem, true_and]
  · have hstill := (shutDown_of_queued hheld hblocked).trans hwait
    refine .inr (.inl ⟨id, hqueued, ?_, hstill, abandon_shutDown hstill, ?_⟩)
    · rw [lobby_shutDown, Lobby.accepted_close, Lobby.accepted_finishAll]
      exact hqueued
    · intro turns
      have hnot : t ∉ c.closing.held := hheld
      rw [Lobby.Closing.fate_of_accepted (c := c.closing) hwait hblocked]
      simp only [hnot, false_and, if_false]
  · refine .inr (.inr ⟨hblocked, shutDown_of_blocked hwait hheld hblocked, ?_⟩)
    intro turns
    exact Lobby.Closing.fate_of_blocked (c := c.closing) hwait hheld hblocked turns

/-- Of two reporters the engine has received one. This one is released, unless its connection looks
before that. -/
theorem shutDown_releases_received :
    let c := after 4 [.send (.checkpoint "1"), .send (.checkpoint "2"), .await (.ofMillis 0)]
    c.lobby.progress[0]? = some .waiting ∧ c.shutDown.lobby.progress[0]? = some .done ∧
      c.closing.fate [.connection 0, .engine] 0 = some .left := by
  intro c
  have hwait : c.lobby.progress[0]? = some .waiting := by decide
  have hqueue : c.lobby.accepted = [⟨1, .checkpoint "2"⟩] ∧ c.lobby.blocked = [] := by decide
  obtain ⟨haccepted, hblocked⟩ := hqueue
  rcases shutDown_releases 4 _ hwait with ⟨-, hdone, hfate⟩ | ⟨id, hqueued, -⟩ | ⟨hlast, -⟩
  · refine ⟨hwait, hdone, ?_⟩
    rw [hfate]
    decide
  · have hmem : ⟨0, .checkpoint id⟩ ∈ c.lobby.accepted := hqueued
    simp [haccepted] at hmem
  · have hmem : 0 ∈ c.lobby.blocked.map Message.sender := hlast
    simp [hblocked] at hmem

/-- A report that the engine has not received when it shuts the channel down is never answered. -/
theorem queued_not_released :
    (after 4 [.send (.checkpoint "1")]).lobby.accepted = [⟨0, .checkpoint "1"⟩] ∧
      (after 4 [.send (.checkpoint "1")]).lobby.progress = [.waiting] ∧
      (after 4 [.send (.checkpoint "1")]).shutDown.lobby.progress = [.waiting] ∧
      (after 4 [.send (.checkpoint "1")]).shutDown.lobby.abandon.progress =
        [.failed .dropped] := by
  decide

end LocalChannel

end FaultDrill
