import FaultDrill.Proofs.Trial.Reports

/-!
# FaultDrill.Proofs.Trial.Playback

A bench on which it is laid down what comes about during each wait. The end of the driver comes
before messages that are still in the queue, and the listener of a channel that was given up is
closed only when time passes. So what a trial does in an unlucky order of things can be played
through. Its channel is a queue (`Playback.queueView`), and it has one listener
(`Playback.listenerView`).
-/

namespace FaultDrill

/-- What comes about during a wait. -/
structure Cue where
  /-- The messages that the channel accepts. -/
  messages : List Message := []
  /-- The end of the driver, which comes after them. -/
  exit : Option DriverExit := none

/-- The state of a bench on which it is laid down what comes about during each wait. -/
structure Playback where
  cues : List Cue := []
  clock : Nat := 0
  /-- The messages that have been received since the channel was opened. -/
  received : List Message := []
  /-- Those that have been accepted and not yet received. -/
  queue : List Message := []
  /-- How many had been accepted when the driver ended, if it has. -/
  atExit : Option Nat := none
  lastWait : Option (Watch × Wake) := none
  listening : Bool := false
  /-- The listener is to be closed, which takes time. -/
  closing : Bool := false

namespace Playback

/-- Lets time pass up to a point. -/
def pass (time : Nat) (s : Playback) : Playback :=
  { s with
    clock := max s.clock time
    listening := s.listening && !(s.closing && s.clock < time) }

/-- What ends a wait, of which the end of the driver comes first. -/
def wake (w : Watch) (exit : Option DriverExit) (s : Playback) : Wake × Playback :=
  match if w.driver && s.atExit.isNone then exit else none with
  | some e => (.exited e, { s with atExit := some (s.received ++ s.queue).length })
  | none =>
    match if w.channel then s.queue else [] with
    | m :: rest => (.received m, { s with received := s.received ++ [m], queue := rest })
    | [] => (.timedOut, s.pass w.deadline)

/-- Waits, while the next cue comes about. -/
def wait (w : Watch) (s : Playback) : Wake × Playback :=
  let cue := s.cues.headD {}
  let (wake, s) := wake w cue.exit
    { s with cues := s.cues.tail, queue := s.queue ++ cue.messages }
  (wake, { s with lastWait := some (w, wake) })

/-- Opens a channel. There is one listener only. -/
def openChannel (address : String) (s : Playback) : Except ChannelError String × Playback :=
  if s.listening then (.error (.bind address "Address already in use (os error 98)"), s)
  else
    (.ok address, { s with
      received := [], queue := [], atExit := none, lastWait := none
      listening := true, closing := false })

/-- The bench. Nothing that is done to processes and files comes to anything. -/
def bench : Bench Playback where
  now := clock
  sleep n s := s.pass (s.clock + n)
  signal _ _ _ s := (some (.ok ()), s)
  isAlive _ s := (true, s)
  block _ _ _ s := (some (.ok ()), s)
  unblock _ _ _ s := (some (.ok ()), s)
  sizeBy _ _ s := (some (.error .notFound), s)
  readBy _ _ s := (some (.error .notFound), s)
  writeBy _ _ _ s := (some (.ok ()), s)
  read _ s := (.error .notFound, s)
  write _ _ s := (.ok (), s)
  add_le_now_sleep _ _ := Nat.le_max_right _ _
  now_le_now_isAlive _ _ := Nat.le_refl _
  cancelled _ := false
  wallClock s := UInt64.ofNat (s.clock / nanosPerMilli)
  freshId s := (TrialId.ofNat s.clock, s)
  files _ := .empty
  setFiles _ s := s
  openChannel := openChannel
  answer _ s := s
  shutDown s := { s with listening := false }
  abandon s := { s with closing := true }
  launch _ _ s := (.ok (), s)
  wait := wait
  terminate s := (some .signaled, s)
  output s := ([], s)
  ask _ _ s := (.expired, s)
  cleanUp _ _ _ s := (.ok (.exited 0, []), s)

/-- Apart from opening a channel and waiting, only time and the listener change. -/
theorem bench_keeps {Q : Playback → Prop} (hpass : ∀ time s, Q s → Q (s.pass time))
    (hshut : ∀ s, Q s → Q { s with listening := false })
    (hclosing : ∀ s, Q s → Q { s with closing := true }) : bench.Keeps Q where
  sleep n s h := hpass (s.clock + n) s h
  signal _ _ _ _ h := h
  isAlive _ _ h := h
  read _ _ h := h
  block _ _ _ _ h := h
  unblock _ _ _ _ h := h
  sizeBy _ _ _ h := h
  readBy _ _ _ h := h
  writeBy _ _ _ _ h := h
  write _ _ _ h := h
  freshId _ h := h
  answer _ _ h := h
  shutDown := hshut
  abandon := hclosing
  launch _ _ _ h := h
  terminate _ h := h
  output _ h := h
  ask _ _ _ h := h
  cleanUp _ _ _ _ h := h

/-! ### The queue -/

/-- The scene of a wait: the cue has come about. -/
def cued (s : Playback) : Playback :=
  { s with cues := s.cues.tail, queue := s.queue ++ (s.cues.headD {}).messages }

/-- A wait ends with the end of the driver, with the first message of the queue, or, when no message
is waited for or none is there, with its deadline. -/
theorem wait_cases (w : Watch) (s : Playback) :
    (s.atExit = none ∧ ∃ e, wait w s = (.exited e, { s.cued with
      atExit := some (s.received ++ s.cued.queue).length, lastWait := some (w, .exited e) })) ∨
    (∃ m rest, s.cued.queue = m :: rest ∧ wait w s = (.received m, { s.cued with
      received := s.received ++ [m], queue := rest, lastWait := some (w, .received m) })) ∨
    ((w.channel = true → s.cued.queue = []) ∧
      wait w s = (.timedOut, { s.cued.pass w.deadline with lastWait := some (w, .timedOut) })) := by
  have hwait : wait w s = ((wake w (s.cues.headD {}).exit s.cued).1,
      { (wake w (s.cues.headD {}).exit s.cued).2 with
        lastWait := some (w, (wake w (s.cues.headD {}).exit s.cued).1) }) := rfl
  rw [hwait]
  generalize (s.cues.headD {}).exit = exit
  unfold wake
  split
  next e hexit =>
    have hnone : s.atExit = none := by
      by_contra hsome
      simp [cued, Option.isNone_iff_eq_none, hsome] at hexit
    exact .inl ⟨hnone, e, rfl⟩
  next =>
    split
    next m rest hqueue =>
      have hchannel : w.channel = true := by
        by_contra hother
        simp [hother] at hqueue
      rw [if_pos hchannel] at hqueue
      exact .inr (.inl ⟨m, rest, hqueue, rfl⟩)
    next hqueue => exact .inr (.inr ⟨fun hchannel => by rwa [if_pos hchannel] at hqueue, rfl⟩)

/-- The channel of the bench is a queue. -/
def queueView : QueueView bench where
  accepted s := s.received ++ s.queue
  received := received
  atExit := atExit
  lastWait := lastWait
  ordered s := List.prefix_append _ _
  grows w s := by
    have hcued : s.received ++ s.queue <+: s.received ++ s.cued.queue := by
      rw [cued, ← List.append_assoc]
      exact List.prefix_append _ _
    show _ <+: (wait w s).2.received ++ (wait w s).2.queue
    rcases wait_cases w s with ⟨-, e, heq⟩ | ⟨m, rest, hqueue, heq⟩ | ⟨-, heq⟩
    · rw [heq]
      exact hcued
    · rw [heq]
      rw [hqueue] at hcued
      simpa using hcued
    · rw [heq]
      exact hcued
  receives w s m s' h := by
    change wait w s = _ at h
    rcases wait_cases w s with ⟨-, e, heq⟩ | ⟨m', rest, hqueue, heq⟩ | ⟨-, heq⟩
    · cases h.symm.trans heq
    · cases h.symm.trans heq
      rfl
    · cases h.symm.trans heq
  rests w s wake s' h hother := by
    change wait w s = _ at h
    rcases wait_cases w s with ⟨-, e, heq⟩ | ⟨m', rest, hqueue, heq⟩ | ⟨-, heq⟩
    · cases h.symm.trans heq
      rfl
    · cases h.symm.trans heq
      exact absurd rfl (hother m')
    · cases h.symm.trans heq
      rfl
  empties w s wake s' h hchannel hwake := by
    change wait w s = _ at h
    rcases wait_cases w s with ⟨-, e, heq⟩ | ⟨m', rest, hqueue, heq⟩ | ⟨hempty, heq⟩
    · cases h.symm.trans heq
      rcases hwake with hwake | hwake <;> cases hwake
    · cases h.symm.trans heq
      rcases hwake with hwake | hwake <;> cases hwake
    · cases h.symm.trans heq
      show s.received = s.received ++ s.cued.queue
      rw [hempty hchannel, List.append_nil]
  exits w s e s' h := by
    change wait w s = _ at h
    rcases wait_cases w s with ⟨-, e, heq⟩ | ⟨m', rest, hqueue, heq⟩ | ⟨-, heq⟩
    · cases h.symm.trans heq
      exact ⟨_, rfl, Nat.le_refl _⟩
    · cases h.symm.trans heq
    · cases h.symm.trans heq
  atExit_wait w s n h := by
    show (wait w s).2.atExit = some n
    rcases wait_cases w s with ⟨hnone, e, heq⟩ | ⟨m', rest, hqueue, heq⟩ | ⟨-, heq⟩
    · cases hnone.symm.trans h
    · rw [heq]
      exact h
    · rw [heq]
      exact h
  lastWait_wait w s := rfl
  keeps s₀ := bench_keeps (fun _ _ h => h) (fun _ h => h) fun _ h => h

end Playback

end FaultDrill
