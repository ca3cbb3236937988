import FaultDrill.Proofs.Injection.Calls
import FaultDrill.Proofs.Injection.Sandbox
import FaultDrill.Proofs.Injection.Simulation
import FaultDrill.Proofs.Outcome
import Mathlib.Control.Monad.Basic

/-!
# FaultDrill.Proofs.Injection.Timing

How often a site is asked, and how long it is waited in between. A retried action is tried up to its
first final answer, and before the `i`-th further try there is a pause of `i` times the base
(`Injector.retried_until_final`). A process that has been killed is looked at again and again until
it is dead, or until a look has come after its time (`Injector.kill_confirmed`).

Both are loops whose state is only that of the site, so the states in which a try or a look is made
are given first: for tries as a function of their number (`Retry.before`), which says all of them,
those included that are never made; for looks as the list of those that are made
(`Injector.awaitDeath_looks`), since how many there are depends on the clock of the site.
-/

namespace FaultDrill

variable {σ α : Type}

/-! ### What happens in time -/

/-- A part of the course of a retried action. -/
inductive Turn where
  | tried (answer : Answer)
  | paused (nanos : Nat)
  deriving DecidableEq

/-- An operation that leaves alone what is written down. -/
def unwritten (f : σ → α × σ) (s : σ × List Turn) : α × σ × List Turn :=
  ((f s.1).1, (f s.1).2, s.2)

/-- The site that behaves as another one and writes down how long it has slept. -/
def Site.paced (site : Site σ) : Site (σ × List Turn) where
  now s := site.now s.1
  sleep n s := (site.sleep n s.1, s.2 ++ [.paused n])
  signal deadline pid g := unwritten (site.signal deadline pid g)
  isAlive pid := unwritten (site.isAlive pid)
  block deadline a b := unwritten (site.block deadline a b)
  unblock deadline a b := unwritten (site.unblock deadline a b)
  sizeBy deadline path := unwritten (site.sizeBy deadline path)
  readBy deadline path := unwritten (site.readBy deadline path)
  writeBy deadline path bytes := unwritten (site.writeBy deadline path bytes)
  read path := unwritten (site.read path)
  write path bytes := unwritten (site.write path bytes)
  add_le_now_sleep n s := site.add_le_now_sleep n s.1
  now_le_now_isAlive pid s := site.now_le_now_isAlive pid s.1

/-- The action that does as another one and writes down its answer. -/
def Action.paced (act : Action σ) : Action (σ × List Turn) := fun deadline s =>
  ((act deadline s.1).1, (act deadline s.1).2, s.2 ++ [.tried (act deadline s.1).1])

namespace Retry

/-! ### Tries by their numbers -/

section Tries

variable (site : Site σ) (timeout pause : Nat) (act : Action σ) (s : σ)

/-- The state before the try with a number, counted from zero, if no try before it is the last. -/
def before : Nat → σ
  | 0 => s
  | i + 1 =>
    site.sleep (pause * (i + 1)) (act (site.now (before i) + timeout) (before i)).2

/-- The try with a number: its answer and the state after it. -/
def tryAt (i : Nat) : Answer × σ :=
  act (site.now (before site timeout pause act s i) + timeout)
    (before site timeout pause act s i)

/-- The answer of the try with a number. -/
def answerAt (i : Nat) : Answer :=
  (tryAt site timeout pause act s i).1

/-- The tries before the one with a number, each with the pause after it. -/
def turnsBefore (i : Nat) : List Turn :=
  (List.range i).flatMap fun n =>
    [.tried (answerAt site timeout pause act s n), .paused (pause * (n + 1))]

end Tries

/-- The try with the number `k` is the last one: no answer before it is final, and its own is, or no
further try is allowed. -/
structure IsLast (most : Nat) (answers : Nat → Answer) (k : Nat) : Prop where
  hopeful : ∀ i < k, isFinal (answers i) = false
  le : k ≤ most
  final : isFinal (answers k) = true ∨ k = most

theorem IsLast.succ {most : Nat} {answers : Nat → Answer} {k : Nat}
    (hfirst : isFinal (answers 0) = false) (h : IsLast most (fun i => answers (i + 1)) k) :
    IsLast (most + 1) answers (k + 1) where
  hopeful := by
    intro i hi
    cases i with
    | zero => exact hfirst
    | succ i => exact h.hopeful i (by omega)
  le := by
    have := h.le
    omega
  final := h.final.imp_right fun heq => by omega

variable {site : Site σ} {timeout pause : Nat} {act : Action σ} {s : σ}

theorem turnsBefore_succ (i : Nat) : turnsBefore site timeout pause act s (i + 1) =
    turnsBefore site timeout pause act s i ++
      [.tried (answerAt site timeout pause act s i), .paused (pause * (i + 1))] := by
  simp [turnsBefore, List.range_succ]

/-- One try and what it decides: a final answer ends the series, any other one leads to the next
try after a pause. -/
theorem retrying_succ (target name : String) (made left : Nat) :
    retrying site timeout pause target name act made (left + 1)
        (before site timeout pause act s made) =
      if isFinal (answerAt site timeout pause act s made) then
        (result target name (answerAt site timeout pause act s made),
          (tryAt site timeout pause act s made).2)
      else retrying site timeout pause target name act (made + 1) left
        (before site timeout pause act s (made + 1)) := by
  have honce : once site timeout target name act (before site timeout pause act s made) =
      (result target name (answerAt site timeout pause act s made),
        (tryAt site timeout pause act s made).2) := once_eq ..
  rw [retrying, honce]
  split
  · next pid s₁ heq =>
    obtain ⟨hgone, rfl⟩ := Prod.mk.inj heq
    rw [if_pos ((isFinal_iff target name).mpr (.inr ⟨pid, hgone⟩)), hgone]
  · next e s₁ hnot heq =>
    obtain ⟨herror, rfl⟩ := Prod.mk.inj heq
    have hopen : ¬ isFinal (answerAt site timeout pause act s made) = true := by
      rw [isFinal_iff target name, herror]
      rintro (hok | ⟨pid, hgone⟩)
      · cases hok
      · cases hgone
        exact hnot pid rfl
    rw [if_neg hopen]
    rfl
  · next s₁ heq =>
    obtain ⟨hok, rfl⟩ := Prod.mk.inj heq
    rw [if_pos ((isFinal_iff target name).mpr (.inl hok)), hok]

theorem retrying_eq (site : Site σ) (timeout pause : Nat) (target name : String) (act : Action σ)
    (made left : Nat) (s : σ) :
    ∃ k, IsLast left (fun i => answerAt site timeout pause act s (made + i)) k ∧
      retrying site timeout pause target name act made left
          (before site timeout pause act s made) =
        (result target name (answerAt site timeout pause act s (made + k)),
          (tryAt site timeout pause act s (made + k)).2) := by
  induction left generalizing made with
  | zero =>
      refine ⟨0, ⟨nofun, Nat.le_refl 0, .inr rfl⟩, ?_⟩
      rw [retrying, once_eq]
      rfl
  | succ left ih =>
      rw [retrying_succ]
      by_cases hfinal : isFinal (answerAt site timeout pause act s made) = true
      · rw [if_pos hfinal]
        exact ⟨0, ⟨nofun, Nat.zero_le _, .inl hfinal⟩, rfl⟩
      · rw [if_neg hfinal]
        obtain ⟨k, hlast, heq⟩ := ih (made + 1)
        have hshift : ∀ i, made + 1 + i = made + (i + 1) := fun i => by omega
        simp only [hshift] at hlast heq
        exact ⟨k + 1, hlast.succ (Bool.not_eq_true _ ▸ hfinal), heq⟩

/-- Writing down what happens changes nothing else. -/
theorem before_paced (log : List Turn) (i : Nat) :
    before site.paced timeout pause act.paced (s, log) i =
      (before site timeout pause act s i, log ++ turnsBefore site timeout pause act s i) := by
  induction i with
  | zero => exact Prod.ext rfl (List.append_nil log).symm
  | succ i ih =>
      rw [before, ih, turnsBefore_succ, ← List.append_assoc]
      exact Prod.ext rfl (List.append_assoc _ [_] [_])

theorem tryAt_paced (log : List Turn) (i : Nat) :
    tryAt site.paced timeout pause act.paced (s, log) i =
      (answerAt site timeout pause act s i, (tryAt site timeout pause act s i).2,
        log ++ turnsBefore site timeout pause act s i ++
          [.tried (answerAt site timeout pause act s i)]) := by
  rw [tryAt, before_paced]
  rfl

/-- The tries of a retried action, the pauses between them, and what they come to. -/
theorem run_paced (site : Site σ) (settings : InjectorSettings) (target name : String)
    (act : Action σ) (s : σ) :
    let timeout := settings.actionTimeout.nanos
    let pause := settings.retryBackoffBase.nanos
    ∃ k, IsLast settings.retryMaxAttempts.toNat (answerAt site timeout pause act s) k ∧
      run site.paced settings target name act.paced (s, []) =
        (result target name (answerAt site timeout pause act s k),
          (tryAt site timeout pause act s k).2,
          turnsBefore site timeout pause act s k ++
            [.tried (answerAt site timeout pause act s k)]) := by
  intro timeout pause
  obtain ⟨k, hlast, heq⟩ := retrying_eq site.paced timeout pause target name act.paced 0
    settings.retryMaxAttempts.toNat (s, [])
  have hanswers : answerAt site.paced timeout pause act.paced (s, []) =
      answerAt site timeout pause act s :=
    funext fun i => congrArg Prod.fst (tryAt_paced [] i)
  simp only [Nat.zero_add, hanswers] at hlast heq
  refine ⟨k, hlast, heq.trans ?_⟩
  rw [tryAt_paced, List.nil_append]

end Retry

/-! ### Signals -/

namespace Note

/-- Whether an operation is one on processes or on the network, and not on files. -/
def isCall : Note → Bool
  | .signal .. | .alive .. | .block .. | .unblock .. => true
  | .size .. | .read .. | .write .. => false

/-- Whether a signal has been sent. -/
def isSignal : Note → Bool
  | .signal .. => true
  | _ => false

/-- Whether a process has been looked at. -/
def isLook : Note → Bool
  | .alive .. => true
  | _ => false

/-- Whether a kill signal has been delivered. -/
def isKill : Note → Bool
  | .signal _ .kill (some (.ok ())) => true
  | _ => false

theorem isKill_signal_iff {pid : UInt32} {answer : Answer} :
    (Note.signal pid .kill answer).isKill = true ↔ answer = some (.ok ()) := by
  cases answer with
  | none => simp [isKill]
  | some answer => cases answer <;> simp [isKill]

theorem isKill_of_quiet {note : Note} (h : note.isSignal = false) : note.isKill = false := by
  cases note with
  | signal => cases h
  | _ => rfl

theorem quiet_of_file {note : Note} (h : note.isCall = false) :
    note.isSignal = false ∧ note.isLook = false := by
  cases note with
  | signal | alive | block | unblock => cases h
  | size | read | write => exact ⟨rfl, rfl⟩

end Note

namespace Injector

/-! ### Looks at a dying process -/

/-- The notes of looks at a process in the given states. -/
def looks (site : Site σ) (pid : UInt32) (states : List σ) : List Note :=
  states.map fun t => .alive pid (site.isAlive pid t).1

/-- How a process is looked at until it is dead or a deadline has passed. It is looked at in each of
the states `early` and then in the state `last`, and nothing else is asked of the site. It lives at
each of the looks before the last one, which come before the deadline and at least `pause` after one
another. -/
structure Watches (site : Site σ) (pause deadline : Nat) (pid : UInt32) (s : σ) (early : List σ)
    (last : σ) (died : Bool) (s' : σ) : Prop where
  trace : site.Trace s (looks site pid (early ++ [last])) s'
  alive : ∀ t ∈ early, (site.isAlive pid t).1 = true
  paced : ∀ i < early.length, site.now s + i * pause < deadline
  state : s' = (site.isAlive pid last).2
  died_iff : died = true ↔ (site.isAlive pid last).1 = false
  late : died = false → deadline ≤ site.now s'
  /-- Between the looks there is nothing but sleep. -/
  keeps : ∀ Q : σ → Prop, (∀ n t, Q t → Q (site.sleep n t)) →
    (∀ t, Q t → Q (site.isAlive pid t).2) → Q s → Q last

/-- One look that finds the process dead, or comes late. -/
theorem Watches.last {site : Site σ} {pause deadline : Nat} {pid : UInt32} {s : σ} {died : Bool}
    (hdied : died = true ↔ (site.isAlive pid s).1 = false)
    (hlate : died = false → deadline ≤ site.now (site.isAlive pid s).2) :
    Watches site pause deadline pid s [] s died (site.isAlive pid s).2 where
  trace := (Site.Step.isAlive pid s).trace
  alive := List.forall_mem_nil _
  paced i hi := absurd hi (Nat.not_lt_zero i)
  state := rfl
  died_iff := hdied
  late := hlate
  keeps _ _ _ hs := hs

/-- A look that finds the process alive and comes in time, and the looks after a sleep. -/
theorem Watches.cons {site : Site σ} {pause deadline : Nat} {pid : UInt32} {s last s' : σ}
    {early : List σ} {died : Bool} (halive : (site.isAlive pid s).1 = true)
    (hearly : site.now (site.isAlive pid s).2 < deadline)
    (h : Watches site pause deadline pid (site.sleep pause (site.isAlive pid s).2) early last died
      s') : Watches site pause deadline pid s (s :: early) last died s' where
  trace := .cons (.isAlive pid s) (.cons (.sleep _ _) h.trace)
  alive := List.forall_mem_cons.mpr ⟨halive, h.alive⟩
  paced i hi := by
    have hlook := site.now_le_now_isAlive pid s
    have hsleep := site.add_le_now_sleep pause (site.isAlive pid s).2
    cases i with
    | zero => omega
    | succ i =>
        have hnext := h.paced i (Nat.lt_of_succ_lt_succ hi)
        rw [Nat.succ_mul]
        omega
  state := h.state
  died_iff := h.died_iff
  late := h.late
  keeps Q hsleeps hlooks hs := h.keeps Q hsleeps hlooks (hsleeps _ _ (hlooks s hs))

/-- The wait for a death is a series of looks, and a log of it has nothing else. -/
theorem awaitDeath_looks (site : Site σ) (poll deadline : Nat) (pid : UInt32) (s : σ) :
    ∃ early last, Watches site (max 1 poll) deadline pid s early last
        (awaitDeath site poll deadline pid s).1 (awaitDeath site poll deadline pid s).2 ∧
      ∀ log, (awaitDeath site.logged poll deadline pid (s, log)).2.2 =
        log ++ looks site pid (early ++ [last]) := by
  induction s using awaitDeath.induct site poll deadline pid with
  | case1 s seen halive hlate =>
      refine ⟨[], s, ?_, fun log => ?_⟩
      · unfold awaitDeath
        rw [if_pos halive, dif_pos hlate]
        have hlives : (site.isAlive pid s).1 = true := halive
        exact .last (by simp [hlives]) fun _ => hlate
      · have halive' : (site.logged.isAlive pid (s, log)).1 = true := halive
        have hlate' : deadline ≤ site.logged.now (site.logged.isAlive pid (s, log)).2 := hlate
        unfold awaitDeath
        rw [if_pos halive', dif_pos hlate']
        rfl
  | case2 s seen halive hearly ih =>
      obtain ⟨early, last, h, hlog⟩ := ih
      refine ⟨s :: early, last, ?_, fun log => ?_⟩
      · unfold awaitDeath
        rw [if_pos halive, dif_neg hearly]
        exact .cons halive (Nat.lt_of_not_le hearly) h
      · have halive' : (site.logged.isAlive pid (s, log)).1 = true := halive
        have hearly' : ¬ deadline ≤ site.logged.now (site.logged.isAlive pid (s, log)).2 :=
          hearly
        unfold awaitDeath
        rw [if_pos halive', dif_neg hearly']
        refine (hlog (log ++ [.alive pid (site.isAlive pid s).1])).trans ?_
        rw [List.append_assoc]
        rfl
  | case3 s seen hdead =>
      refine ⟨[], s, ?_, fun log => ?_⟩
      · unfold awaitDeath
        rw [if_neg hdead]
        exact .last (by simpa using hdead) fun hlives => Bool.noConfusion hlives
      · have hdead' : ¬ (site.logged.isAlive pid (s, log)).1 = true := hdead
        unfold awaitDeath
        rw [if_neg hdead']
        rfl

theorem watchDeath_looks (site : Site σ) (j : Injector) (pid : UInt32) (s : σ) :
    ∃ early last, Watches site (max 1 j.settings.killPollInterval.nanos)
        (site.now s + j.settings.killGrace.nanos) pid s early last
        (watchDeath site j pid s).1 (watchDeath site j pid s).2 ∧
      ∀ log, (watchDeath site.logged j pid (s, log)).2.2 =
        log ++ looks site pid (early ++ [last]) := by
  unfold watchDeath
  exact awaitDeath_looks site _ _ pid s

/-- Looks that come at least `pause` after one another are as many as fit in the time, and one more
for what is left of it. -/
theorem Watches.length_le {site : Site σ} {pause time : Nat} {pid : UInt32} {s s' last : σ}
    {early : List σ} {died : Bool} (hpause : 0 < pause)
    (h : Watches site pause (site.now s + time) pid s early last died s') :
    early.length ≤ (time + pause - 1) / pause := by
  rw [Nat.le_div_iff_mul_le hpause]
  cases hlength : early.length with
  | zero => omega
  | succ n =>
      have hlast := h.paced n (by omega)
      rw [Nat.succ_mul]
      omega

/-! ### Kills -/

theorem resolvePid_trace (site : Site σ) (j : Injector) (target : String) (s : σ) :
    ∃ notes, site.Trace s notes (resolvePid site j target s).2 ∧
      ∀ note ∈ notes, note.isCall = false := by
  unfold resolvePid
  split
  · exact ⟨[], .nil s, List.forall_mem_nil _⟩
  · exact ⟨[], .nil s, List.forall_mem_nil _⟩
  · next path _ =>
    refine ⟨_, (Site.Step.read path s).trace, ?_⟩
    intro note hnote
    rw [List.mem_singleton.mp hnote]
    rfl

theorem watchDeath_trace (site : Site σ) (j : Injector) (pid : UInt32) (s : σ) :
    ∃ notes, site.Trace s notes (watchDeath site j pid s).2 ∧
      ∀ note ∈ notes, note.isSignal = false := by
  obtain ⟨early, last, h, -⟩ := watchDeath_looks site j pid s
  refine ⟨_, h.trace, ?_⟩
  intro note hnote
  obtain ⟨t, -, rfl⟩ := List.mem_map.mp hnote
  rfl

/-- A signal is sent at least once. -/
theorem signal_trace (site : Site σ) (j : Injector) (target name : String) (pid : UInt32)
    (g : Signal) (s : σ) : ∃ answers, answers ≠ [] ∧
      site.Trace s (answers.map (.signal pid g)) (signal site j target name pid g s).2 := by
  obtain ⟨earlier, last, -, htrace, -⟩ :=
    Retry.run_trace (.signal pid g) (fun deadline s => .signal deadline pid g s) j.settings target
      name s
  exact ⟨earlier ++ [last], by simp, htrace⟩

/-- No signal is sent after a kill signal that has been delivered. -/
def SentOnce (notes : List Note) : Prop :=
  notes.Pairwise fun sent later => sent.isKill = true → later.isSignal = false

theorem sentOnce_of_quiet {notes : List Note} (h : ∀ note ∈ notes, note.isSignal = false) :
    SentOnce notes :=
  List.pairwise_of_forall_mem_list fun _ _ later hlater _ => h later hlater

theorem SentOnce.append {notes more : List Note} (h : SentOnce notes) (hmore : SentOnce more)
    (hcross : (∀ note ∈ notes, note.isKill = false) ∨ ∀ note ∈ more, note.isSignal = false) :
    SentOnce (notes ++ more) := by
  refine List.pairwise_append.mpr ⟨h, hmore, fun sent hsent later hlater hkill => ?_⟩
  rcases hcross with hnone | hquiet
  · rw [hnone sent hsent] at hkill
    cases hkill
  · exact hquiet later hlater

theorem signal_sentOnce (site : Site σ) (j : Injector) (target : String) (pid : UInt32) (s : σ) :
    ∃ notes, site.Trace s notes (signal site j target "kill" pid .kill s).2 ∧ SentOnce notes := by
  obtain ⟨earlier, last, htries, htrace, -⟩ :=
    Retry.run_trace (.signal pid .kill) (fun deadline s => .signal deadline pid .kill s) j.settings
      target "kill" s
  refine ⟨_, htrace, ?_⟩
  have hopen : ∀ note ∈ earlier.map (Note.signal pid .kill), note.isKill = false := by
    intro note hnote
    obtain ⟨answer, hanswer, rfl⟩ := List.mem_map.mp hnote
    have hfinal := htries.failed answer hanswer
    rw [← Bool.not_eq_true, Note.isKill_signal_iff]
    rintro rfl
    cases hfinal
  have hearlier : SentOnce (earlier.map (Note.signal pid .kill)) :=
    List.pairwise_of_forall_mem_list fun sent hsent _ _ hkill => by
      rw [hopen sent hsent] at hkill
      cases hkill
  rw [List.map_append]
  exact hearlier.append (List.pairwise_singleton _ _) (.inl hopen)

/-- What comes of a kill whose signal has been delivered is what the wait for the death says. -/
theorem killOutcome_of_sent (survivor : InjectionError) (death : σ → Bool × σ)
    {sent : Except InjectionError Unit × σ} (h : sent.1 = .ok ()) :
    (killOutcome survivor death sent).1 =
        (if (death sent.2).1 then .ok () else .error survivor) ∧
      (killOutcome survivor death sent).2 = (death sent.2).2 := by
  obtain ⟨_, s⟩ := sent
  cases h
  unfold killOutcome
  dsimp only
  rcases death s with ⟨died, s'⟩
  cases died with
  | false => exact ⟨rfl, rfl⟩
  | true => exact ⟨rfl, rfl⟩

/-- A signal that has not been delivered is waited for no further. -/
theorem killOutcome_of_unsent (survivor : InjectionError) (death : σ → Bool × σ)
    {sent : Except InjectionError Unit × σ} (h : sent.1 ≠ .ok ()) :
    (killOutcome survivor death sent).2 = sent.2 := by
  unfold killOutcome
  split
  · exact absurd rfl h
  · rfl
  · rfl

theorem killProcess_sentOnce (site : Site σ) (j : Injector) (target : String) (pid : UInt32)
    (s : σ) : ∃ notes, site.Trace s notes (killProcess site j target pid s).2 ∧ SentOnce notes := by
  obtain ⟨sent, hsent, honce⟩ := signal_sentOnce site j target pid s
  rw [killProcess]
  by_cases hok : (signal site j target "kill" pid .kill s).1 = .ok ()
  · obtain ⟨looks, hlooks, hquiet⟩ :=
      watchDeath_trace site j pid (signal site j target "kill" pid .kill s).2
    rw [(killOutcome_of_sent _ _ hok).2]
    exact ⟨_, hsent.append hlooks, honce.append (sentOnce_of_quiet hquiet) (.inr hquiet)⟩
  · rw [killOutcome_of_unsent _ _ hok]
    exact ⟨sent, hsent, honce⟩

theorem kill_sentOnce (site : Site σ) (j : Injector) (target : String) (s : σ) :
    ∃ notes, site.Trace s notes (kill site j target s).2.2 ∧ SentOnce notes := by
  obtain ⟨reads, hreads, hfiles⟩ := resolvePid_trace site j target s
  have hquiet : ∀ note ∈ reads, note.isSignal = false := fun note hnote =>
    (Note.quiet_of_file (hfiles note hnote)).1
  generalize hkill : kill site j target s = yielded
  cases kill_cases hkill with
  | unresolved hresolve =>
      rw [hresolve] at hreads
      exact ⟨reads, hreads, sentOnce_of_quiet hquiet⟩
  | @failed _ s₁ _ pid hresolve hkilled | @killed s₁ _ pid hresolve hkilled =>
      obtain ⟨notes, hnotes, honce⟩ := killProcess_sentOnce site j target pid s₁
      rw [hresolve] at hreads
      rw [hkilled] at hnotes
      refine ⟨_, hreads.append hnotes, SentOnce.append (sentOnce_of_quiet hquiet) honce ?_⟩
      exact .inl fun note hnote => Note.isKill_of_quiet (hquiet note hnote)

end Injector

/-! ### Limits -/

namespace InjectorSettings

theorem require_eq_ok {holds : Bool} {field reason : String} :
    require holds field reason = .ok () ↔ holds = true := by
  unfold require
  cases holds with
  | false => simp
  | true => simp

theorem inRange_eq_ok {field : String} {low high n : Nat} :
    inRange field low high n = .ok () ↔ low ≤ n ∧ n ≤ high := by
  rw [inRange, require_eq_ok, Bool.and_eq_true, decide_eq_true_iff, decide_eq_true_iff]

/-- What settings keep to that are not refused. -/
structure WithinLimits (s : InjectorSettings) : Prop where
  actionTimeout : 1 ≤ s.actionTimeoutSecs.toNat ∧ s.actionTimeoutSecs.toNat ≤ maxActionTimeoutSecs
  retries : s.retryMaxAttempts.toNat ≤ maxRetryAttempts
  backoff : s.retryBackoffBaseMs.toNat ≤ maxRetryBackoffBaseMs
  killGrace : 1 ≤ s.killGraceMs.toNat ∧ s.killGraceMs.toNat ≤ maxKillGraceMs
  killPollInterval : 1 ≤ s.killPollIntervalMs.toNat

theorem withinLimits_of_validate {s : InjectorSettings} (h : s.validate = .ok ()) :
    s.WithinLimits := by
  obtain ⟨_, htimeout, h⟩ := Outcome.bind_eq_ok.mp h
  obtain ⟨_, hretries, h⟩ := Outcome.bind_eq_ok.mp h
  obtain ⟨_, hbackoff, h⟩ := Outcome.bind_eq_ok.mp h
  obtain ⟨_, hgrace, h⟩ := Outcome.bind_eq_ok.mp h
  obtain ⟨_, hpoll, -⟩ := Outcome.bind_eq_ok.mp h
  refine ⟨inRange_eq_ok.mp htimeout, (inRange_eq_ok.mp hretries).2, (inRange_eq_ok.mp hbackoff).2,
    inRange_eq_ok.mp hgrace, ?_⟩
  have hne := require_eq_ok.mp hpoll
  rw [bne_iff_ne, ne_eq, ← UInt64.toNat_inj] at hne
  exact Nat.pos_of_ne_zero hne

/-- The pauses of settings within the limits are durations. -/
theorem WithinLimits.pause_lt {s : InjectorSettings} (h : s.WithinLimits) {i : Nat}
    (hi : i ≤ s.retryMaxAttempts.toNat) :
    s.retryBackoffBase.nanos * i < UInt64.size * nanosPerSecond := by
  have hbase : s.retryBackoffBase.nanos ≤ maxRetryBackoffBaseMs * nanosPerMilli :=
    Nat.mul_le_mul_right nanosPerMilli h.backoff
  calc s.retryBackoffBase.nanos * i
      ≤ maxRetryBackoffBaseMs * nanosPerMilli * maxRetryAttempts :=
        Nat.mul_le_mul hbase (Nat.le_trans hi h.retries)
    _ < UInt64.size * nanosPerSecond := by decide

end InjectorSettings

/-! ### Main statements -/

namespace Injector

open Retry

/-- **Retries are bounded, and each pause is as long as it should be.** Whatever an action answers
at each of its tries, it is tried up to the first answer that is final, a success or that the
process is gone, or up to the last try that is allowed; before the `i`-th further try there is a
pause of `i` times the base, which is a duration if the settings are within the limits; and the last
answer is the result, where running out of time is a failure. So a kill signal that has been
delivered is the last signal that is sent for an event. -/
theorem retried_until_final (site : Site σ) (j : Injector) (target name : String) (act : Action σ)
    (s : σ) :
    let timeout := j.settings.actionTimeout.nanos
    let base := j.settings.retryBackoffBase.nanos
    let answers := answerAt site timeout base act s
    (∃ k, IsLast j.settings.retryMaxAttempts.toNat answers k ∧
      run site.paced j.settings target name act.paced (s, []) =
        (result target name (answers k), (tryAt site timeout base act s k).2,
          ((List.range k).flatMap fun i => [.tried (answers i), .paused (base * (i + 1))]) ++
            [.tried (answers k)])) ∧
    (j.settings.validate = .ok () → ∀ i ≤ j.settings.retryMaxAttempts.toNat,
      base * i < UInt64.size * nanosPerSecond) ∧
    ∀ checkpoint, SentOnce (asked site j ⟨checkpoint, target, .kill⟩ s) := by
  intro timeout base answers
  refine ⟨run_paced site j.settings target name act s, ?_, ?_⟩
  · intro hvalid i hi
    exact (InjectorSettings.withinLimits_of_validate hvalid).pause_lt hi
  · intro checkpoint
    obtain ⟨notes, htrace, honce⟩ := kill_sentOnce site.logged j target (s, [])
    rw [asked_eq htrace]
    exact honce

/-- A failure, a try that runs out of time, and a success, with the pauses before the last two. -/
example : (run Sandbox.site.paced { (default : InjectorSettings) with retryBackoffBaseMs := 100 }
    "leader" "pause" (Action.paced fun deadline => Sandbox.site.signal deadline 10 .stop)
    ({ replies := [.failed, .late] }, [])).2.2 =
    [.tried (some (.error (.actionFailed "sandbox" "operation" "as scripted"))),
      .paused 100000000, .tried none, .paused 200000000, .tried (some (.ok ()))] := by
  decide +kernel

/-! ### The death of a process -/

end Injector

/-- When a process dies for good, if it does. Looking at it takes no time and finds out whether it
is dead by then, and its death is put off neither by looks nor by sleep. -/
structure Site.Mortal (site : Site σ) (pid : UInt32) where
  death : σ → Option Nat
  now_isAlive : ∀ s, site.now (site.isAlive pid s).2 = site.now s
  isDead_iff : ∀ s, (site.isAlive pid s).1 = false ↔ ∃ time ∈ death s, time ≤ site.now s
  sleep : ∀ n s, death (site.sleep n s) = death s
  isAlive : ∀ s, death (site.isAlive pid s).2 = death s

namespace Injector

/-- A kill whose signal has been delivered comes to what the wait for the death says. -/
theorem kill_of_sent {site : Site σ} {j : Injector} {target : String} {pid : UInt32}
    {s s₀ s₁ : σ} (hpid : resolvePid site j target s = (.ok pid, s₀))
    (hsent : signal site j target "kill" pid .kill s₀ = (.ok (), s₁)) :
    kill site j target s = if (watchDeath site j pid s₁).1
      then (.ok {}, { j with ledger.paused := j.ledger.paused.erase target },
        (watchDeath site j pid s₁).2)
      else (.error (survivor j target pid), j, (watchDeath site j pid s₁).2) := by
  obtain ⟨hresult, hstate⟩ := killOutcome_of_sent (survivor j target pid) (watchDeath site j pid)
    (congrArg Prod.fst hsent)
  rw [hsent] at hresult hstate
  rw [kill, hpid]
  dsimp only
  rw [killProcess, hsent]
  generalize watchDeath site j pid s₁ = death at hresult hstate ⊢
  generalize killOutcome _ _ _ = killed at hresult hstate ⊢
  obtain ⟨died, s'⟩ := death
  obtain ⟨result, s₂⟩ := killed
  cases hstate
  cases hresult
  cases died with
  | false => rfl
  | true => rfl

theorem kill_state {site : Site σ} {j : Injector} {target : String} {pid : UInt32} {s s₀ s₁ : σ}
    (hpid : resolvePid site j target s = (.ok pid, s₀))
    (hsent : signal site j target "kill" pid .kill s₀ = (.ok (), s₁)) :
    (kill site j target s).2.2 = (watchDeath site j pid s₁).2 := by
  rw [kill_of_sent hpid hsent]
  generalize watchDeath site j pid s₁ = death
  obtain ⟨died, s'⟩ := death
  cases died with
  | false => rfl
  | true => rfl

/-- It asks for what the wait for the death asks for, and looks at no process before. -/
theorem kill_asked {site : Site σ} {j : Injector} {target : String} {pid : UInt32} {s s₀ s₁ : σ}
    {notes : List Note} (checkpoint : Checkpoint)
    (hpid : resolvePid site j target s = (.ok pid, s₀))
    (hsent : signal site j target "kill" pid .kill s₀ = (.ok (), s₁))
    (hwatch : ∀ log, (watchDeath site.logged j pid (s₁, log)).2.2 = log ++ notes) :
    ∃ sent, (∀ note ∈ sent, note.isLook = false) ∧
      asked site j ⟨checkpoint, target, .kill⟩ s = sent ++ notes := by
  obtain ⟨reads, hreads, hfiles⟩ := resolvePid_trace site.logged j target (s, [])
  have hpid' := hpid.symm.trans (resolvePid_mimics site.mimics_logged j target (s, []))
  rcases hresolved : resolvePid site.logged j target (s, []) with ⟨found, t₀⟩
  rw [hresolved] at hreads hpid'
  obtain ⟨rfl, rfl⟩ := Prod.mk.inj hpid'
  obtain ⟨answers, -, hsignals⟩ := signal_trace site.logged j target "kill" pid .kill t₀
  have hsent' := hsent.symm.trans (signal_mimics site.mimics_logged j target "kill" pid .kill t₀)
  rcases hsignaled : signal site.logged j target "kill" pid .kill t₀ with ⟨result, t₁⟩
  rw [hsignaled] at hsignals hsent'
  obtain ⟨rfl, rfl⟩ := Prod.mk.inj hsent'
  refine ⟨reads ++ answers.map (.signal pid .kill), ?_, ?_⟩
  · intro note hnote
    rcases List.mem_append.mp hnote with hread | hsignal
    · exact (Note.quiet_of_file (hfiles note hread)).2
    · obtain ⟨answer, -, rfl⟩ := List.mem_map.mp hsignal
      rfl
  · calc asked site j ⟨checkpoint, target, .kill⟩ s
        = (kill site.logged j target (s, [])).2.2.2 := rfl
      _ = (watchDeath site.logged j pid t₁).2.2 := by rw [kill_state hresolved hsignaled]
      _ = t₁.2 ++ notes := hwatch t₁.2
      _ = reads ++ answers.map (.signal pid .kill) ++ notes := by
        rw [(hreads.append hsignals).log_eq, List.nil_append]

/-- A kill whose signal has been delivered is decided by looks at the process, and it asks for
nothing else after its signals. -/
theorem kill_watches {site : Site σ} {j : Injector} {target : String} {pid : UInt32} {s s₀ s₁ : σ}
    (checkpoint : Checkpoint) (hpause : 0 < j.settings.killPollInterval.nanos)
    (hpid : resolvePid site j target s = (.ok pid, s₀))
    (hsent : signal site j target "kill" pid .kill s₀ = (.ok (), s₁)) :
    ∃ early last died s', Watches site j.settings.killPollInterval.nanos
        (site.now s₁ + j.settings.killGrace.nanos) pid s₁ early last died s' ∧
      (∃ sent, (∀ note ∈ sent, note.isLook = false) ∧
        asked site j ⟨checkpoint, target, .kill⟩ s =
          sent ++ looks site pid (early ++ [last])) ∧
      kill site j target s = if died
        then (.ok {}, { j with ledger.paused := j.ledger.paused.erase target }, s')
        else (.error (survivor j target pid), j, s') := by
  obtain ⟨early, last, h, hlog⟩ := watchDeath_looks site j pid s₁
  rw [Nat.max_eq_right hpause] at h
  exact ⟨early, last, _, _, h, kill_asked checkpoint hpid hsent hlog, kill_of_sent hpid hsent⟩

/-- The process has died just if it is found dead at one of the looks. -/
theorem Watches.died_iff_exists {site : Site σ} {pause deadline : Nat} {pid : UInt32}
    {s s' last : σ} {early : List σ} {died : Bool}
    (h : Watches site pause deadline pid s early last died s') :
    died = true ↔ ∃ t ∈ early ++ [last], (site.isAlive pid t).1 = false := by
  rw [h.died_iff]
  constructor
  · exact fun hdead => ⟨last, by simp, hdead⟩
  · rintro ⟨t, ht, hdead⟩
    rcases List.mem_append.mp ht with ht | ht
    · cases (h.alive t ht).symm.trans hdead
    · rwa [List.mem_singleton.mp ht] at hdead

/-- A process that has not died is found alive at a look that does not come before the deadline. -/
theorem Watches.alive_late {site : Site σ} {pid : UInt32} (mortal : site.Mortal pid)
    {pause deadline : Nat} {s s' last : σ} {early : List σ}
    (h : Watches site pause deadline pid s early last false s') :
    (site.isAlive pid last).1 = true ∧ deadline ≤ site.now last := by
  have hlate := h.late rfl
  rw [h.state, mortal.now_isAlive] at hlate
  refine ⟨?_, hlate⟩
  rw [← Bool.not_eq_false]
  exact fun hdead => Bool.false_ne_true (h.died_iff.mpr hdead)

/-- A process that is dead by the deadline is found dead. -/
theorem Watches.died_of_mortal {site : Site σ} {pid : UInt32} (mortal : site.Mortal pid)
    {pause deadline time : Nat} {s s' last : σ} {early : List σ} {died : Bool}
    (h : Watches site pause deadline pid s early last died s') (hdeath : time ∈ mortal.death s)
    (htime : time ≤ deadline) : died = true := by
  cases died with
  | true => rfl
  | false =>
      obtain ⟨-, hlate⟩ := h.alive_late mortal
      have hlast : mortal.death last = mortal.death s :=
        h.keeps (fun t => mortal.death t = mortal.death s) (fun n t => (mortal.sleep n t).trans)
          (fun t => (mortal.isAlive t).trans) rfl
      rw [h.died_iff, mortal.isDead_iff, hlast]
      exact ⟨time, hdeath, Nat.le_trans htime hlate⟩

/-- **A kill is confirmed or refuted in bounded time.** With settings within the limits, whenever
the process dies or if it does not die at all, a kill whose signal has been delivered looks at the
process at most as often as the interval fits into the grace, a rest of the grace counted as a whole
interval, and once more; it asks for nothing else, and the last look ends it. It succeeds just if
the process is dead at one of the looks, and so if it is dead by the end of its grace; else the
process has been found alive at that time or later. The paused target is let go just if the kill
succeeds. -/
theorem kill_confirmed {site : Site σ} {j : Injector} {target : String} {pid : UInt32}
    {s s₀ s₁ : σ} (mortal : site.Mortal pid) (hvalid : j.settings.validate = .ok ())
    (hpid : resolvePid site j target s = (.ok pid, s₀))
    (hsent : signal site j target "kill" pid .kill s₀ = (.ok (), s₁)) (checkpoint : Checkpoint) :
    let grace := j.settings.killGrace.nanos
    let interval := j.settings.killPollInterval.nanos
    let run := inject site j ⟨checkpoint, target, .kill⟩ s
    ∃ early last,
      (∃ sent, (∀ note ∈ sent, note.isLook = false) ∧
        asked site j ⟨checkpoint, target, .kill⟩ s =
          sent ++ looks site pid (early ++ [last])) ∧
      run.2.2 = (site.isAlive pid last).2 ∧
      (early ++ [last]).length ≤ (grace + interval - 1) / interval + 1 ∧
      (run.1 = .ok {} ↔ ∃ t ∈ early ++ [last], (site.isAlive pid t).1 = false) ∧
      (run.1 ≠ .ok {} → run.1 = .error (survivor j target pid) ∧
        (site.isAlive pid last).1 = true ∧ site.now s₁ + grace ≤ site.now last) ∧
      (∀ time ∈ mortal.death s₁, time ≤ site.now s₁ + grace → run.1 = .ok {}) ∧
      (run.1 = .ok {} →
        run.2.1 = { j with ledger.paused := j.ledger.paused.erase target }) ∧
      (run.1 ≠ .ok {} → run.2.1 = j) := by
  intro grace interval run
  have hinterval : 0 < interval :=
    Nat.mul_pos (InjectorSettings.withinLimits_of_validate hvalid).killPollInterval (by decide)
  obtain ⟨early, last, died, s', h, hasked, hrun⟩ :=
    kill_watches checkpoint hinterval hpid hsent
  have hrun : run = _ := hrun
  have hdied := h.died_iff_exists
  have hcount : (early ++ [last]).length ≤ (grace + interval - 1) / interval + 1 := by
    rw [List.length_append, List.length_singleton]
    exact Nat.succ_le_succ (h.length_le hinterval)
  have hmortal : ∀ time ∈ mortal.death s₁, time ≤ site.now s₁ + grace → died = true :=
    fun _ => h.died_of_mortal mortal
  refine ⟨early, last, ?_⟩
  cases died with
  | true =>
      rw [if_pos rfl] at hrun
      rw [hrun]
      refine ⟨hasked, h.state, hcount, ⟨fun _ => hdied.mp rfl, fun _ => rfl⟩, ?_,
        fun _ _ _ => rfl, fun _ => rfl, ?_⟩
      · exact fun hne => absurd rfl hne
      · exact fun hne => absurd rfl hne
  | false =>
      rw [if_neg Bool.false_ne_true] at hrun
      rw [hrun]
      refine ⟨hasked, h.state, hcount, ⟨nofun, ?_⟩, fun _ => ⟨rfl, h.alive_late mortal⟩, ?_, nofun,
        fun _ => rfl⟩
      · exact fun hdead => absurd (hdied.mpr hdead) Bool.false_ne_true
      · exact fun time hdeath htime => absurd (hmortal time hdeath htime) Bool.false_ne_true

/-- A sandbox in which every process lives up to a time. -/
def mortalSite (time : Nat) : Site Sandbox :=
  { Sandbox.site with
    isAlive := fun _ s => (decide (s.clock < time), s)
    now_le_now_isAlive := fun _ _ => Nat.le_refl _ }

/-- The processes of such a sandbox die at that time. -/
def mortal (time : Nat) (pid : UInt32) : (mortalSite time).Mortal pid where
  death _ := some time
  now_isAlive _ := rfl
  isDead_iff s := by simp [mortalSite, Sandbox.site]
  sleep _ _ := rfl
  isAlive _ := rfl

/-- An injector that gives a process 130 milliseconds to die, and looks at it every 50. -/
def gracedInjector : Injector :=
  .new { (default : InjectorSettings) with
    killGraceMs := 130
    targets := [{ name := "leader", pid := some 10 }] }

/-- The process dies after 120 milliseconds, between the third look and the end of its grace, and is
found dead after that. -/
theorem kill_confirmed_lastLook : gracedInjector.settings.validate = .ok () ∧
    (inject (mortalSite 120000000) gracedInjector ⟨"1", "leader", .kill⟩ {}).1 = .ok {} ∧
    ∃ looks : List Sandbox, looks.length ≤ 4 ∧ ∃ t ∈ looks, ¬ t.clock < 120000000 := by
  have hvalid : gracedInjector.settings.validate = .ok () := by decide +kernel
  have hpid : resolvePid (mortalSite 120000000) gracedInjector "leader" {} = (.ok 10, {}) := by
    decide +kernel
  have hsent : signal (mortalSite 120000000) gracedInjector "leader" "kill" 10 .kill {} =
      (.ok (), {}) := by decide +kernel
  obtain ⟨early, last, -, -, hcount, hdead, -, hgrace, -⟩ :=
    kill_confirmed (mortal 120000000 10) hvalid hpid hsent "1"
  have hok := hgrace 120000000 rfl (by decide)
  obtain ⟨t, ht, hgone⟩ := hdead.mp hok
  exact ⟨hvalid, hok, early ++ [last], hcount, t, ht, of_decide_eq_false hgone⟩

end Injector

end FaultDrill
