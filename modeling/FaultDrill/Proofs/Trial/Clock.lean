import FaultDrill.Proofs.Injection.Calls
import FaultDrill.Proofs.Trial.Course

/-!
# FaultDrill.Proofs.Trial.Clock

When a trial has no result. The only cause is that a point in time or a length of time lies beyond
what a clock can show: the time limit of the trial when its driver has been started, the sum of the
delays that are waited for at one checkpoint, or the end of the settling when the driver has ended
(`ClockEnds`). Each function that adds times is shown to stop for no other cause, from the
injections for one report up to the whole attempt (`Run.clockEnds_of_attempt`).
-/

namespace FaultDrill

variable {σ : Type}

theorem Duration.nanos_of_add? {a b c : Duration} (h : a.add? b = some c) :
    c.nanos = a.nanos + b.nanos := by
  unfold Duration.add? Duration.ofNanos? at h
  split at h
  next => cases h; rfl
  next => cases h

/-- For how many nanoseconds a fault holds a reporter. -/
def Fault.holding : Fault → Nat
  | .delay duration => duration.nanos
  | _ => 0

theorem Injector.nanos_releaseDelay {site : Site σ} {j j' : Injector} {e : Event} {s s' : σ}
    {record : InjectionRecord} (h : inject site j e s = (.ok record, j', s')) :
    (record.releaseDelay.getD .zero).nanos = e.fault.holding := by
  obtain ⟨checkpoint, target, fault⟩ := e
  cases fault with
  | delay duration =>
      simp only [inject] at h
      split at h <;> cases h
      rfl
  | kill =>
      cases kill_cases h with
      | killed => rfl
  | pause =>
      cases pause_cases h with
      | held | paused => rfl
  | resume =>
      cases resume_cases h with
      | running | resumed => rfl
  | partition peers =>
      cases partition_cases h with
      | cut => rfl
  | corrupt c =>
      generalize hyield : (Except.ok record, j', s') = yielded at h
      cases damage_cases h with
      | unknown | unread | beyondEnd => cases hyield
      | written =>
          have hrecord := writeAnswer_eq_ok (congrArg Prod.fst hyield).symm
          rw [hrecord.2]
          rfl

/-- For how many nanoseconds events hold a reporter together. -/
def holding (due : List Event) : Nat :=
  due.foldr (fun e nanos => e.fault.holding + nanos) 0

/-- The delays of some successive events of one checkpoint are too long to be added up. -/
def Overlong (events : List Event) : Prop :=
  ∃ id due, due <:+: events ∧ (∀ e ∈ due, e.checkpoint = id) ∧
    UInt64.size * nanosPerSecond ≤ holding due

theorem Overlong.of_suffix {events later : List Event} (h : Overlong later)
    (hsuffix : later <:+ events) : Overlong events := by
  obtain ⟨id, due, hdue, hrest⟩ := h
  exact ⟨id, due, hdue.trans hsuffix.isInfix, hrest⟩

/-- The clock comes to its end in a run, which has stopped there. -/
inductive ClockEnds (b : Bench σ) (s : Settings) (events : List Event) (r : Run σ) : Prop
  /-- The driver has just been started, and the clock cannot show the time limit of the trial. -/
  | limit : r.phase = .driverLaunched → Run.later? (b.now r.world) s.trial.trialTimeout = none →
      ClockEnds b s events r
  /-- The delays that go with the events of a checkpoint cannot be added up. -/
  | delays : r.phase = .injecting → Overlong events → ClockEnds b s events r
  /-- The driver has ended, and the clock cannot show the end of the settling. -/
  | settling : r.journal.deeds.any Deed.isExit = true →
      Run.later? (b.now r.world) s.trial.settle = none → ClockEnds b s events r

namespace Run

variable {b : Bench σ} {events skipped : List Event} {r r' : Run σ}

/-- What a clock cannot show from one time on, it cannot show from a later time on. -/
theorem later?_eq_none_of_le {now latest : Nat} {d : Duration} (hle : now ≤ latest)
    (h : later? now d = none) : later? latest d = none := by
  unfold later? at h ⊢
  split at h
  next => cases h
  next hlate => rw [if_neg (by omega)]

theorem phase_enter (p : Phase) (r : Run σ) : (r.enter b p).phase = p := by
  unfold Run.enter
  split
  next h => exact h
  next => rfl

theorem le_of_injectAll {id : Checkpoint} {due : List Event} {delay : Duration}
    (h : injectAll b id delay due r = (.error .clockOverflow, r')) :
    r'.phase = r.phase ∧ UInt64.size * nanosPerSecond ≤ delay.nanos + holding due := by
  induction due generalizing r delay with
  | nil => cases h
  | cons e due ih =>
      unfold injectAll at h
      dsimp only at h
      split at h
      next => cases h
      next record j s heq =>
        have hholding := Injector.nanos_releaseDelay heq
        split at h
        next hnone =>
          cases h
          have hle := Duration.add?_eq_none_iff.mp hnone
          rw [hholding] at hle
          rw [holding, List.foldr_cons]
          exact ⟨rfl, by omega⟩
        next delay' hsome =>
          obtain ⟨hphase, hle⟩ := ih h
          rw [Duration.nanos_of_add? hsome, hholding, Nat.add_assoc] at hle
          exact ⟨hphase, hle⟩

theorem le_of_fire {id : Checkpoint} {due : List Event}
    (h : fire b id due r = (.error .clockOverflow, r')) :
    r'.phase = .injecting ∧ UInt64.size * nanosPerSecond ≤ holding due := by
  unfold fire at h
  split at h
  next => cases h
  next =>
    split at h
    next halt r'' heq =>
      cases h
      obtain ⟨hphase, hle⟩ := le_of_injectAll heq
      exact ⟨hphase.trans (phase_enter _ _), by simpa [Duration.zero] using hle⟩
    next => cases h

/-- A round is stopped by the clock only where delays are too long, and the next round has no other
events. -/
def Timely (queue : EventQueue) :
    Turn (Except Halt DriverExit × EventQueue × Run σ) (Bool × EventQueue × Run σ) → Prop
  | .over (answer, _, r) => answer = .error .clockOverflow → r.phase = .injecting ∧ Overlong queue
  | .again (_, rest, _) => rest <:+ queue

theorem hear_timely {s : Settings} {time : Nat} {listening : Bool} {queue : EventQueue}
    {news : News} : Timely queue (hear b s time listening queue news r) := by
  cases news with
  | reported id =>
      unfold hear
      dsimp only
      split
      next halt r' heq =>
        intro hhalt
        cases hhalt
        obtain ⟨hphase, hle⟩ := le_of_fire heq
        exact ⟨hphase, id, (EventQueue.takeDue id queue).1, (List.takeWhile_prefix _).isInfix,
          fun e he => EventQueue.mem_takeDue he, hle⟩
      next => exact List.dropWhile_suffix _
  | timedOut =>
      dsimp only [hear]
      split <;> nofun
  | deserted => exact List.suffix_refl _
  | _ => nofun

theorem round_timely (s : Settings) (deadline : Nat) (listening : Bool) (queue : EventQueue) :
    Timely queue (round b s deadline listening queue r) := by
  unfold round
  exact iteInduction (motive := Timely queue) (fun _ => nofun) fun _ => hear_timely

theorem overlong_of_coordinate {s : Settings} {deadline rounds : Nat} {listening : Bool}
    {queue rest : EventQueue}
    (h : coordinate b s deadline rounds listening queue r = (.error .clockOverflow, rest, r')) :
    r'.phase = .injecting ∧ Overlong queue := by
  induction rounds generalizing r listening queue with
  | zero => cases h
  | succ rounds ih =>
      have hround := round_timely (b := b) (r := r) s deadline listening queue
      unfold coordinate at h
      split at h
      next result heq =>
        rw [heq, h] at hround
        exact hround rfl
      next listening' queue' r'' heq =>
        rw [heq] at hround
        obtain ⟨hphase, hoverlong⟩ := ih h
        exact ⟨hphase, hoverlong.of_suffix hround⟩

theorem clockEnds_of_conclude {s : Settings} {check : Check} {exit : DriverExit} {st : Standing}
    (hr : Follows events skipped r st) (hexited : st.exited = true)
    (h : conclude b s check exit r = (.error .clockOverflow, r')) : ClockEnds b s events r' := by
  unfold conclude at h
  split at h
  next hnone =>
    cases h
    exact .settling (hr.path.exited ▸ hexited) hnone
  next => cases h

theorem clockEnds_of_drive {s : Settings} {driver : Script} {plan : Plan} {reference : Reference}
    {check : Check} (hr : Follows events [] r { phase := .planLoaded, left := events })
    (hevents : eventsIn r.campaign.stage plan = events)
    (h : drive b s driver plan reference check r = (.error .clockOverflow, r')) :
    ClockEnds b s events r' := by
  unfold drive at h
  dsimp only at h
  split at h
  next => cases h
  next w _ =>
    have hlaunched := hr.launched (b := b) w
      (Capture.new s.trial.outputTailLines (Check.watchedMarkers s.checker reference))
    split at h
    next hnone =>
      cases h
      exact .limit (phase_enter _ _) hnone
    next deadline _ =>
      have hends := coordinate_ends (b := b) s deadline (s.trial.trialTimeout.nanos + 1) true
        hlaunched ⟨.inl rfl, rfl, rfl, rfl⟩
      simp only [campaign_enter, campaign_note, hevents] at h
      split at h
      next heq =>
        cases h
        obtain ⟨hphase, hoverlong⟩ := overlong_of_coordinate heq
        exact .delays hphase hoverlong
      next => cases h
      next exit queue r'' heq =>
        rw [heq] at hends
        obtain ⟨st', hr'', -, hexited, -⟩ := hends
        exact clockEnds_of_conclude (hr''.skip queue) hexited h

/-- An attempt is stopped by the clock only where the clock comes to its end. -/
theorem clockEnds_of_attempt {s : Settings} {driver : Script} {spec : TrialSpec}
    {channel : Except ChannelError String}
    (hevents : ∀ plan, r.loadPlan b spec.plan = .ok plan → eventsIn r.campaign.stage plan = events)
    (hr : Follows events [] r { left := events })
    (h : r.attempt b s driver spec channel = (.error .clockOverflow, r')) :
    ClockEnds b s events r' := by
  have hreadies := prepare_readies (b := b) s spec hevents hr
  unfold attempt at h
  split at h
  next => cases h
  next => cases h
  next => cases h
  next plan reference check r₁ address heq =>
    rw [heq] at hreadies
    obtain ⟨hprepared, hqueue⟩ := hreadies
    dsimp only at h
    split at h
    next r₂ hdrive =>
      cases h
      exact clockEnds_of_drive (hprepared.connect address) hqueue hdrive
    next outcome r₂ hother hdrive =>
      cases h
      exact absurd rfl hother

end Run

end FaultDrill
