import FaultDrill.Proofs.Injection.Timing
import FaultDrill.Proofs.Trial.Release

/-!
# FaultDrill.Proofs.Trial.Range

Which sums of times stay in range. A number of milliseconds is short against what a clock can show,
and the pauses between tries are limited, so the end of the settling, the time by which a process
has to be dead and the pauses are in range with all settings that are accepted. The time limit and
the delays have no upper limit: what is left open is whether they are in range
(`TimeSum.forall_fits_iff`). So a trial can stop only for one of these two
(`Runner.execute_of_fits`), and for each there are settings or a plan that are accepted and with
which the sum is out of range (`limit_and_delays_out_of_range`).
-/

namespace FaultDrill

open FaultDrill.Text

/-- The time that no clock can show any more. -/
def clockEnd : Nat :=
  UInt64.size / 2 * nanosPerSecond

/-- A sum of times that is made in a trial. -/
inductive TimeSum where
  /-- The time at which the trial has taken too long. -/
  | limit
  /-- The end of the settling. -/
  | settling
  /-- The time by which a process has to be dead. -/
  | death
  /-- The pause before a further try. -/
  | pause (i : Nat)
  /-- The delays of events that are due together. -/
  | delays (due : List Event)

namespace TimeSum

/-- The nanoseconds of a sum that is made at a time. -/
def nanos (s : Settings) (now : Nat) : TimeSum → Nat
  | limit => now + s.trial.trialTimeout.nanos
  | settling => now + s.trial.settle.nanos
  | death => now + s.injector.killGrace.nanos
  | pause i => s.injector.retryBackoffBase.nanos * i
  | delays due => holding due

/-- Where the range of a sum ends: points in time are on the clock, and the others are durations. -/
def bound : TimeSum → Nat
  | limit | settling | death => clockEnd
  | pause _ | delays _ => UInt64.size * nanosPerSecond

/-- A sum is in range. -/
def Fits (s : Settings) (now : Nat) (t : TimeSum) : Prop :=
  t.nanos s now < t.bound

/-- Which sums are made in a trial with some events. -/
inductive Made (s : Settings) (events : List Event) : TimeSum → Prop
  | limit : Made s events .limit
  | settling : Made s events .settling
  | death : Made s events .death
  | pause {i : Nat} : i ≤ s.injector.retryMaxAttempts.toNat → Made s events (.pause i)
  -- delays are added one by one, so those of the first events due are sums of their own
  | delays {id : Checkpoint} {due : List Event} : due <:+: events →
      (∀ e ∈ due, e.checkpoint = id) → Made s events (.delays due)

end TimeSum

/-! ### The clock -/

theorem Run.isSome_later? {now : Nat} {d : Duration} :
    (later? now d).isSome ↔ now + d.nanos < clockEnd := by
  unfold later?
  split
  next h => exact iff_of_true rfl h
  next h => exact iff_of_false nofun h

/-- More seconds than the clock has are beyond its end from any time on. -/
theorem clockEnd_le_ofSecs {secs : UInt64} (h : UInt64.size / 2 ≤ secs.toNat) (now : Nat) :
    clockEnd ≤ now + (Duration.ofSecs secs).nanos := by
  have hlate : clockEnd ≤ (Duration.ofSecs secs).nanos := Nat.mul_le_mul_right nanosPerSecond h
  omega

/-- The clock has room for any number of milliseconds. -/
def HasRoom (now : Nat) : Prop :=
  now + UInt64.size * nanosPerMilli ≤ clockEnd

instance (now : Nat) : Decidable (HasRoom now) :=
  inferInstanceAs (Decidable (_ ≤ _))

theorem HasRoom.ofMillis {now : Nat} (h : HasRoom now) (ms : UInt64) :
    now + (Duration.ofMillis ms).nanos < clockEnd := by
  have hms : (Duration.ofMillis ms).nanos < UInt64.size * nanosPerMilli :=
    Nat.mul_lt_mul_of_pos_right ms.toNat_lt (by decide)
  unfold HasRoom at h
  omega

/-! ### The delays -/

theorem holding_cons (e : Event) (due : List Event) :
    holding (e :: due) = e.fault.holding + holding due :=
  rfl

theorem holding_append (front back : List Event) :
    holding (front ++ back) = holding front + holding back := by
  induction front with
  | nil => simp [holding]
  | cons e front ih => rw [List.cons_append, holding_cons, holding_cons, ih, Nat.add_assoc]

/-- The delays at no checkpoint are too long if all delays together are not. -/
theorem not_overlong {events : List Event} (h : holding events < UInt64.size * nanosPerSecond) :
    ¬Overlong events := by
  rintro ⟨id, due, ⟨front, back, rfl⟩, -, hlong⟩
  rw [holding_append, holding_append] at h
  omega

theorem overlong_iff (s : Settings) (now : Nat) {events : List Event} :
    Overlong events ↔ ∃ due, (TimeSum.delays due).Made s events ∧
      ¬(TimeSum.delays due).Fits s now := by
  constructor
  · rintro ⟨id, due, hdue, hid, hlong⟩
    exact ⟨due, .delays hdue hid, Nat.not_lt.mpr hlong⟩
  · rintro ⟨due, hmade, hlong⟩
    cases hmade with
    | delays hdue hid => exact ⟨_, due, hdue, hid, Nat.not_lt.mp hlong⟩

/-! ### Settings that are accepted -/

theorem Settings.of_ofConfig {config : Config} {s : Settings} (h : ofConfig config = .ok s) :
    s.trial = .ofConfig config.trial ∧ s.injector.WithinLimits := by
  obtain ⟨checker, -, h⟩ := Outcome.bind_eq_ok.mp h
  obtain ⟨_, hvalid, h⟩ := Outcome.bind_eq_ok.mp h
  obtain rfl := Except.ok.inj h
  obtain ⟨_, -, hvalid⟩ := Outcome.bind_eq_ok.mp hvalid
  obtain ⟨_, hinjector, -⟩ := Outcome.bind_eq_ok.mp hvalid
  exact ⟨rfl, InjectorSettings.withinLimits_of_validate (Outcome.mapError_eq_ok.mp hinjector)⟩

namespace TimeSum

variable {config : Config} {s : Settings} {now : Nat} {events : List Event}

theorem fits_settling (h : Settings.ofConfig config = .ok s) (hroom : HasRoom now) :
    settling.Fits s now := by
  unfold Fits nanos
  rw [(Settings.of_ofConfig h).1]
  exact hroom.ofMillis _

theorem fits_death (hroom : HasRoom now) : death.Fits s now :=
  hroom.ofMillis _

theorem fits_pause (h : Settings.ofConfig config = .ok s) {i : Nat}
    (hi : i ≤ s.injector.retryMaxAttempts.toNat) : (pause i).Fits s now :=
  (Settings.of_ofConfig h).2.pause_lt hi

/-- All sums are in range just if the time limit and the delays are. -/
theorem forall_fits_iff (h : Settings.ofConfig config = .ok s) (hroom : HasRoom now) :
    (∀ t : TimeSum, t.Made s events → t.Fits s now) ↔
      (Run.later? now s.trial.trialTimeout).isSome ∧ ¬Overlong events := by
  rw [Run.isSome_later?, overlong_iff s now]
  constructor
  · intro hall
    exact ⟨hall limit .limit, fun ⟨due, hmade, hlong⟩ => hlong (hall _ hmade)⟩
  · rintro ⟨hlimit, hdelays⟩ t hmade
    cases hmade with
    | limit => exact hlimit
    | settling => exact fits_settling h hroom
    | death => exact fits_death hroom
    | pause hi => exact fits_pause h hi
    | delays hdue hid => exact not_not.mp fun hlong => hdelays ⟨_, .delays hdue hid, hlong⟩

end TimeSum

/-! ### A trial -/

open Rehearsal (Scene)

/-- **The time limit and the delays are the only sums of times that can be out of range.** With
settings that are accepted, and while the clock has room for any number of milliseconds, all sums
of a trial are in range just if the clock can show its time limit and the delays at no checkpoint
are too long. A trial for which this holds where its attempt ends has a result, whatever happens
in it. -/
theorem Runner.execute_of_fits {config : Config} {runner : Runner}
    (hsettings : Settings.ofConfig config = .ok runner.settings) :
    (∀ now events, HasRoom now →
      ((∀ t : TimeSum, t.Made runner.settings events → t.Fits runner.settings now) ↔
        (Run.later? now runner.settings.trial.trialTimeout).isSome ∧ ¬Overlong events)) ∧
    ∀ {σ : Type} (b : Bench σ) (campaign : CampaignState) (spec : TrialSpec)
      (channel : Except ChannelError String) (s : σ),
      let now := b.now (runner.attempted b campaign spec channel s).2.world
      let events := runner.events b campaign spec s
      HasRoom now →
      (∀ t : TimeSum, t.Made runner.settings events → t.Fits runner.settings now) →
      (runner.execute b campaign spec channel s).isSome := by
  refine ⟨fun now events => TimeSum.forall_fits_iff hsettings, ?_⟩
  intro σ b campaign spec channel s now events hroom hfits
  obtain ⟨hlimit, hdelays⟩ := (TimeSum.forall_fits_iff hsettings hroom).mp hfits
  -- what is left of the clock is judged at the end, since no time before it is later
  exact isSome_execute (Nat.le_refl _) hlimit
    (Run.isSome_later?.mpr (TimeSum.fits_settling hsettings hroom)) hdelays

/-- With ten minutes for a trial and a plan without delays all sums are in range, and a trial has a
result. -/
theorem Runner.execute_of_fits_tenMinutes :
    Settings.ofConfig (drillConfig 600) = .ok (drillRunner 600).settings ∧
    (∀ t : TimeSum, t.Made (drillRunner 600).settings drillPlan.events →
      t.Fits (drillRunner 600).settings 0) ∧
    ((drillRunner 600).execute Scene.bench { stage := .injection } drillSpec (.ok "memory")
      (drillScene ["1"])).isSome := by
  have hsettings : Settings.ofConfig (drillConfig 600) = .ok (drillRunner 600).settings := rfl
  have hshort : ¬Overlong drillPlan.events := not_overlong (by decide)
  obtain ⟨hiff, hresult⟩ := execute_of_fits hsettings
  refine ⟨hsettings, (hiff 0 _ (by decide)).mpr ⟨by decide +kernel, hshort⟩, ?_⟩
  have hroom : HasRoom (Scene.bench.now ((drillRunner 600).attempted Scene.bench
      { stage := .injection } drillSpec (.ok "memory") (drillScene ["1"])).2.world) := by
    decide +kernel
  exact hresult Scene.bench _ _ _ _ hroom
    ((hiff _ _ hroom).mpr ⟨by decide +kernel, hshort⟩)

/-- The longest time limit passes both validations, and no clock can show it. A plan with two of the
longest delays at one checkpoint is accepted, and their sum is not a duration. -/
theorem limit_and_delays_out_of_range :
    Config.validate (drillConfig 18446744073709551615) = .ok () ∧
    Settings.ofConfig (drillConfig 18446744073709551615) =
      .ok (drillSettings 18446744073709551615) ∧
    (∀ now, ¬TimeSum.limit.Fits (drillSettings 18446744073709551615) now) ∧
    Plan.ofText overlongText = .ok overlongPlan ∧
    ∃ t : TimeSum, t.Made (drillSettings 600) overlongPlan.events ∧
      ∀ now, ¬t.Fits (drillSettings 600) now := by
  refine ⟨by decide +kernel, rfl, fun now => ?_, by decide +kernel, ?_⟩
  · exact Nat.not_lt.mpr (clockEnd_le_ofSecs (by decide) now)
  · have hdue : ∀ e ∈ overlongPlan.events, e.checkpoint = "1" := by decide
    have hlong : UInt64.size * nanosPerSecond ≤ holding overlongPlan.events := by decide
    exact ⟨.delays overlongPlan.events, .delays (List.infix_refl _) hdue,
      fun _ => Nat.not_lt.mpr hlong⟩

end FaultDrill
