import FaultDrill.Injection.Retry

/-!
# FaultDrill.Proofs.Injection.Retry

What a retried action comes to. However many tries were made, the whole is either one successful
try, made in a state that only failed tries and pauses have led to, or a failure after failed tries
and pauses alone (`run_cases`). Whoever knows what a failed try leaves alone knows what all of them
leave alone. That a process is gone is always the answer of the last try (`run_processGone`).
-/

namespace FaultDrill.Retry

variable {σ : Type} {site : Site σ} {act : Action σ}

/-- What one try answers: a success or a failure of the action, or that time ran out. -/
theorem once_cases (site : Site σ) (timeout : Nat) (target name : String) (act : Action σ) (s : σ) :
    ((act (site.now s + timeout) s).1 = some (.ok ()) ∧
      once site timeout target name act s = (.ok (), (act (site.now s + timeout) s).2)) ∨
    ((act (site.now s + timeout) s).1 ≠ some (.ok ()) ∧ ∃ e,
      once site timeout target name act s = (.error e, (act (site.now s + timeout) s).2)) := by
  unfold once
  rcases act (site.now s + timeout) s with ⟨answer, s'⟩
  cases answer with
  | none => exact .inr ⟨by simp, _, rfl⟩
  | some result =>
      cases result with
      | error e => exact .inr ⟨by simp, e, rfl⟩
      | ok u => exact .inl ⟨rfl, rfl⟩

/-- Only the action itself says that a process is gone. -/
theorem once_processGone {timeout : Nat} {target name : String} {pid : UInt32} {s s' : σ}
    (h : once site timeout target name act s = (.error (.processGone pid), s')) :
    act (site.now s + timeout) s = (some (.error (.processGone pid)), s') := by
  unfold once at h
  split at h
  · next answer s₁ heq =>
    obtain ⟨rfl, rfl⟩ := Prod.mk.inj h
    exact heq
  · cases h

section Cases

-- `Q` is a property of states that pauses and failed tries keep
variable {Q : σ → Prop} (hsleep : ∀ n s, Q s → Q (site.sleep n s))
  (hfail : ∀ deadline s, Q s → (act deadline s).1 ≠ some (.ok ()) → Q (act deadline s).2)

include hsleep hfail

theorem retrying_cases (timeout pause : Nat) (target name : String) (made left : Nat) {s : σ}
    (h : Q s) :
    (∃ deadline s₁, Q s₁ ∧ (act deadline s₁).1 = some (.ok ()) ∧
      retrying site timeout pause target name act made left s = (.ok (), (act deadline s₁).2)) ∨
    ∃ e s₁, Q s₁ ∧ retrying site timeout pause target name act made left s = (.error e, s₁) := by
  induction left generalizing made s with
  | zero =>
      rcases once_cases site timeout target name act s with ⟨hok, heq⟩ | ⟨hne, e, heq⟩
      · exact .inl ⟨_, s, h, hok, heq⟩
      · exact .inr ⟨e, _, hfail _ s h hne, heq⟩
  | succ left ih =>
      unfold retrying
      rcases once_cases site timeout target name act s with ⟨hok, heq⟩ | ⟨hne, e, heq⟩
      · rw [heq]
        exact .inl ⟨_, s, h, hok, rfl⟩
      · have hnext := hfail _ s h hne
        rw [heq]
        split
        · next pid s₁ hgone =>
          obtain ⟨-, rfl⟩ := Prod.mk.inj hgone
          exact .inr ⟨_, _, hnext, rfl⟩
        · next s₁ _ herror =>
          obtain ⟨-, rfl⟩ := Prod.mk.inj herror
          exact ih (made + 1) (hsleep _ _ hnext)
        · next hok => cases hok

theorem run_cases (settings : InjectorSettings) (target name : String) {s : σ} (h : Q s) :
    (∃ deadline s₁, Q s₁ ∧ (act deadline s₁).1 = some (.ok ()) ∧
      run site settings target name act s = (.ok (), (act deadline s₁).2)) ∨
    ∃ e s₁, Q s₁ ∧ run site settings target name act s = (.error e, s₁) :=
  retrying_cases hsleep hfail _ _ target name 0 _ h

theorem retrying_processGone {timeout pause : Nat} {target name : String} {made left : Nat}
    {pid : UInt32} {s s' : σ} (h : Q s)
    (hgone : retrying site timeout pause target name act made left s =
      (.error (.processGone pid), s')) :
    ∃ deadline s₁, Q s₁ ∧ act deadline s₁ = (some (.error (.processGone pid)), s') := by
  induction left generalizing made s with
  | zero => exact ⟨_, s, h, once_processGone hgone⟩
  | succ left ih =>
      unfold retrying at hgone
      rcases once_cases site timeout target name act s with ⟨hok, heq⟩ | ⟨hne, e, heq⟩
      · rw [heq] at hgone
        cases hgone
      · have hnext := hfail _ s h hne
        split at hgone
        · next pid' s₁ hlast =>
          obtain ⟨he, rfl⟩ := Prod.mk.inj hgone
          obtain rfl : pid' = pid := by injection he with he; injection he
          exact ⟨_, s, h, once_processGone hlast⟩
        · next s₁ _ herror =>
          obtain ⟨-, rfl⟩ := Prod.mk.inj (heq.symm.trans herror)
          exact ih (hsleep _ _ hnext) hgone
        · cases hgone

/-- If a process is gone, the last try has found that. -/
theorem run_processGone {settings : InjectorSettings} {target name : String} {pid : UInt32}
    {s s' : σ} (h : Q s)
    (hgone : run site settings target name act s = (.error (.processGone pid), s')) :
    ∃ deadline s₁, Q s₁ ∧ act deadline s₁ = (some (.error (.processGone pid)), s') :=
  retrying_processGone hsleep hfail h hgone

end Cases

/-- What pauses and tries keep is kept. -/
theorem run_keeps {Q : σ → Prop} (hsleep : ∀ n s, Q s → Q (site.sleep n s))
    (hact : ∀ deadline s, Q s → Q (act deadline s).2) (settings : InjectorSettings)
    (target name : String) {s : σ} (h : Q s) : Q (run site settings target name act s).2 := by
  rcases run_cases hsleep (fun deadline s₁ h₁ _ => hact deadline s₁ h₁) settings target name h with
    ⟨deadline, s₁, h₁, -, heq⟩ | ⟨e, s₁, h₁, heq⟩
  · rw [heq]
    exact hact deadline s₁ h₁
  · rw [heq]
    exact h₁

end FaultDrill.Retry
