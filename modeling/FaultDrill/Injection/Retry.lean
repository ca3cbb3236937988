import FaultDrill.Injection.Settings
import FaultDrill.Injection.Site

/-!
# FaultDrill.Injection.Retry

Trying an action again. Every try has the same time; the pauses between tries grow by the same
amount each time. A process that is gone is a final answer: trying again could not change it, and a
signal that has been delivered is never sent again.
-/

namespace FaultDrill

/-- An action on a site that has a deadline. -/
abbrev Action (σ : Type) := Nat → σ → Option (Except InjectionError Unit) × σ

namespace Retry

variable {σ : Type}

/-- One try of an action, where running out of time is a failure. -/
def once (site : Site σ) (timeout : Nat) (target name : String) (act : Action σ) (s : σ) :
    Except InjectionError Unit × σ :=
  match act (site.now s + timeout) s with
  | (some answer, s) => (answer, s)
  | (none, s) => (.error (.timedOut target name), s)

/-- Tries an action until it succeeds, the process is gone, or `left` further tries have been made
after `made`. -/
def retrying (site : Site σ) (timeout pause : Nat) (target name : String) (act : Action σ)
    (made : Nat) : Nat → σ → Except InjectionError Unit × σ
  | 0, s => once site timeout target name act s
  | left + 1, s =>
    match once site timeout target name act s with
    | (.error (.processGone pid), s) => (.error (.processGone pid), s)
    | (.error _, s) =>
      retrying site timeout pause target name act (made + 1) left
        (site.sleep (pause * (made + 1)) s)
    | (.ok (), s) => (.ok (), s)

/-- Tries an action as often as the settings allow. -/
def run (site : Site σ) (settings : InjectorSettings) (target name : String) (act : Action σ)
    (s : σ) : Except InjectionError Unit × σ :=
  retrying site settings.actionTimeout.nanos settings.retryBackoffBase.nanos target name act 0
    settings.retryMaxAttempts.toNat s

end Retry

end FaultDrill
