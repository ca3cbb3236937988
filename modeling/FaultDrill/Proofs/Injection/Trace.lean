import FaultDrill.Injection.Retry

/-!
# FaultDrill.Proofs.Injection.Trace

What has been asked of a site, and what it has answered. An operation of a site gives an answer and
leaves another state (`Site.Step`), and operations one after the other give a list of notes
(`Site.Trace`). Sleeping is no operation that anyone could notice, so it leaves no note. What holds
of traces on every site holds of them on those that log what they are asked for, and there the
notes are the log (`Trace.log_eq`).

A retried action is asked for once or more often (`Retry.run_trace`): each try but the last has
failed in a way that another try could mend, and the last one decides.
-/

namespace FaultDrill

variable {σ : Type}

/-- The answer of an operation with a deadline, where none means that the deadline came first. -/
abbrev Answer := Option (Except InjectionError Unit)

/-- An operation that has been asked for, with its answer. -/
inductive Note where
  | signal (pid : UInt32) (g : Signal) (answer : Answer)
  | alive (pid : UInt32) (answer : Bool)
  | block (here there : Endpoint) (answer : Answer)
  | unblock (here there : Endpoint) (answer : Answer)
  | size (path : String) (answer : Option (Except FileError Nat))
  | read (path : String) (answer : Option (Except FileError Bytes))
  | write (path : String) (bytes : Bytes) (answer : Option (Except FileError Unit))

namespace Site

/-- One operation of a site, with the note of it. -/
inductive Step (site : Site σ) : σ → List Note → σ → Prop
  | sleep (n : Nat) (s : σ) : Step site s [] (site.sleep n s)
  | signal (deadline : Nat) (pid : UInt32) (g : Signal) (s : σ) :
      Step site s [.signal pid g (site.signal deadline pid g s).1] (site.signal deadline pid g s).2
  | isAlive (pid : UInt32) (s : σ) :
      Step site s [.alive pid (site.isAlive pid s).1] (site.isAlive pid s).2
  | block (deadline : Nat) (a b : Endpoint) (s : σ) :
      Step site s [.block a b (site.block deadline a b s).1] (site.block deadline a b s).2
  | unblock (deadline : Nat) (a b : Endpoint) (s : σ) :
      Step site s [.unblock a b (site.unblock deadline a b s).1] (site.unblock deadline a b s).2
  | sizeBy (deadline : Nat) (path : String) (s : σ) :
      Step site s [.size path (site.sizeBy deadline path s).1] (site.sizeBy deadline path s).2
  | readBy (deadline : Nat) (path : String) (s : σ) :
      Step site s [.read path (site.readBy deadline path s).1] (site.readBy deadline path s).2
  | read (path : String) (s : σ) :
      Step site s [.read path (some (site.read path s).1)] (site.read path s).2
  | writeBy (deadline : Nat) (path : String) (bytes : Bytes) (s : σ) :
      Step site s [.write path bytes (site.writeBy deadline path bytes s).1]
        (site.writeBy deadline path bytes s).2
  | write (path : String) (bytes : Bytes) (s : σ) :
      Step site s [.write path bytes (some (site.write path bytes s).1)] (site.write path bytes s).2

/-- Operations of a site one after the other, with the notes of all of them. -/
inductive Trace (site : Site σ) : σ → List Note → σ → Prop
  | nil (s : σ) : Trace site s [] s
  | cons {s s₁ s' : σ} {notes more : List Note} (first : site.Step s notes s₁)
      (rest : Trace site s₁ more s') : Trace site s (notes ++ more) s'

variable {site : Site σ} {s s₁ s' : σ} {notes more : List Note}

theorem Step.trace (h : site.Step s notes s') : site.Trace s notes s' := by
  simpa using Trace.cons h (.nil s')

theorem Trace.append (h : site.Trace s notes s₁) (h' : site.Trace s₁ more s') :
    site.Trace s (notes ++ more) s' := by
  induction h with
  | nil s => simpa using h'
  | cons first _ ih =>
      rw [List.append_assoc]
      exact .cons first (ih h')

/-! ### Logged sites -/

/-- The site that behaves as another one and logs what it is asked for. -/
def logged (site : Site σ) : Site (σ × List Note) where
  now s := site.now s.1
  sleep n s := (site.sleep n s.1, s.2)
  signal deadline pid g s :=
    let (answer, s₁) := site.signal deadline pid g s.1
    (answer, s₁, s.2 ++ [.signal pid g answer])
  isAlive pid s :=
    let (answer, s₁) := site.isAlive pid s.1
    (answer, s₁, s.2 ++ [.alive pid answer])
  block deadline a b s :=
    let (answer, s₁) := site.block deadline a b s.1
    (answer, s₁, s.2 ++ [.block a b answer])
  unblock deadline a b s :=
    let (answer, s₁) := site.unblock deadline a b s.1
    (answer, s₁, s.2 ++ [.unblock a b answer])
  sizeBy deadline path s :=
    let (answer, s₁) := site.sizeBy deadline path s.1
    (answer, s₁, s.2 ++ [.size path answer])
  readBy deadline path s :=
    let (answer, s₁) := site.readBy deadline path s.1
    (answer, s₁, s.2 ++ [.read path answer])
  writeBy deadline path bytes s :=
    let (answer, s₁) := site.writeBy deadline path bytes s.1
    (answer, s₁, s.2 ++ [.write path bytes answer])
  read path s :=
    let (answer, s₁) := site.read path s.1
    (answer, s₁, s.2 ++ [.read path (some answer)])
  write path bytes s :=
    let (answer, s₁) := site.write path bytes s.1
    (answer, s₁, s.2 ++ [.write path bytes (some answer)])
  add_le_now_sleep n s := site.add_le_now_sleep n s.1
  now_le_now_isAlive pid s := site.now_le_now_isAlive pid s.1

/-- The notes of a trace leave nothing out: on a logged site they are what is added to the log. -/
theorem Trace.log_eq {t t' : σ × List Note} (h : site.logged.Trace t notes t') :
    t'.2 = t.2 ++ notes := by
  induction h with
  | nil t => rw [List.append_nil]
  | @cons t t₁ t' notes more first _ ih =>
      have hfirst : t₁.2 = t.2 ++ notes := by
        cases first with
        | sleep n => exact (List.append_nil t.2).symm
        | _ => rfl
      rw [ih, hfirst, List.append_assoc]

end Site

namespace Retry

variable {site : Site σ} {act : Action σ}

/-- Whether another try could not change an answer: a success, and a process that is gone. -/
def isFinal : Answer → Bool
  | some (.ok ()) | some (.error (.processGone _)) => true
  | _ => false

/-- What an answer means for the action. -/
def result (target name : String) (answer : Answer) : Except InjectionError Unit :=
  answer.getD (.error (.timedOut target name))

theorem result_eq_ok_iff {target name : String} {answer : Answer} :
    result target name answer = .ok () ↔ answer = some (.ok ()) := by
  cases answer with
  | none => simp [result]
  | some answer => simp [result]

theorem isFinal_iff (target name : String) {answer : Answer} : isFinal answer = true ↔
    result target name answer = .ok () ∨
      ∃ pid, result target name answer = .error (.processGone pid) := by
  cases answer with
  | none => simp [isFinal, result, InjectionError.timedOut]
  | some answer =>
      cases answer with
      | ok u => simp [isFinal, result]
      | error e => cases e <;> simp [isFinal, result]

/-- The answers of a retried action: those before the last one have left something to hope for, and
the last one does not, or no further try is allowed. -/
structure Tries (most : Nat) (earlier : List Answer) (last : Answer) : Prop where
  failed : ∀ answer ∈ earlier, isFinal answer = false
  length_le : earlier.length ≤ most
  final : isFinal last = true ∨ earlier.length = most

theorem Tries.cons {most : Nat} {earlier : List Answer} {first last : Answer}
    (hfirst : isFinal first = false) (h : Tries most earlier last) :
    Tries (most + 1) (first :: earlier) last where
  failed := by
    intro answer hanswer
    rcases List.mem_cons.mp hanswer with rfl | hrest
    · exact hfirst
    · exact h.failed answer hrest
  length_le := by simpa using h.length_le
  final := by simpa using h.final

theorem once_eq (site : Site σ) (timeout : Nat) (target name : String) (act : Action σ) (s : σ) :
    once site timeout target name act s = (result target name (act (site.now s + timeout) s).1,
      (act (site.now s + timeout) s).2) := by
  unfold once
  rcases act (site.now s + timeout) s with ⟨answer, s'⟩
  cases answer with
  | none => rfl
  | some answer => rfl

theorem retrying_trace (note : Answer → Note)
    (hact : ∀ deadline s, site.Step s [note (act deadline s).1] (act deadline s).2)
    (timeout pause : Nat) (target name : String) (made left : Nat) (s : σ) :
    ∃ earlier last, Tries left earlier last ∧
      site.Trace s ((earlier ++ [last]).map note)
        (retrying site timeout pause target name act made left s).2 ∧
      (retrying site timeout pause target name act made left s).1 = result target name last := by
  induction left generalizing made s with
  | zero =>
      unfold retrying
      rw [once_eq]
      exact ⟨[], _, ⟨by simp, Nat.le_refl 0, .inr rfl⟩, (hact _ s).trace, rfl⟩
  | succ left ih =>
      unfold retrying
      rw [once_eq]
      have hfirst := hact (site.now s + timeout) s
      split
      · next pid s₁ heq =>
        obtain ⟨hgone, rfl⟩ := Prod.mk.inj heq
        have hfinal := (isFinal_iff target name).mpr (.inr ⟨pid, hgone⟩)
        exact ⟨[], _, ⟨by simp, Nat.zero_le _, .inl hfinal⟩, hfirst.trace, hgone.symm⟩
      · next e s₁ hnot heq =>
        obtain ⟨herror, rfl⟩ := Prod.mk.inj heq
        have hopen : isFinal (act (site.now s + timeout) s).1 = false := by
          rw [← Bool.not_eq_true, isFinal_iff target name, herror]
          rintro (hok | ⟨pid, hgone⟩)
          · cases hok
          · cases hgone
            exact hnot pid rfl
        obtain ⟨earlier, last, htries, htrace, hresult⟩ :=
          ih (made + 1) (site.sleep (pause * (made + 1)) (act (site.now s + timeout) s).2)
        exact ⟨_ :: earlier, last, htries.cons hopen, .cons hfirst (.cons (.sleep _ _) htrace),
          hresult⟩
      · next s₁ heq =>
        obtain ⟨hok, rfl⟩ := Prod.mk.inj heq
        have hfinal := (isFinal_iff target name).mpr (.inl hok)
        exact ⟨[], _, ⟨by simp, Nat.zero_le _, .inl hfinal⟩, hfirst.trace, hok.symm⟩

/-- A retried action is tried until the answer is final or there are no more tries, and the last
answer is its result. -/
theorem run_trace (note : Answer → Note)
    (hact : ∀ deadline s, site.Step s [note (act deadline s).1] (act deadline s).2)
    (settings : InjectorSettings) (target name : String) (s : σ) :
    ∃ earlier last, Tries settings.retryMaxAttempts.toNat earlier last ∧
      site.Trace s ((earlier ++ [last]).map note) (run site settings target name act s).2 ∧
      (run site settings target name act s).1 = result target name last :=
  retrying_trace note hact _ _ target name 0 _ s

end Retry

end FaultDrill
