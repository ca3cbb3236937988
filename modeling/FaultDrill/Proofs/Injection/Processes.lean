import FaultDrill.Machine.Controller
import FaultDrill.Proofs.Injection.Calls
import FaultDrill.Proofs.Injection.Healing
import Mathlib.Data.Set.Insert

/-!
# FaultDrill.Proofs.Injection.Processes

**Which stopped processes the ledger knows** (`stopped_recorded_or_strayed`). The ledger has the
paused targets under their names, and a signal goes to the process that the name stands for at that
moment. Pausing enters the process that it has stopped, and an entry goes when its process has been
resumed or is gone; so whatever was stopped is in the ledger (`Recorded`). There is one way out of
it: a target that is killed loses its entry, even if its name has come to stand for another process
than the one that was paused (`Strays`). That process stays stopped, and nothing knows of it any
more (`kill_strays`), until it is paused once more (`Strayed`).
-/

namespace FaultDrill

variable {σ : Type}

/-- The stopped processes of a site as its operations show them. A signal is delivered if it
succeeds; one that fails or runs out of time has had no effect. Only the stop signal stops a
process, and only the process that it is sent to. A process may die at any time, and one that is
found dead, or gone, or that has been resumed, is not stopped any more. -/
structure ProcessView (site : Site σ) where
  /-- The processes that have been stopped and since then have neither been resumed nor died. -/
  stopped : σ → Set UInt32
  sleep : ∀ n s, stopped (site.sleep n s) ⊆ stopped s
  read : ∀ path s, stopped (site.read path s).2 ⊆ stopped s
  isAlive : ∀ pid s, stopped (site.isAlive pid s).2 ⊆ stopped s
  network : ∀ t, site.NetworkKeeps fun s => stopped s ⊆ t
  files : ∀ t, site.FileKeeps fun s => stopped s ⊆ t
  dead : ∀ pid s, (site.isAlive pid s).1 = false → pid ∉ stopped (site.isAlive pid s).2
  failed : ∀ deadline pid g s, (site.signal deadline pid g s).1 ≠ some (.ok ()) →
    stopped (site.signal deadline pid g s).2 ⊆ stopped s
  gone : ∀ deadline pid g s pid', (site.signal deadline pid g s).1 =
    some (.error (.processGone pid')) → pid ∉ stopped (site.signal deadline pid g s).2
  stop_subset : ∀ deadline pid s,
    stopped (site.signal deadline pid .stop s).2 ⊆ insert pid (stopped s)
  kill_subset : ∀ deadline pid s, stopped (site.signal deadline pid .kill s).2 ⊆ stopped s
  resume_subset : ∀ deadline pid s, stopped (site.signal deadline pid .resume s).2 ⊆ stopped s
  resume_ok : ∀ deadline pid s, (site.signal deadline pid .resume s).1 = some (.ok ()) →
    pid ∉ stopped (site.signal deadline pid .resume s).2

/-! ### The processes of a machine -/

namespace Machine

/-- The processes of a machine that are stopped. -/
def stopped (m : Machine) : Set UInt32 :=
  {pid | m.process? pid = some .stopped}

theorem process?_signal (deadline : Nat) (pid : UInt32) (g : Signal) (m : Machine) (pid' : UInt32) :
    (signal deadline pid g m).2.process? pid' =
      if pid' = pid then (m.process? pid).map (afterSignal g) else m.process? pid' := by
  unfold signal
  cases hcontroller : m.controller with
  | simulated alive failures survivors failing =>
      dsimp only
      split
      · unfold simulatedCall
        cases failures with
        | zero => grind [process?, record]
        | succ failures => grind [process?, record]
      · simp [process?, hcontroller]
  | scripted script alive =>
      dsimp only
      unfold scriptedCall
      grind [process?, record]
  | machine processes partitionCommand healCommand =>
      dsimp only
      cases hstate : processes.get? pid with
      | none => grind [process?]
      | some state =>
          by_cases hpid : pid' = pid
          · subst hpid
            simp [process?, hcontroller, hstate, SortedMap.get?_insert_self]
          · have hne : compare pid' pid ≠ .eq := fun heq => hpid (Std.LawfulEqOrd.eq_of_compare heq)
            simp [process?, hcontroller, hpid, processes.get?_insert_of_ne _ hne]

theorem signal_of_process? {deadline : Nat} {pid : UInt32} {g : Signal} {m : Machine}
    {state : ProcessState} (h : m.process? pid = some state) :
    (signal deadline pid g m).1 = some (.ok ()) := by
  unfold process? at h
  unfold signal
  cases hcontroller : m.controller with
  | simulated alive failures survivors failing => rw [hcontroller] at h; cases h
  | scripted script alive => rw [hcontroller] at h; cases h
  | machine processes partitionCommand healCommand =>
      rw [hcontroller] at h
      dsimp only at h ⊢
      rw [h]

theorem process?_isAlive (pid : UInt32) (m : Machine) (pid' : UInt32) :
    (isAlive pid m).2.process? pid' = m.process? pid' := by
  unfold isAlive
  split
  · rfl
  · next hcontroller => simp [process?, hcontroller]
  · rfl

theorem process?_of_isAlive {pid : UInt32} {m : Machine} (h : (isAlive pid m).1 = false) :
    m.process? pid ≠ some .stopped := by
  unfold isAlive at h
  unfold process?
  split at h
  · next hcontroller => simp [hcontroller]
  · next hcontroller => simp [hcontroller]
  · next processes _ _ hcontroller =>
    intro hstopped
    rw [hcontroller] at hstopped
    dsimp only at hstopped h
    rw [hstopped] at h
    cases h

theorem controller_runTemplate (m : Machine) (deadline : Nat) (action template : String)
    (target peer : Endpoint) :
    (runTemplate m deadline action template target peer).2.controller = m.controller := by
  unfold runTemplate
  dsimp only
  split
  · rfl
  · split
    · rfl
    · rfl
    · rfl

theorem process?_network (call action : String) (template : String → String → String)
    (deadline : Nat) (target peer : Endpoint) (m : Machine) (pid : UInt32) :
    (network call action template deadline target peer m).2.process? pid = m.process? pid := by
  unfold network
  cases hcontroller : m.controller with
  | simulated alive failures survivors failing =>
      dsimp only
      unfold simulatedCall
      grind [process?, record]
  | scripted script alive =>
      dsimp only
      unfold scriptedCall
      grind [process?, record]
  | machine processes partitionCommand healCommand =>
      unfold process?
      rw [controller_runTemplate, hcontroller]

theorem process?_write (path : String) (content : Bytes) (m : Machine) (pid : UInt32) :
    (m.write path content).2.process? pid = m.process? pid := by
  unfold write
  split
  · rfl
  · rfl

/-- The processes of a machine. -/
def processView : ProcessView site where
  stopped := stopped
  sleep _ _ := subset_rfl
  read _ _ := subset_rfl
  isAlive pid m pid' h := (process?_isAlive pid m pid').symm.trans h
  network t :=
    ⟨fun _ _ h => h, fun _ _ _ m h pid hpid => h ((process?_network ..).symm.trans hpid),
      fun _ _ _ m h pid hpid => h ((process?_network ..).symm.trans hpid)⟩
  files t :=
    ⟨fun _ _ _ h => h, fun _ _ _ h => h, fun _ path content m h pid hpid =>
      h ((process?_write path content m pid).symm.trans hpid), fun path content m h pid hpid =>
      h ((process?_write path content m pid).symm.trans hpid)⟩
  dead pid m h hstopped := process?_of_isAlive h ((process?_isAlive pid m pid).symm.trans hstopped)
  failed deadline pid g m h pid' hstopped := by
    have hafter : _ = _ := (process?_signal deadline pid g m pid').symm.trans hstopped
    split at hafter
    · obtain ⟨state, hstate, -⟩ := Option.map_eq_some_iff.1 hafter
      exact absurd (signal_of_process? hstate) h
    · exact hafter
  gone deadline pid g m pid' h hstopped := by
    have hafter : _ = _ := (process?_signal deadline pid g m pid).symm.trans hstopped
    rw [if_pos rfl] at hafter
    obtain ⟨state, hstate, -⟩ := Option.map_eq_some_iff.1 hafter
    cases h.symm.trans (signal_of_process? hstate)
  stop_subset deadline pid m pid' hstopped := by
    have hafter : _ = _ := (process?_signal deadline pid .stop m pid').symm.trans hstopped
    split at hafter
    · next hpid => exact .inl hpid
    · exact .inr hafter
  kill_subset deadline pid m pid' hstopped := by
    have hafter : _ = _ := (process?_signal deadline pid .kill m pid').symm.trans hstopped
    split at hafter
    · obtain ⟨state, -, hzombie⟩ := Option.map_eq_some_iff.1 hafter
      cases state <;> cases hzombie
    · exact hafter
  resume_subset deadline pid m pid' hstopped := by
    have hafter : _ = _ := (process?_signal deadline pid .resume m pid').symm.trans hstopped
    split at hafter
    · obtain ⟨state, -, hrunning⟩ := Option.map_eq_some_iff.1 hafter
      cases state <;> cases hrunning
    · exact hafter
  resume_ok deadline pid m _ hstopped := by
    have hafter : _ = _ := (process?_signal deadline pid .resume m pid).symm.trans hstopped
    rw [if_pos rfl] at hafter
    obtain ⟨state, -, hrunning⟩ := Option.map_eq_some_iff.1 hafter
    cases state <;> cases hrunning

end Machine

namespace ProcessView

open Injector

variable {site : Site σ} (view : ProcessView site)

/-! ### Signals -/

/-- A signal that is sent with retries stops no process that the signal itself does not stop. -/
theorem signal_subset {g : Signal} (j : Injector) (target name : String) (pid : UInt32) (s : σ)
    (hg : ∀ deadline s, view.stopped (site.signal deadline pid g s).2 ⊆ view.stopped s) :
    view.stopped (signal site j target name pid g s).2 ⊆ view.stopped s :=
  Retry.run_keeps (Q := fun s₁ => view.stopped s₁ ⊆ view.stopped s)
    (fun n s₁ h => (view.sleep n s₁).trans h) (fun deadline s₁ h => (hg deadline s₁).trans h)
    j.settings target name subset_rfl

theorem signal_stop (j : Injector) (target name : String) (pid : UInt32) (s : σ) :
    (∃ s', signal site j target name pid .stop s = (.ok (), s') ∧
      view.stopped s' ⊆ insert pid (view.stopped s)) ∨
    ∃ e s', signal site j target name pid .stop s = (.error e, s') ∧
      view.stopped s' ⊆ view.stopped s := by
  rcases Retry.run_cases (Q := fun s₁ => view.stopped s₁ ⊆ view.stopped s)
      (fun n s₁ h => (view.sleep n s₁).trans h)
      (fun deadline s₁ h hne => (view.failed deadline pid .stop s₁ hne).trans h) j.settings target
      name subset_rfl with ⟨deadline, s₁, h, -, heq⟩ | ⟨e, s₁, h, heq⟩
  · exact .inl ⟨_, heq, (view.stop_subset deadline pid s₁).trans (Set.insert_subset_insert h)⟩
  · exact .inr ⟨e, s₁, heq, h⟩

/-- A process that has been resumed, or cannot be since it is gone, is not stopped. -/
theorem signal_resume (j : Injector) (target name : String) (pid : UInt32) {s s' : σ}
    (h : signal site j target name pid .resume s = (.ok (), s') ∨
      ∃ pid', signal site j target name pid .resume s = (.error (.processGone pid'), s')) :
    pid ∉ view.stopped s' := by
  rcases h with h | ⟨pid', h⟩
  · rcases Retry.run_cases (Q := fun _ => True)
        (fun _ _ _ => trivial) (fun _ _ _ _ => trivial) j.settings target name trivial with
      ⟨deadline, s₁, -, hok, heq⟩ | ⟨e, s₁, -, heq⟩
    · obtain ⟨-, rfl⟩ := Prod.mk.inj (h.symm.trans heq)
      exact view.resume_ok deadline pid s₁ hok
    · cases h.symm.trans heq
  · obtain ⟨deadline, s₁, -, hact⟩ := Retry.run_processGone (Q := fun _ => True)
      (fun _ _ _ => trivial) (fun _ _ _ _ => trivial) trivial h
    have hgone := view.gone deadline pid .resume s₁ pid' (by rw [hact])
    rwa [hact] at hgone

theorem awaitDeath_spec (poll deadline : Nat) (pid : UInt32) (s : σ) :
    view.stopped (awaitDeath site poll deadline pid s).2 ⊆ view.stopped s ∧
      ((awaitDeath site poll deadline pid s).1 = true →
        pid ∉ view.stopped (awaitDeath site poll deadline pid s).2) := by
  induction s using awaitDeath.induct site poll deadline pid with
  | case1 s seen halive hlate =>
      unfold awaitDeath
      rw [if_pos halive, dif_pos hlate]
      exact ⟨view.isAlive pid s, fun h => by cases h⟩
  | case2 s seen halive hearly ih =>
      unfold awaitDeath
      rw [if_pos halive, dif_neg hearly]
      exact ⟨ih.1.trans ((view.sleep _ _).trans (view.isAlive pid s)), ih.2⟩
  | case3 s seen hdead =>
      unfold awaitDeath
      rw [if_neg hdead]
      exact ⟨view.isAlive pid s, fun _ => view.dead pid s (Bool.not_eq_true _ ▸ hdead)⟩

theorem killOutcome_spec {sent : Except InjectionError Unit × σ} {death : σ → Bool × σ}
    (survivor : InjectionError) {pid : UInt32} {s : σ}
    (hdeath : ∀ s₁, view.stopped (death s₁).2 ⊆ view.stopped s₁ ∧
      ((death s₁).1 = true → pid ∉ view.stopped (death s₁).2))
    (hsent : view.stopped sent.2 ⊆ view.stopped s)
    (hgone : ∀ pid', sent.1 = .error (.processGone pid') → pid ∉ view.stopped sent.2) :
    view.stopped (killOutcome survivor death sent).2 ⊆ view.stopped s ∧
      ((killOutcome survivor death sent).1 = .ok () →
        pid ∉ view.stopped (killOutcome survivor death sent).2) := by
  unfold killOutcome
  split
  · next s₁ =>
    obtain ⟨hsubset, hdied⟩ := hdeath s₁
    split
    · next heq =>
      rw [heq] at hsubset hdied
      exact ⟨hsubset.trans hsent, fun _ => hdied rfl⟩
    · next heq =>
      rw [heq] at hsubset
      exact ⟨hsubset.trans hsent, fun h => by cases h⟩
  · next pid' s₁ => exact ⟨hsent, fun _ => hgone pid' rfl⟩
  · exact ⟨hsent, fun h => by cases h⟩

/-- A kill that succeeds has been the end of its process. -/
theorem killProcess_spec (j : Injector) (target : String) (pid : UInt32) (s : σ) :
    view.stopped (killProcess site j target pid s).2 ⊆ view.stopped s ∧
      ((killProcess site j target pid s).1 = .ok () →
        pid ∉ view.stopped (killProcess site j target pid s).2) := by
  refine view.killOutcome_spec (survivor j target pid) (fun s₁ => view.awaitDeath_spec _ _ pid s₁)
    (view.signal_subset j target "kill" pid s fun deadline => view.kill_subset deadline pid)
    fun pid' herror => ?_
  obtain ⟨deadline, s₁, -, hact⟩ := Retry.run_processGone (Q := fun _ => True)
    (fun _ _ _ => trivial) (fun _ _ _ _ => trivial) trivial (Prod.ext herror rfl)
  have hgone := view.gone deadline pid .kill s₁ pid' (by rw [hact])
  rwa [hact] at hgone

theorem resolvePid_subset (j : Injector) (target : String) (s : σ) :
    view.stopped (resolvePid site j target s).2 ⊆ view.stopped s := by
  unfold resolvePid
  split
  · exact subset_rfl
  · exact subset_rfl
  · exact view.read _ s

/-! ### The invariant -/

/-- Every stopped process is in one of the entries or is lost. -/
def Recorded (lost : Set UInt32) (entries : List (String × UInt32)) (s : σ) : Prop :=
  ∀ pid ∈ view.stopped s, pid ∈ lost ∨ ∃ name, (name, pid) ∈ entries

/-- An event takes the entry of a process away although it has killed another one: the ledger holds
the process for the target, the name of the target stands for another process by now, and killing
that one succeeds. A kill that fails leaves the entry where it is. -/
structure Strays (site : Site σ) (j : Injector) (s : σ) (e : Event) (pid : UInt32) : Prop where
  kill : e.fault = .kill
  held : j.ledger.paused.get? e.target = some pid
  other : ∃ other, (resolvePid site j e.target s).1 = .ok other ∧ other ≠ pid
  succeeds : ∃ record, (inject site j e s).1 = .ok record

/-- A process is stopped, and the ledger does not have it. -/
def Astray (j : Injector) (s : σ) (pid : UInt32) : Prop :=
  pid ∈ view.stopped s ∧ ∀ name, j.ledger.paused.get? name ≠ some pid

/-- One of the calls has taken the entry of a process away although it has killed another one, and
since then the process has been stopped and in no entry, after each of the calls. -/
def Strayed (j : Injector) (s : σ) (calls : List Call) (pid : UInt32) : Prop :=
  ∃ earlier e later, calls = earlier ++ .inject e :: later ∧
    Strays site (performAll site j s earlier).1 (performAll site j s earlier).2 e pid ∧
    ∀ more, more <+: later →
      let after := performAll site j s (earlier ++ .inject e :: more)
      view.Astray after.1 after.2 pid

variable {view} {lost lost' : Set UInt32} {entries : List (String × UInt32)} {j : Injector}
  {s s' : σ}

theorem Recorded.perm {l l' : List (String × UInt32)} (hperm : l.Perm l')
    (h : view.Recorded lost l s) : view.Recorded lost l' s := fun pid hpid =>
  (h pid hpid).imp_right fun ⟨name, hmem⟩ => ⟨name, hperm.mem_iff.1 hmem⟩

theorem Recorded.of_subset (h : view.Recorded lost entries s)
    (hsubset : view.stopped s' ⊆ view.stopped s) : view.Recorded lost entries s' :=
  fun pid hpid => h pid (hsubset hpid)

theorem Recorded.mono (h : view.Recorded lost entries s) (hlost : lost ⊆ lost') :
    view.Recorded lost' entries s :=
  fun pid hpid => (h pid hpid).imp_left fun hmem => hlost hmem

/-- An entry whose process is not stopped any more may be dropped. -/
theorem Recorded.drop {entry : String × UInt32} (h : view.Recorded lost (entry :: entries) s)
    (hsubset : view.stopped s' ⊆ view.stopped s) (hpid : entry.2 ∉ view.stopped s') :
    view.Recorded lost entries s' := by
  intro pid hstopped
  rcases h pid (hsubset hstopped) with hlost | ⟨name, hmem⟩
  · exact .inl hlost
  · rcases List.mem_cons.1 hmem with rfl | hmem
    · exact absurd hstopped hpid
    · exact .inr ⟨name, hmem⟩

/-! ### Events -/

theorem recorded_pause (h : view.Recorded lost j.ledger.paused.toList s) (target : String) :
    view.Recorded lost (pause site j target s).2.1.ledger.paused.toList
      (pause site j target s).2.2 := by
  have hresolved := view.resolvePid_subset j target s
  generalize hpause : pause site j target s = yielded
  cases pause_cases hpause with
  | held => exact h
  | unresolved _ hresolve =>
      rw [hresolve] at hresolved
      exact h.of_subset hresolved
  | @failed _ s₁ _ pid _ hresolve hsignal =>
      rw [hresolve] at hresolved
      rcases view.signal_stop j target "pause" pid s₁ with ⟨s₃, hok, -⟩ | ⟨e, s₃, herror, hsame⟩
      · cases hsignal.symm.trans hok
      · cases hsignal.symm.trans herror
        exact h.of_subset (hsame.trans hresolved)
  | @paused s₁ _ pid hnew hresolve hsignal =>
      rw [hresolve] at hresolved
      rcases view.signal_stop j target "pause" pid s₁ with ⟨s₃, hok, hstop⟩ | ⟨e, s₃, herror, -⟩
      · cases hsignal.symm.trans hok
        -- the process that is new among the stopped ones is the one of the new entry
        refine Recorded.perm (SortedMap.perm_insert pid hnew).symm fun pid' hstopped => ?_
        rcases hstop hstopped with rfl | hold
        · exact .inr ⟨target, List.mem_cons_self⟩
        · rcases h pid' (hresolved hold) with hlost | ⟨name, hmem⟩
          · exact .inl hlost
          · exact .inr ⟨name, List.mem_cons_of_mem _ hmem⟩
      · cases hsignal.symm.trans herror

/-- Erasing a target from the ledger loses at most the process of its entry. -/
theorem Recorded.erase {paused : SortedMap String UInt32}
    (h : view.Recorded lost paused.toList s) (target : String)
    (hsubset : view.stopped s' ⊆ view.stopped s)
    (hentry : ∀ pid ∈ view.stopped s', paused.get? target = some pid → pid ∈ lost) :
    view.Recorded lost (paused.erase target).toList s' := by
  intro pid hstopped
  rcases h pid (hsubset hstopped) with hlost | ⟨name, hmem⟩
  · exact .inl hlost
  · by_cases hname : name = target
    · subst hname
      exact .inl (hentry pid hstopped (SortedMap.get?_eq_some_iff.2 hmem))
    · exact .inr ⟨name, SortedMap.mem_toList_erase.2 ⟨hmem, hname⟩⟩

theorem recorded_resume (h : view.Recorded lost j.ledger.paused.toList s) (target : String) :
    view.Recorded lost (resume site j target s).2.1.ledger.paused.toList
      (resume site j target s).2.2 := by
  have hsubset := fun pid => view.signal_subset j target "resume" pid s fun deadline =>
    view.resume_subset deadline pid
  generalize hresume : resume site j target s = yielded
  cases resume_cases hresume with
  | running => exact h
  | failed pid _ hsignal =>
      replace hsubset := hsubset pid
      rw [hsignal] at hsubset
      exact h.of_subset hsubset
  | resumed pid hpid hsignal =>
      replace hsubset := hsubset pid
      rw [hsignal] at hsubset
      refine h.erase target hsubset fun pid' hstopped hget => ?_
      obtain rfl := Option.some.inj (hpid.symm.trans hget)
      exact absurd hstopped (view.signal_resume j target "resume" pid (.inl hsignal))

/-- A kill loses at most a process that strays. -/
theorem recorded_kill (h : view.Recorded lost j.ledger.paused.toList s) {e : Event}
    (hkill : e.fault = .kill) : view.Recorded (lost ∪ {pid | Strays site j s e pid})
      (inject site j e s).2.1.ledger.paused.toList (inject site j e s).2.2 := by
  replace h := h.mono (Set.subset_union_left (t := {pid | Strays site j s e pid}))
  have hresolved := view.resolvePid_subset j e.target s
  have hinject : inject site j e s = kill site j e.target s := by
    unfold inject
    rw [hkill]
  generalize hgone : inject site j e s = yielded
  cases kill_cases (hinject.symm.trans hgone) with
  | unresolved hresolve =>
      rw [hresolve] at hresolved
      exact h.of_subset hresolved
  | @failed _ s₁ _ other hresolve hfailed =>
      obtain ⟨hsubset, -⟩ := view.killProcess_spec j e.target other s₁
      rw [hresolve] at hresolved
      rw [hfailed] at hsubset
      exact h.of_subset (hsubset.trans hresolved)
  | @killed s₁ s₂ other hresolve hkilled =>
      obtain ⟨hsubset, hdied⟩ := view.killProcess_spec j e.target other s₁
      rw [hresolve] at hresolved
      rw [hkilled] at hsubset hdied
      refine h.erase e.target (hsubset.trans hresolved) fun pid hstopped hget => ?_
      -- the process that was killed is dead, so the entry is that of another one
      have hne : other ≠ pid := fun heq => hdied rfl (heq ▸ hstopped)
      exact .inr ⟨hkill, hget, ⟨other, by rw [hresolve], hne⟩, ⟨{}, by rw [hgone]⟩⟩

theorem recorded_inject (h : view.Recorded lost j.ledger.paused.toList s) (e : Event) :
    view.Recorded (lost ∪ {pid | Strays site j s e pid})
      (inject site j e s).2.1.ledger.paused.toList (inject site j e s).2.2 := by
  have hmono := h.mono (Set.subset_union_left (t := {pid | Strays site j s e pid}))
  obtain ⟨checkpoint, target, fault⟩ := e
  cases fault with
  | kill => exact recorded_kill h rfl
  | pause => exact recorded_pause hmono target
  | resume => exact recorded_resume hmono target
  | delay duration =>
      rw [inject_delay rfl]
      exact hmono
  | partition peers =>
      obtain ⟨hsubset, partitions, heq⟩ :=
        partition_keeps (view.network (view.stopped s)) j target peers subset_rfl
      show view.Recorded _ (partition site j target peers s).2.1.ledger.paused.toList _
      rw [heq]
      exact hmono.of_subset hsubset
  | corrupt c =>
      obtain ⟨hsubset, corrupted, heq⟩ :=
        damage_keeps (view.files (view.stopped s)) j target c subset_rfl
      show view.Recorded _ (damage site j target c s).2.1.ledger.paused.toList _
      rw [heq]
      exact hmono.of_subset hsubset

/-! ### Healing -/

theorem undoPause_subset (view : ProcessView site) (j : Injector) (entry : String × UInt32)
    (s : σ) :
    view.stopped (undoPause site j entry s).2 ⊆ view.stopped s := by
  have hsubset := view.signal_subset j entry.1 "resume" entry.2 s fun deadline =>
    view.resume_subset deadline entry.2
  unfold undoPause
  split
  · next heq => rw [heq] at hsubset; exact hsubset
  · next heq => rw [heq] at hsubset; exact hsubset
  · next heq => rw [heq] at hsubset; exact hsubset

/-- A pause that is undone has left its process running or dead. -/
theorem undoPause_none (view : ProcessView site) {entry : String × UInt32}
    (h : undoPause site j entry s = (none, s')) : entry.2 ∉ view.stopped s' := by
  unfold undoPause at h
  split at h
  · next s₁ heq =>
    obtain ⟨-, rfl⟩ := Prod.mk.inj h
    exact view.signal_resume j entry.1 "resume" entry.2 (.inl heq)
  · next pid s₁ heq =>
    obtain ⟨-, rfl⟩ := Prod.mk.inj h
    exact view.signal_resume j entry.1 "resume" entry.2 (.inr ⟨pid, heq⟩)
  · cases h

/-- Restoring connections and files stops no process. -/
theorem undoneDamage_subset (view : ProcessView site) (j : Injector) (s : σ) :
    view.stopped (undoneDamage site j s).2 ⊆ view.stopped (undonePauses site j s).2 := by
  have hnetwork := view.network (view.stopped (undonePauses site j s).2)
  have hfiles := view.files (view.stopped (undonePauses site j s).2)
  have hpartitions : view.stopped (undonePartitions site j s).2 ⊆
      view.stopped (undonePauses site j s).2 :=
    undoAll_keeps (Q := fun s₁ => view.stopped s₁ ⊆ view.stopped (undonePauses site j s).2)
      (fun entry _ => undoPartition_keeps hnetwork j entry) _ subset_rfl
  exact undoAll_keeps (Q := fun s₁ => view.stopped s₁ ⊆ view.stopped (undonePauses site j s).2)
    (fun entry _ => undoDamage_keeps hfiles entry) _ hpartitions

theorem recorded_healAll (h : view.Recorded lost j.ledger.paused.toList s) :
    view.Recorded lost (healAll site j s).2.1.ledger.paused.toList (healAll site j s).2.2 := by
  have hpauses : view.Recorded lost ((undonePauses site j s).1.map (·.1))
      (undonePauses site j s).2 := by
    refine undoAll_invariant_self (P := view.Recorded lost) (fun _ _ _ => Recorded.perm) ?_ ?_ h
    · intro entry kept s s' hundo hrec
      have hsubset := view.undoPause_subset j entry s
      rw [hundo] at hsubset
      exact hrec.drop hsubset (view.undoPause_none hundo)
    · intro entry kept s message s' hundo hrec
      have hsubset := view.undoPause_subset j entry s
      rw [hundo] at hsubset
      exact hrec.of_subset hsubset
  have hothers := view.undoneDamage_subset j s
  rw [paused_healAll, state_healAll]
  exact hpauses.of_subset hothers

/-! ### Runs -/

theorem recorded_perform (h : view.Recorded lost j.ledger.paused.toList s) (c : Call) :
    view.Recorded (lost ∪ {pid | ∃ e, c = .inject e ∧ Strays site j s e pid})
      (perform site j s c).1.ledger.paused.toList (perform site j s c).2 := by
  cases c with
  | register name pid => exact h.mono Set.subset_union_left
  | inject e =>
      refine (recorded_inject h e).mono (Set.union_subset_union_right lost fun pid hstrays => ?_)
      exact ⟨e, rfl, hstrays⟩
  | heal => exact (recorded_healAll h).mono Set.subset_union_left
  | reset => exact h.mono Set.subset_union_left

theorem astray_or_held (view : ProcessView site) (j : Injector) {s : σ} {pid : UInt32}
    (hstopped : pid ∈ view.stopped s) :
    view.Astray j s pid ∨ ∃ name, j.ledger.paused.get? name = some pid := by
  by_cases hheld : ∃ name, j.ledger.paused.get? name = some pid
  · exact .inr hheld
  · exact .inl ⟨hstopped, not_exists.1 hheld⟩

/-- Whatever is stopped and not astray is in the ledger. -/
theorem recorded_astray (view : ProcessView site) (j : Injector) (s : σ) :
    view.Recorded {pid | view.Astray j s pid} j.ledger.paused.toList s := fun _ hstopped =>
  (view.astray_or_held j hstopped).imp_right fun ⟨name, hget⟩ =>
    ⟨name, SortedMap.get?_eq_some_iff.1 hget⟩

/-- A process that is astray after a call was so before, or strays in it. -/
theorem astray_of_perform {c : Call} {pid : UInt32}
    (h : view.Astray (perform site j s c).1 (perform site j s c).2 pid) :
    view.Astray j s pid ∨ ∃ e, c = .inject e ∧ Strays site j s e pid := by
  obtain ⟨hstopped, hnone⟩ := h
  rcases recorded_perform (view.recorded_astray j s) c pid hstopped with hlost | ⟨name, hmem⟩
  · exact hlost
  · exact absurd (SortedMap.get?_eq_some_iff.2 hmem) (hnone name)

theorem Strayed.of_tail {c : Call} {rest : List Call} {pid : UInt32}
    (h : view.Strayed (perform site j s c).1 (perform site j s c).2 rest pid) :
    view.Strayed j s (c :: rest) pid := by
  obtain ⟨earlier, e, later, rfl, hstrays, hsince⟩ := h
  exact ⟨c :: earlier, e, later, rfl, hstrays, hsince⟩

/-- A process that is astray after some calls was so before each of them, or has strayed in one of
them. -/
theorem astray_of_performAll {calls : List Call} {pid : UInt32}
    (h : view.Astray (performAll site j s calls).1 (performAll site j s calls).2 pid) :
    (∀ more, more <+: calls →
      view.Astray (performAll site j s more).1 (performAll site j s more).2 pid) ∨
    view.Strayed j s calls pid := by
  induction calls generalizing j s with
  | nil =>
      refine .inl fun more hmore => ?_
      obtain rfl := List.prefix_nil.1 hmore
      exact h
  | cons c rest ih =>
      rcases ih h with hsince | hstrayed
      · -- it is astray from the first of the calls on, so that one is what is looked at
        rcases astray_of_perform (hsince [] List.nil_prefix) with hbefore | ⟨e, rfl, hstrays⟩
        · refine .inl fun more hmore => ?_
          rcases List.prefix_cons_iff.1 hmore with rfl | ⟨more', rfl, hmore'⟩
          · exact hbefore
          · exact hsince more' hmore'
        · exact .inr ⟨[], e, rest, rfl, hstrays, hsince⟩
      · exact .inr (.of_tail hstrayed)

/-- Where no process was stopped before the calls, one that is astray has strayed in one of them. -/
theorem strayed_of_astray {calls : List Call} {pid : UInt32} (hstart : view.stopped s = ∅)
    (h : view.Astray (performAll site j s calls).1 (performAll site j s calls).2 pid) :
    view.Strayed j s calls pid := by
  refine (astray_of_performAll h).resolve_left fun hsince => ?_
  have hstopped := (hsince [] List.nil_prefix).1
  exact Set.notMem_empty pid (hstart ▸ hstopped)

/-- **Which stopped processes the ledger knows.** Whatever calls an injector has had on a site where
no process was stopped, each stopped process is in the ledger, or a kill has taken its entry away
that went to another process of the same name, and it has not been paused since. So if healing has
no failures, what is still stopped after it are processes that have strayed in this way. -/
theorem stopped_recorded_or_strayed {settings : InjectorSettings} {s₀ : σ} {calls : List Call}
    (hstart : view.stopped s₀ = ∅) (hrun : performAll site (.new settings) s₀ calls = (j, s)) :
    (∀ pid ∈ view.stopped s, (∃ name, j.ledger.paused.get? name = some pid) ∨
      view.Strayed (.new settings) s₀ calls pid) ∧
    ((j.healAll site s).1 = [] → ∀ pid ∈ view.stopped (j.healAll site s).2.2,
      view.Strayed (.new settings) s₀ calls pid) := by
  have hstrayed : ∀ pid, view.Astray j s pid → view.Strayed (.new settings) s₀ calls pid := by
    intro pid hastray
    refine strayed_of_astray hstart ?_
    rwa [hrun]
  refine ⟨fun pid hpid => ?_, fun hnil pid hpid => ?_⟩
  · exact (view.astray_or_held j hpid).symm.imp_right (hstrayed pid)
  · have hhealed := recorded_healAll (view.recorded_astray j s)
    rw [paused_healAll, (healAll_eq_nil_iff.1 hnil).1] at hhealed
    rcases hhealed pid hpid with hlost | ⟨name, hmem⟩
    · exact hstrayed pid hlost
    · cases hmem

/-- A target whose process is 10. -/
def leaderSettings : InjectorSettings :=
  { (default : InjectorSettings) with targets := [{ name := "leader", pid := some 10 }] }

/-- A machine with three processes. -/
def threeProcesses : Machine where
  controller := .machine (.ofList [(10, .sleeping), (11, .sleeping), (12, .sleeping)]) "" ""

/-- The target is paused, gets a new process, and is killed. -/
def strayCalls : List Call :=
  [.inject ⟨"1", "leader", .pause⟩, .register "leader" 11, .inject ⟨"2", "leader", .kill⟩]

/-- The injector and the machine after that. -/
def strayRun : Injector × Machine :=
  performAll Machine.site (.new leaderSettings) threeProcesses strayCalls

/-- Process 10 is stopped, the ledger knows nothing of it, and healing has no failures and leaves it
stopped. -/
theorem kill_strays : 10 ∈ Machine.processView.stopped strayRun.2 ∧
    (∀ name, strayRun.1.ledger.paused.get? name ≠ some 10) ∧
    (strayRun.1.healAll Machine.site strayRun.2).1 = [] ∧
    10 ∈ Machine.processView.stopped (strayRun.1.healAll Machine.site strayRun.2).2.2 := by
  have hstopped : strayRun.2.process? 10 = some .stopped := by decide +kernel
  have hledger : strayRun.1.ledger.paused = .empty := by decide +kernel
  have hhealed : (strayRun.1.healAll Machine.site strayRun.2).2.2.process? 10 = some .stopped := by
    decide +kernel
  refine ⟨hstopped, fun name => ?_, by decide +kernel, hhealed⟩
  rw [hledger, SortedMap.get?_empty]
  exact fun h => by cases h

/-- The same calls, after which the target gets another process and is paused again. -/
def strayAgain : Injector × Machine :=
  performAll Machine.site (.new leaderSettings) threeProcesses
    (strayCalls ++ [.register "leader" 12, .inject ⟨"3", "leader", .pause⟩])

/-- Process 12 is in the ledger or has strayed, and process 10 has strayed. -/
theorem stopped_recorded_or_strayed_leader :
    ((∃ name, strayAgain.1.ledger.paused.get? name = some 12) ∨
      Machine.processView.Strayed (.new leaderSettings) threeProcesses
        (strayCalls ++ [.register "leader" 12, .inject ⟨"3", "leader", .pause⟩]) 12) ∧
    Machine.processView.Strayed (.new leaderSettings) threeProcesses
      (strayCalls ++ [.register "leader" 12, .inject ⟨"3", "leader", .pause⟩]) 10 := by
  have hstart : Machine.processView.stopped threeProcesses = ∅ := by
    refine Set.eq_empty_of_forall_notMem fun pid hpid => ?_
    have hmem := SortedMap.mem_of_mem_ofList (SortedMap.get?_eq_some_iff.1 hpid)
    simp at hmem
  have hpaused : strayAgain.2.process? 12 = some .stopped := by decide +kernel
  have hhealed : (strayAgain.1.healAll Machine.site strayAgain.2).2.2.process? 10 =
      some .stopped := by
    decide +kernel
  obtain ⟨hnow, hlater⟩ := stopped_recorded_or_strayed (j := strayAgain.1) (s := strayAgain.2)
    hstart rfl
  exact ⟨hnow 12 hpaused, hlater (by decide +kernel) 10 hhealed⟩

end ProcessView

end FaultDrill
