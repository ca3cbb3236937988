import FaultDrill.Proofs.Injection.Calls
import FaultDrill.Proofs.Injection.Retry

/-!
# FaultDrill.Proofs.Injection.Frame

What the operations of an injector leave alone. What holds of a site, and goes on to hold when
processes are worked on, holds after killing, pausing and resuming (`kill_keeps`), and so for the
network and for files (`partition_keeps`, `damage_keeps`). An observation of a site that such work
does not change at all is a case of this (`signal_fault_frame`). Of the ledger each operation changes one
part only: processes the paused targets, connections the partitions, damage the saved files; and an
injection changes nothing of the injector but its ledger (`inject_keeps`).
-/

namespace FaultDrill

variable {σ φ : Type}

/-! ### Frames -/

/-- Work on processes does not change what is observed of a site. -/
structure Site.ProcessFrame (site : Site σ) (view : σ → φ) : Prop where
  sleep : ∀ n s, view (site.sleep n s) = view s
  signal : ∀ deadline pid g s, view (site.signal deadline pid g s).2 = view s
  isAlive : ∀ pid s, view (site.isAlive pid s).2 = view s
  /-- The file of a target may say which process it is. -/
  read : ∀ path s, view (site.read path s).2 = view s

/-- Work on the network does not change what is observed of a site. -/
structure Site.NetworkFrame (site : Site σ) (view : σ → φ) : Prop where
  sleep : ∀ n s, view (site.sleep n s) = view s
  block : ∀ deadline a b s, view (site.block deadline a b s).2 = view s
  unblock : ∀ deadline a b s, view (site.unblock deadline a b s).2 = view s

/-- Work on files does not change what is observed of a site. -/
structure Site.FileFrame (site : Site σ) (view : σ → φ) : Prop where
  sizeBy : ∀ deadline path s, view (site.sizeBy deadline path s).2 = view s
  readBy : ∀ deadline path s, view (site.readBy deadline path s).2 = view s
  writeBy : ∀ deadline path content s, view (site.writeBy deadline path content s).2 = view s
  write : ∀ path content s, view (site.write path content s).2 = view s

/-- Work on processes keeps what holds of a site. -/
structure Site.ProcessKeeps (site : Site σ) (Q : σ → Prop) : Prop where
  sleep : ∀ n s, Q s → Q (site.sleep n s)
  signal : ∀ deadline pid g s, Q s → Q (site.signal deadline pid g s).2
  isAlive : ∀ pid s, Q s → Q (site.isAlive pid s).2
  read : ∀ path s, Q s → Q (site.read path s).2

/-- Work on the network keeps what holds of a site. -/
structure Site.NetworkKeeps (site : Site σ) (Q : σ → Prop) : Prop where
  sleep : ∀ n s, Q s → Q (site.sleep n s)
  block : ∀ deadline a b s, Q s → Q (site.block deadline a b s).2
  unblock : ∀ deadline a b s, Q s → Q (site.unblock deadline a b s).2

/-- Work on files keeps what holds of a site. -/
structure Site.FileKeeps (site : Site σ) (Q : σ → Prop) : Prop where
  sizeBy : ∀ deadline path s, Q s → Q (site.sizeBy deadline path s).2
  readBy : ∀ deadline path s, Q s → Q (site.readBy deadline path s).2
  writeBy : ∀ deadline path content s, Q s → Q (site.writeBy deadline path content s).2
  write : ∀ path content s, Q s → Q (site.write path content s).2

/-- Whatever is done to a site keeps what holds of it. -/
structure Site.Keeps (site : Site σ) (Q : σ → Prop) : Prop extends
  site.ProcessKeeps Q, site.NetworkKeeps Q, site.FileKeeps Q

theorem Site.keeps_true (site : Site σ) : site.Keeps fun _ => True where
  sleep _ _ _ := trivial
  signal _ _ _ _ _ := trivial
  isAlive _ _ _ := trivial
  read _ _ _ := trivial
  block _ _ _ _ _ := trivial
  unblock _ _ _ _ _ := trivial
  sizeBy _ _ _ _ := trivial
  readBy _ _ _ _ := trivial
  writeBy _ _ _ _ _ := trivial
  write _ _ _ _ := trivial

theorem Site.ProcessFrame.keeps {site : Site σ} {view : σ → φ} (h : site.ProcessFrame view)
    (v : φ) : site.ProcessKeeps fun s => view s = v where
  sleep n s := (h.sleep n s).trans
  signal deadline pid g s := (h.signal deadline pid g s).trans
  isAlive pid s := (h.isAlive pid s).trans
  read path s := (h.read path s).trans

theorem Site.NetworkFrame.keeps {site : Site σ} {view : σ → φ} (h : site.NetworkFrame view)
    (v : φ) : site.NetworkKeeps fun s => view s = v where
  sleep n s := (h.sleep n s).trans
  block deadline a b s := (h.block deadline a b s).trans
  unblock deadline a b s := (h.unblock deadline a b s).trans

theorem Site.FileFrame.keeps {site : Site σ} {view : σ → φ} (h : site.FileFrame view) (v : φ) :
    site.FileKeeps fun s => view s = v where
  sizeBy deadline path s := (h.sizeBy deadline path s).trans
  readBy deadline path s := (h.readBy deadline path s).trans
  writeBy deadline path content s := (h.writeBy deadline path content s).trans
  write path content s := (h.write path content s).trans

/-- Whether a fault is made of signals to a process. -/
def Fault.isSignal : Fault → Bool
  | .kill | .pause | .resume => true
  | .delay _ | .partition _ | .corrupt _ => false

namespace Injector

variable {site : Site σ} {view : σ → φ}

/-! ### Processes -/

section Processes

variable {Q : σ → Prop}

theorem killOutcome_keeps {sent : Except InjectionError Unit × σ} {death : σ → Bool × σ}
    (survivor : InjectionError) (hdeath : ∀ s, Q s → Q (death s).2) (hsent : Q sent.2) :
    Q (killOutcome survivor death sent).2 := by
  unfold killOutcome
  split
  · next s₁ =>
    have hafter := hdeath s₁ hsent
    split
    · next heq => rw [heq] at hafter; exact hafter
    · next heq => rw [heq] at hafter; exact hafter
  · exact hsent
  · exact hsent

variable (hQ : site.ProcessKeeps Q)

include hQ

theorem resolvePid_keeps (j : Injector) (target : String) {s : σ} (h : Q s) :
    Q (resolvePid site j target s).2 := by
  unfold resolvePid
  split
  · exact h
  · exact h
  · exact hQ.read _ s h

theorem signal_keeps (j : Injector) (target name : String) (pid : UInt32) (g : Signal) {s : σ}
    (h : Q s) : Q (signal site j target name pid g s).2 :=
  Retry.run_keeps hQ.sleep (fun deadline s₁ => hQ.signal deadline pid g s₁) _ _ _ h

theorem awaitDeath_keeps (poll deadline : Nat) (pid : UInt32) {s : σ} (h : Q s) :
    Q (awaitDeath site poll deadline pid s).2 := by
  induction s using awaitDeath.induct site poll deadline pid with
  | case1 s seen halive hlate =>
      unfold awaitDeath
      rw [if_pos halive, dif_pos hlate]
      exact hQ.isAlive pid s h
  | case2 s seen halive hearly ih =>
      unfold awaitDeath
      rw [if_pos halive, dif_neg hearly]
      exact ih (hQ.sleep _ _ (hQ.isAlive pid s h))
  | case3 s seen hdead =>
      unfold awaitDeath
      rw [if_neg hdead]
      exact hQ.isAlive pid s h

theorem watchDeath_keeps (j : Injector) (pid : UInt32) {s : σ} (h : Q s) :
    Q (watchDeath site j pid s).2 :=
  awaitDeath_keeps hQ _ _ pid h

theorem killProcess_keeps (j : Injector) (target : String) (pid : UInt32) {s : σ} (h : Q s) :
    Q (killProcess site j target pid s).2 :=
  killOutcome_keeps _ (fun _ => watchDeath_keeps hQ j pid)
    (signal_keeps hQ j target "kill" pid .kill h)

theorem kill_keeps (j : Injector) (target : String) {s : σ} (h : Q s) :
    Q (kill site j target s).2.2 ∧
      ∃ paused, (kill site j target s).2.1 = { j with ledger.paused := paused } := by
  have hresolved := resolvePid_keeps hQ j target h
  generalize hkill : kill site j target s = yielded
  cases kill_cases hkill with
  | unresolved hresolve =>
      rw [hresolve] at hresolved
      exact ⟨hresolved, j.ledger.paused, rfl⟩
  | failed pid hresolve hkilled | killed pid hresolve hkilled =>
      rw [hresolve] at hresolved
      have hlast := killProcess_keeps hQ j target pid hresolved
      rw [hkilled] at hlast
      exact ⟨hlast, _, rfl⟩

theorem pause_keeps (j : Injector) (target : String) {s : σ} (h : Q s) :
    Q (pause site j target s).2.2 ∧
      ∃ paused, (pause site j target s).2.1 = { j with ledger.paused := paused } := by
  have hresolved := resolvePid_keeps hQ j target h
  generalize hpause : pause site j target s = yielded
  cases pause_cases hpause with
  | held => exact ⟨h, j.ledger.paused, rfl⟩
  | unresolved _ hresolve =>
      rw [hresolve] at hresolved
      exact ⟨hresolved, j.ledger.paused, rfl⟩
  | failed pid _ hresolve hsignal | paused pid _ hresolve hsignal =>
      rw [hresolve] at hresolved
      have hlast := signal_keeps hQ j target "pause" pid .stop hresolved
      rw [hsignal] at hlast
      exact ⟨hlast, _, rfl⟩

theorem resume_keeps (j : Injector) (target : String) {s : σ} (h : Q s) :
    Q (resume site j target s).2.2 ∧
      ∃ paused, (resume site j target s).2.1 = { j with ledger.paused := paused } := by
  generalize hresume : resume site j target s = yielded
  cases resume_cases hresume with
  | running => exact ⟨h, j.ledger.paused, rfl⟩
  | failed pid _ hsignal | resumed pid _ hsignal =>
      have hlast := signal_keeps hQ j target "resume" pid .resume h
      rw [hsignal] at hlast
      exact ⟨hlast, _, rfl⟩

theorem undoPause_keeps (j : Injector) (entry : String × UInt32) {s : σ} (h : Q s) :
    Q (undoPause site j entry s).2 := by
  have hresume := signal_keeps hQ j entry.1 "resume" entry.2 .resume h
  unfold undoPause
  split
  · next heq => rw [heq] at hresume; exact hresume
  · next heq => rw [heq] at hresume; exact hresume
  · next heq => rw [heq] at hresume; exact hresume

end Processes

theorem undoPause_frame (hview : site.ProcessFrame view) (j : Injector)
    (entry : String × UInt32) (s : σ) : view (undoPause site j entry s).2 = view s :=
  undoPause_keeps (hview.keeps (view s)) j entry rfl

/-! ### Connections -/

section Connections

variable {Q : σ → Prop} (hQ : site.NetworkKeeps Q)

include hQ

theorem cutOff_keeps (j : Injector) (target : String) (here : Endpoint) (any : Bool)
    (peers : List String) {s : σ} (h : Q s) :
    Q (cutOff site j target here any peers s).2.2 ∧ ∃ partitions,
      (cutOff site j target here any peers s).2.1 = { j with ledger.partitions := partitions } := by
  induction peers generalizing j any s with
  | nil => exact ⟨h, j.ledger.partitions, rfl⟩
  | cons peer rest ih =>
      unfold cutOff
      split
      · exact ih j any h
      · split
        · exact ⟨h, j.ledger.partitions, rfl⟩
        · next there _ =>
          have hblock := Retry.run_keeps hQ.sleep
            (fun deadline s₁ => hQ.block deadline here there s₁) j.settings target "partition" h
          split
          · next hfail => rw [hfail] at hblock; exact ⟨hblock, j.ledger.partitions, rfl⟩
          · next s₁ hok =>
            rw [hok] at hblock
            obtain ⟨hrest, partitions, heq⟩ := ih { j with
              ledger.partitions := j.ledger.partitions.insert (target, peer) (here, there) } true
              hblock
            exact ⟨hrest, partitions, heq⟩

theorem partition_keeps (j : Injector) (target : String) (peers : NameSet) {s : σ} (h : Q s) :
    Q (partition site j target peers s).2.2 ∧ ∃ partitions,
      (partition site j target peers s).2.1 = { j with ledger.partitions := partitions } := by
  generalize hpartition : partition site j target peers s = yielded
  cases partition_cases hpartition with
  | homeless => exact ⟨h, j.ledger.partitions, rfl⟩
  | stopped here _ hcut | cut here _ hcut =>
      have hlast := cutOff_keeps hQ j target here false peers.toList h
      rwa [hcut] at hlast

theorem undoPartition_keeps (j : Injector) (entry : (String × String) × Endpoint × Endpoint)
    {s : σ} (h : Q s) : Q (undoPartition site j entry s).2 := by
  have hunblock := Retry.run_keeps hQ.sleep
    (fun deadline s₁ => hQ.unblock deadline entry.2.1 entry.2.2 s₁) j.settings entry.1.1
    "heal_partition" h
  unfold undoPartition
  split
  · next heq => rw [heq] at hunblock; exact hunblock
  · next heq => rw [heq] at hunblock; exact hunblock

end Connections

theorem partition_frame (hview : site.NetworkFrame view) (j : Injector) (target : String)
    (peers : NameSet) (s : σ) :
    view (partition site j target peers s).2.2 = view s ∧ ∃ partitions,
      (partition site j target peers s).2.1 = { j with ledger.partitions := partitions } :=
  partition_keeps (hview.keeps (view s)) j target peers rfl

theorem undoPartition_frame (hview : site.NetworkFrame view) (j : Injector)
    (entry : (String × String) × Endpoint × Endpoint) (s : σ) :
    view (undoPartition site j entry s).2 = view s :=
  undoPartition_keeps (hview.keeps (view s)) j entry rfl

/-! ### Files -/

section Files

variable {Q : σ → Prop} (hQ : site.FileKeeps Q)

include hQ

theorem snapshot_keeps (deadline : Nat) (path : String) {s : σ} (h : Q s) :
    Q (snapshot site deadline path s).2 := by
  have hsize := hQ.sizeBy deadline path s h
  unfold snapshot
  split
  · next heq => rw [heq] at hsize; exact hsize
  · next heq => rw [heq] at hsize; exact hsize
  · next size s₁ heq =>
    rw [heq] at hsize
    split
    · exact hsize
    · have hread := hQ.readBy deadline path s₁ hsize
      split
      · next hnone => rw [hnone] at hread; exact hread
      · next hfail => rw [hfail] at hread; exact hread
      · next hok => rw [hok] at hread; exact hread

theorem damage_keeps (j : Injector) (target : String) (c : Corruption) {s : σ} (h : Q s) :
    Q (damage site j target c s).2.2 ∧
      ∃ corrupted, (damage site j target c s).2.1 = { j with ledger.corrupted := corrupted } := by
  have hsnapshot := snapshot_keeps hQ (site.now s + j.settings.actionTimeout.nanos)
    (j.registry.resolvePath target c.path) h
  generalize hdamage : damage site j target c s = yielded
  cases damage_cases hdamage with
  | unknown => exact ⟨h, j.ledger.corrupted, rfl⟩
  | unread _ hread | beyondEnd _ hread _ =>
      rw [hread] at hsnapshot
      exact ⟨hsnapshot, j.ledger.corrupted, rfl⟩
  | written _ hread _ hwrite =>
      rw [hread] at hsnapshot
      subst hwrite
      exact ⟨hQ.writeBy _ _ _ _ hsnapshot, _, rfl⟩

theorem undoDamage_keeps (entry : List (Nat × String) × Backup) {s : σ} (h : Q s) :
    Q (undoDamage site entry s).2 := by
  have hwrite := hQ.write entry.2.path entry.2.content s h
  unfold undoDamage
  dsimp only
  split
  · next heq => rw [heq] at hwrite; exact hwrite
  · next heq => rw [heq] at hwrite; exact hwrite

end Files

theorem damage_frame (hview : site.FileFrame view) (j : Injector) (target : String)
    (c : Corruption) (s : σ) :
    view (damage site j target c s).2.2 = view s ∧
      ∃ corrupted, (damage site j target c s).2.1 = { j with ledger.corrupted := corrupted } :=
  damage_keeps (hview.keeps (view s)) j target c rfl

theorem undoDamage_frame (hview : site.FileFrame view) (entry : List (Nat × String) × Backup)
    (s : σ) : view (undoDamage site entry s).2 = view s :=
  undoDamage_keeps (hview.keeps (view s)) entry rfl

/-! ### Events -/

/-- A fault that is made of signals is work on processes, and changes only the pauses in the
ledger. -/
theorem signal_fault_keeps {Q : σ → Prop} (hQ : site.ProcessKeeps Q) (j : Injector) (e : Event)
    (he : e.fault.isSignal = true) {s : σ} (h : Q s) :
    Q (inject site j e s).2.2 ∧
      ∃ paused, (inject site j e s).2.1 = { j with ledger.paused := paused } := by
  obtain ⟨checkpoint, target, fault⟩ := e
  cases fault with
  | kill => exact kill_keeps hQ j target h
  | pause => exact pause_keeps hQ j target h
  | resume => exact resume_keeps hQ j target h
  | delay | partition | corrupt => cases he

theorem signal_fault_frame (hview : site.ProcessFrame view) (j : Injector) (e : Event)
    (he : e.fault.isSignal = true) (s : σ) :
    view (inject site j e s).2.2 = view s ∧
      ∃ paused, (inject site j e s).2.1 = { j with ledger.paused := paused } :=
  signal_fault_keeps (hview.keeps (view s)) j e he rfl

/-- An injection changes the ledger only. -/
theorem inject_keeps {Q : σ → Prop} (hQ : site.Keeps Q) (j : Injector) (e : Event) {s : σ}
    (h : Q s) :
    Q (inject site j e s).2.2 ∧
      ∃ ledger, (inject site j e s).2.1 = { j with ledger := ledger } := by
  cases hfault : e.fault with
  | kill | pause | resume =>
      have he : e.fault.isSignal = true := by rw [hfault]; rfl
      obtain ⟨hs, paused, heq⟩ := signal_fault_keeps hQ.toProcessKeeps j e he h
      exact ⟨hs, _, heq⟩
  | delay duration =>
      rw [inject_delay hfault]
      exact ⟨h, j.ledger, rfl⟩
  | partition peers =>
      unfold inject
      rw [hfault]
      obtain ⟨hs, partitions, heq⟩ := partition_keeps hQ.toNetworkKeeps j e.target peers h
      exact ⟨hs, _, heq⟩
  | corrupt c =>
      unfold inject
      rw [hfault]
      obtain ⟨hs, corrupted, heq⟩ := damage_keeps hQ.toFileKeeps j e.target c h
      exact ⟨hs, _, heq⟩

end Injector

end FaultDrill
