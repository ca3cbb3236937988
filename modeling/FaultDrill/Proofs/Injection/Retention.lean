import FaultDrill.Proofs.Injection.Network

/-!
# FaultDrill.Proofs.Injection.Retention

What an injection leaves in the ledger. Partitions and saved files stay there until they are healed.
The pause of a target stays as well, unless an injection that kills or resumes this target succeeds
(`inject_retains`).
-/

namespace FaultDrill

variable {σ : Type}

/-- The faults that let a paused target go. -/
def Event.Frees (e : Event) (target : String) : Prop :=
  e.target = target ∧ (e.fault = .kill ∨ e.fault = .resume)

/-- What is entered in one ledger is entered in another, apart from the pauses of the targets that
have been let go. -/
structure Ledger.Retains (freed : String → Prop) (before after : Ledger) : Prop where
  paused : ∀ target pid, before.paused.get? target = some pid →
    after.paused.get? target = some pid ∨ freed target
  partitions : ∀ key pair, before.partitions.get? key = some pair →
    after.partitions.get? key = some pair
  corrupted : ∀ key backup, before.corrupted.get? key = some backup →
    after.corrupted.get? key = some backup

namespace Ledger

variable {freed freed' : String → Prop} {l l₁ l₂ : Ledger}

theorem Retains.refl (freed : String → Prop) (l : Ledger) : Retains freed l l :=
  ⟨fun _ _ => .inl, fun _ _ => id, fun _ _ => id⟩

theorem Retains.mono (h : Retains freed l l₁) (hfreed : ∀ target, freed target → freed' target) :
    Retains freed' l l₁ :=
  ⟨fun target pid hget => (h.paused target pid hget).imp_right (hfreed target), h.partitions,
    h.corrupted⟩

theorem Retains.trans (h : Retains freed l l₁) (h' : Retains freed l₁ l₂) :
    Retains freed l l₂ where
  paused target pid hget := by
    rcases h.paused target pid hget with hkept | hfreed
    · exact h'.paused target pid hkept
    · exact .inr hfreed
  partitions key pair hget := h'.partitions key pair (h.partitions key pair hget)
  corrupted key backup hget := h'.corrupted key backup (h.corrupted key backup hget)

/-- One target is let go. -/
theorem retains_erase (l : Ledger) {target : String} (hfreed : freed target) :
    Retains freed l { l with paused := l.paused.erase target } where
  paused name pid hget := by
    by_cases hname : name = target
    · exact .inr (hname ▸ hfreed)
    · refine .inl ?_
      show (l.paused.erase target).get? name = some pid
      rw [l.paused.get?_erase_of_ne fun heq => hname (Std.LawfulEqOrd.eq_of_compare heq), hget]
  partitions _ _ := id
  corrupted _ _ := id

theorem retains_saveFile (freed : String → Prop) (l : Ledger) (target path : String)
    (content : Bytes) : Retains freed l (l.saveFile target path content) :=
  ⟨fun _ _ => .inl, fun _ _ => id, fun _ _ hget => SortedMap.get?_insertIfNew _ hget⟩

end Ledger

namespace Injector

open Ledger (Retains)

variable {freed : String → Prop}

theorem kill_retains (site : Site σ) (j : Injector) (target : String) (s : σ)
    (hfreed : (kill site j target s).1.isOk = true → freed target) :
    Retains freed j.ledger (kill site j target s).2.1.ledger := by
  generalize hkill : kill site j target s = yielded at hfreed ⊢
  cases kill_cases hkill with
  | unresolved | failed => exact .refl freed _
  | killed => exact Ledger.retains_erase j.ledger (hfreed rfl)

theorem pause_retains (site : Site σ) (j : Injector) (target : String) (s : σ) :
    Retains freed j.ledger (pause site j target s).2.1.ledger := by
  generalize hpause : pause site j target s = yielded
  cases pause_cases hpause with
  | held | unresolved | failed => exact .refl freed _
  | paused _ hnew =>
      exact ⟨fun _ _ hget => .inl (SortedMap.get?_insert_of_new hnew hget), fun _ _ => id,
        fun _ _ => id⟩

theorem resume_retains (site : Site σ) (j : Injector) (target : String) (s : σ)
    (hfreed : (resume site j target s).1.isOk = true → freed target) :
    Retains freed j.ledger (resume site j target s).2.1.ledger := by
  generalize hresume : resume site j target s = yielded at hfreed ⊢
  cases resume_cases hresume with
  | running | failed => exact .refl freed _
  | resumed => exact Ledger.retains_erase j.ledger (hfreed rfl)

theorem cutOff_retains (site : Site σ) (j : Injector) (target : String) (here : Endpoint)
    (any : Bool) (peers : List String) (s : σ) :
    Retains freed j.ledger (cutOff site j target here any peers s).2.1.ledger := by
  obtain ⟨-, partitions, heq⟩ :=
    cutOff_keeps site.keeps_true.toNetworkKeeps j target here any peers (s := s) trivial
  have hkept : ∀ key pair, j.ledger.partitions.get? key = some pair →
      (cutOff site j target here any peers s).2.1.ledger.partitions.get? key = some pair := by
    rcases NetworkView.cutOff_ledger site j target here any peers s with
      ⟨_, -, hcut⟩ | ⟨_, -, earlier, peer, later, -, hcut, -⟩
    · exact hcut.kept
    · exact hcut.kept
  rw [heq] at hkept ⊢
  exact ⟨fun _ _ => .inl, hkept, fun _ _ => id⟩

theorem partition_retains (site : Site σ) (j : Injector) (target : String) (peers : NameSet)
    (s : σ) : Retains freed j.ledger (partition site j target peers s).2.1.ledger := by
  generalize hpartition : partition site j target peers s = yielded
  cases partition_cases hpartition with
  | homeless => exact .refl freed _
  | stopped here _ hcut | cut here _ hcut =>
      have hkept : Retains freed j.ledger _ :=
        cutOff_retains site j target here false peers.toList s
      rwa [hcut] at hkept

theorem damage_retains (site : Site σ) (j : Injector) (target : String) (c : Corruption) (s : σ) :
    Retains freed j.ledger (damage site j target c s).2.1.ledger := by
  generalize hdamage : damage site j target c s = yielded
  cases damage_cases hdamage with
  | unknown | unread | beyondEnd => exact .refl freed _
  | written => exact Ledger.retains_saveFile freed j.ledger target _ _

/-- An injection leaves the ledger as it is, or adds to it, or lets its target go. -/
theorem inject_retains (site : Site σ) (j : Injector) (e : Event) (s : σ)
    (hfreed : (inject site j e s).1.isOk = true → ∀ target, e.Frees target → freed target) :
    Retains freed j.ledger (inject site j e s).2.1.ledger := by
  obtain ⟨checkpoint, target, fault⟩ := e
  cases fault with
  | kill => exact kill_retains site j target s fun hok => hfreed hok target ⟨rfl, .inl rfl⟩
  | pause => exact pause_retains site j target s
  | resume => exact resume_retains site j target s fun hok => hfreed hok target ⟨rfl, .inr rfl⟩
  | delay duration =>
      rw [inject_delay rfl]
      exact .refl freed _
  | partition peers => exact partition_retains site j target peers s
  | corrupt c => exact damage_retains site j target c s

end Injector

end FaultDrill
