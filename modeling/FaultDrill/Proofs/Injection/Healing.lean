import FaultDrill.Proofs.Collections.SortedMap
import FaultDrill.Proofs.Injection.Frame

/-!
# FaultDrill.Proofs.Injection.Healing

Healing, part by part. The paused targets, the partitions and the damaged files of the ledger are
undone one after the other, each list by the same loop; so what one undoing does to a list of entries
is what the loop does to all of them (`undoAll_invariant`). The entries that could not be undone
come in the order of the ledger and stay just as they were (`partitions_healAll`,
`corrupted_healAll`); without any, the ledger is empty (`ledger_healAll_of_nil`).
-/

namespace FaultDrill.Injector

variable {σ φ α : Type} {site : Site σ} {view : σ → φ}

/-! ### The loop -/

/-- What undoing one entry keeps, the loop keeps. `P` speaks of the entries that are in effect, in
whatever order; an entry that is undone leaves them, one that is not stays among them. -/
theorem undoAll_invariant {undo : α → σ → Option String × σ} {P : List α → σ → Prop}
    (hperm : ∀ l l' s, l.Perm l' → P l s → P l' s)
    (hdone : ∀ entry kept s s', undo entry s = (none, s') → P (entry :: kept) s → P kept s')
    (hkept : ∀ entry kept s message s', undo entry s = (some message, s') →
      P (entry :: kept) s → P (entry :: kept) s')
    {entries kept : List α} {s : σ} (h : P (entries ++ kept) s) :
    P ((undoAll undo entries s).1.map (·.1) ++ kept) (undoAll undo entries s).2 := by
  induction entries generalizing kept s with
  | nil => exact h
  | cons entry rest ih =>
      unfold undoAll
      cases hundo : undo entry s with
      | mk failure s₁ =>
          cases failure with
          | none => exact ih (hdone entry _ s s₁ hundo h)
          | some message =>
              -- the entry stays, and the rest is undone beside it
              have hrest : P (rest ++ entry :: kept) s₁ :=
                hperm _ _ s₁ List.perm_middle.symm (hkept entry _ s message s₁ hundo h)
              exact hperm _ _ _ List.perm_middle (ih hrest)

/-- All entries of a list, with none beside them. -/
theorem undoAll_invariant_self {undo : α → σ → Option String × σ} {P : List α → σ → Prop}
    (hperm : ∀ l l' s, l.Perm l' → P l s → P l' s)
    (hdone : ∀ entry kept s s', undo entry s = (none, s') → P (entry :: kept) s → P kept s')
    (hkept : ∀ entry kept s message s', undo entry s = (some message, s') →
      P (entry :: kept) s → P (entry :: kept) s')
    {entries : List α} {s : σ} (h : P entries s) :
    P ((undoAll undo entries s).1.map (·.1)) (undoAll undo entries s).2 := by
  rw [← List.append_nil entries] at h
  simpa only [List.append_nil] using undoAll_invariant hperm hdone hkept h

/-- The entries that stay come in the order they had. -/
theorem undoAll_sublist (undo : α → σ → Option String × σ) (entries : List α) (s : σ) :
    ((undoAll undo entries s).1.map (·.1)).Sublist entries := by
  induction entries generalizing s with
  | nil => exact List.Sublist.refl []
  | cons entry rest ih =>
      unfold undoAll
      cases undo entry s with
      | mk failure s₁ =>
          cases failure with
          | none => exact (ih s₁).cons entry
          | some message => exact (ih s₁).cons_cons entry

/-- Where every entry can be undone, the first one is, and then the others are. -/
theorem undoAll_cons_eq_nil {undo : α → σ → Option String × σ} {entry : α} {rest : List α} {s : σ}
    (h : (undoAll undo (entry :: rest) s).1 = []) : ∃ s₁, undo entry s = (none, s₁) ∧
      (undoAll undo rest s₁).1 = [] ∧ (undoAll undo (entry :: rest) s).2 = (undoAll undo rest s₁).2 := by
  rw [undoAll] at h ⊢
  cases hundo : undo entry s with
  | mk failure s₁ =>
      rw [hundo] at h
      cases failure with
      | none => exact ⟨s₁, rfl, h, rfl⟩
      | some message => cases h

theorem undoAll_keeps {undo : α → σ → Option String × σ} {Q : σ → Prop}
    (hundo : ∀ entry s, Q s → Q (undo entry s).2) (entries : List α) {s : σ} (h : Q s) :
    Q (undoAll undo entries s).2 := by
  induction entries generalizing s with
  | nil => exact h
  | cons entry rest ih =>
      have hentry := hundo entry s h
      unfold undoAll
      cases heq : undo entry s with
      | mk failure s₁ =>
          rw [heq] at hentry
          cases failure with
          | none => exact ih hentry
          | some message => exact ih hentry

theorem undoAll_frame {undo : α → σ → Option String × σ}
    (hundo : ∀ entry s, view (undo entry s).2 = view s) (entries : List α) (s : σ) :
    view (undoAll undo entries s).2 = view s :=
  undoAll_keeps (Q := fun s₁ => view s₁ = view s) (fun entry s₁ => (hundo entry s₁).trans) entries
    rfl

/-! ### The parts of the ledger -/

/-- The paused targets that cannot be resumed, with what undoing makes of the site. -/
def undonePauses (site : Site σ) (j : Injector) (s : σ) : List ((String × UInt32) × String) × σ :=
  undoAll (undoPause site j) j.ledger.paused.toList s

/-- The connections that cannot be restored after the pauses are undone. -/
def undonePartitions (site : Site σ) (j : Injector) (s : σ) :
    List (((String × String) × Endpoint × Endpoint) × String) × σ :=
  undoAll (undoPartition site j) j.ledger.partitions.toList (undonePauses site j s).2

/-- The files that cannot be restored after the connections are undone. -/
def undoneDamage (site : Site σ) (j : Injector) (s : σ) :
    List ((List (Nat × String) × Backup) × String) × σ :=
  undoAll (undoDamage site) j.ledger.corrupted.toList (undonePartitions site j s).2

theorem state_healAll (site : Site σ) (j : Injector) (s : σ) :
    (healAll site j s).2.2 = (undoneDamage site j s).2 := rfl

/-- No message means that every entry could be undone. -/
theorem healAll_eq_nil_iff {j : Injector} {s : σ} : (healAll site j s).1 = [] ↔
    (undonePauses site j s).1 = [] ∧ (undonePartitions site j s).1 = [] ∧
      (undoneDamage site j s).1 = [] := by
  show (undonePauses site j s).1.map (·.2) ++ (undonePartitions site j s).1.map (·.2) ++
    (undoneDamage site j s).1.map (·.2) = [] ↔ _
  simp

/-- The map of the entries that stay has just these. -/
theorem toList_ofList_undoAll {κ : Type} [Ord κ] [Std.TransOrd κ] (m : SortedMap κ α)
    (undo : κ × α → σ → Option String × σ) (s : σ) :
    (SortedMap.ofList ((undoAll undo m.toList s).1.map (·.1))).toList =
      (undoAll undo m.toList s).1.map (·.1) :=
  SortedMap.toList_ofList (m.sorted.sublist (undoAll_sublist undo m.toList s))

theorem paused_healAll (site : Site σ) (j : Injector) (s : σ) :
    (healAll site j s).2.1.ledger.paused.toList = (undonePauses site j s).1.map (·.1) :=
  toList_ofList_undoAll j.ledger.paused _ s

theorem partitions_healAll (site : Site σ) (j : Injector) (s : σ) :
    (healAll site j s).2.1.ledger.partitions.toList = (undonePartitions site j s).1.map (·.1) :=
  toList_ofList_undoAll j.ledger.partitions _ _

theorem corrupted_healAll (site : Site σ) (j : Injector) (s : σ) :
    (healAll site j s).2.1.ledger.corrupted.toList = (undoneDamage site j s).1.map (·.1) :=
  toList_ofList_undoAll j.ledger.corrupted _ _

/-- Healing changes the ledger only. -/
theorem healAll_eq (site : Site σ) (j : Injector) (s : σ) :
    (healAll site j s).2.1 = { j with ledger := (healAll site j s).2.1.ledger } := rfl

/-- Where every entry could be undone, the ledger is empty. -/
theorem ledger_healAll_of_nil {j : Injector} {s : σ} (h : (healAll site j s).1 = []) :
    (healAll site j s).2.1.ledger = {} := by
  obtain ⟨hpauses, hpartitions, hdamage⟩ := healAll_eq_nil_iff.mp h
  show Ledger.mk (.ofList ((undonePauses site j s).1.map (·.1)))
    (.ofList ((undonePartitions site j s).1.map (·.1)))
    (.ofList ((undoneDamage site j s).1.map (·.1))) = {}
  rw [hpauses, hpartitions, hdamage]
  rfl

/-! ### What holds of a site -/

section Keeps

variable {Q : σ → Prop} (hQ : site.Keeps Q)

include hQ

theorem healAll_keeps (j : Injector) {s : σ} (h : Q s) : Q (healAll site j s).2.2 := by
  have hpauses : Q (undonePauses site j s).2 :=
    undoAll_keeps (fun entry _ => undoPause_keeps hQ.toProcessKeeps j entry) _ h
  have hpartitions : Q (undonePartitions site j s).2 :=
    undoAll_keeps (fun entry _ => undoPartition_keeps hQ.toNetworkKeeps j entry) _ hpauses
  exact undoAll_keeps (fun entry _ => undoDamage_keeps hQ.toFileKeeps entry) _ hpartitions

theorem lingeringPauses_keeps (entries : List (String × UInt32)) {s : σ} (h : Q s) :
    Q (lingeringPauses site entries s).2 := by
  induction entries generalizing s with
  | nil => exact h
  | cons entry rest ih => exact ih (hQ.isAlive entry.2 s h)

theorem lingeringDamage_keeps (backups : List Backup) {s : σ} (h : Q s) :
    Q (lingeringDamage site backups s).2 := by
  induction backups generalizing s with
  | nil => exact h
  | cons backup rest ih =>
      have hrest := ih (hQ.read backup.path s h)
      unfold lingeringDamage
      dsimp only
      split
      · exact hrest
      · exact hrest

theorem lingeringFaults_keeps (j : Injector) {s : σ} (h : Q s) :
    Q (lingeringFaults site j s).2 :=
  lingeringDamage_keeps hQ _ (lingeringPauses_keeps hQ _ h)

end Keeps

end FaultDrill.Injector
