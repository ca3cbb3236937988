import FaultDrill.Proofs.Injection.Healing
import FaultDrill.Proofs.Injection.Trace

/-!
# FaultDrill.Proofs.Injection.Reversal

**Healing keeps exactly what it could not undo** (`healAll_keeps_unhealed`). For each entry of the
ledger, in order, there is an attempt to undo it (`Attempt`), whatever has come of the ones before.
How an attempt goes for each kind of entry is said by `Ledger.Entry.Reverses`, in terms of what the
site has been asked for and what it has answered. The messages are those of the attempts that have
failed, the ledger afterwards has just the entries of these, and what is reported as still in
effect comes from it.

The three parts of the ledger are undone by one loop, so there is one lemma about the loop
(`undoAll_accounts`), and the accounts of the parts are put one after the other (`Account.append`).
-/

namespace FaultDrill

variable {σ : Type}

/-! ### Entries -/

namespace Ledger

/-- An entry of a ledger. -/
inductive Entry where
  | pause (target : String) (pid : UInt32)
  | partition (target peer : String) (here there : Endpoint)
  | damage (key : List (Nat × String)) (backup : Backup)

/-- The entries of a ledger in the order in which they are undone. -/
def entries (l : Ledger) : List Entry :=
  l.paused.toList.map (fun e => .pause e.1 e.2) ++
    l.partitions.toList.map (fun e => .partition e.1.1 e.1.2 e.2.1 e.2.2) ++
    l.corrupted.toList.map (fun e => .damage e.1 e.2)

namespace Entry

/-- The line for an entry that is still in effect. -/
def text : Entry → String
  | .pause target pid => pausedText target pid
  | .partition target peer _ _ => partitionText target peer
  | .damage _ backup => corruptedText backup

open Retry (Tries result isFinal)

/-- How an attempt to undo an entry can go, where `most` further tries are allowed: what the site
is asked for with what it answers, and the message if the entry could not be undone. A paused
process that is gone needs no resuming. A file is written once. -/
inductive Reverses (most : Nat) : Entry → List Note → Option String → Prop
  | resumed {target : String} {pid : UInt32} {earlier : List Answer} {last : Answer}
      (htries : Tries most earlier last) (hlast : isFinal last = true) :
      Reverses most (.pause target pid) ((earlier ++ [last]).map (.signal pid .resume)) none
  | unresumed {target : String} {pid : UInt32} {earlier : List Answer} {last : Answer}
      {cause : InjectionError} (htries : Tries most earlier last) (hlast : isFinal last = false)
      (hcause : result target "resume" last = .error cause) :
      Reverses most (.pause target pid) ((earlier ++ [last]).map (.signal pid .resume))
        (some s!"resume {target}: {cause.message}")
  | restored {target peer : String} {here there : Endpoint} {earlier : List Answer} {last : Answer}
      (htries : Tries most earlier last) (hlast : last = some (.ok ())) :
      Reverses most (.partition target peer here there)
        ((earlier ++ [last]).map (.unblock here there)) none
  | unrestored {target peer : String} {here there : Endpoint} {earlier : List Answer}
      {last : Answer} {cause : InjectionError} (htries : Tries most earlier last)
      (hcause : result target "heal_partition" last = .error cause) :
      Reverses most (.partition target peer here there)
        ((earlier ++ [last]).map (.unblock here there))
        (some s!"heal partition {target} <-> {peer}: {cause.message}")
  | rewritten {key : List (Nat × String)} {backup : Backup} :
      Reverses most (.damage key backup) [.write backup.path backup.content (some (.ok ()))] none
  | unwritten {key : List (Nat × String)} {backup : Backup} {cause : FileError} :
      Reverses most (.damage key backup)
        [.write backup.path backup.content (some (.error cause))]
        (some (s!"restore {backup.path}: " ++
          (InjectionError.damage backup.path (.restore cause)).message))

end Entry

end Ledger

/-! ### Accounts -/

/-- An attempt to undo an entry: what the site was asked for, and the message if it has failed. -/
structure Attempt where
  entry : Ledger.Entry
  notes : List Note
  failure : Option String

/-- Attempts that lead from one state of a site to another. They are made for all of some entries in
their order, each goes as attempts for its entry can go, and there is nothing else that the site is
asked for. The messages and the entries that are kept are those of the attempts that have failed. -/
structure Account (site : Site σ) (most : Nat) (entries : List Ledger.Entry) (s : σ)
    (messages : List String) (kept : List Ledger.Entry) (s' : σ) (attempts : List Attempt) :
    Prop where
  entries : attempts.map (·.entry) = entries
  reverses : ∀ a ∈ attempts, a.entry.Reverses most a.notes a.failure
  trace : site.Trace s (attempts.flatMap (·.notes)) s'
  messages : messages = attempts.filterMap (·.failure)
  kept : kept = (attempts.filter (·.failure.isSome)).map (·.entry)

variable {site : Site σ} {most : Nat} {s s₁ s' : σ}

theorem Account.append {e e' kept kept' : List Ledger.Entry} {messages messages' : List String}
    {attempts attempts' : List Attempt} (h : Account site most e s messages kept s₁ attempts)
    (h' : Account site most e' s₁ messages' kept' s' attempts') :
    Account site most (e ++ e') s (messages ++ messages') (kept ++ kept') s'
      (attempts ++ attempts') where
  entries := by rw [List.map_append, h.entries, h'.entries]
  reverses := by
    intro a ha
    rcases List.mem_append.mp ha with ha | ha
    · exact h.reverses a ha
    · exact h'.reverses a ha
  trace := by
    rw [List.flatMap_append]
    exact h.trace.append h'.trace
  messages := by rw [List.filterMap_append, h.messages, h'.messages]
  kept := by rw [List.filter_append, List.map_append, h.kept, h'.kept]

namespace Injector

/-! ### The loop -/

theorem undoAll_cons {α : Type} (undo : α → σ → Option String × σ) (a : α) (rest : List α) (s : σ) :
    undoAll undo (a :: rest) s = ((undo a s).1.toList.map (a, ·) ++
      (undoAll undo rest (undo a s).2).1, (undoAll undo rest (undo a s).2).2) := by
  rw [undoAll]
  rcases undo a s with ⟨failure, s₁⟩
  cases failure with
  | none => rfl
  | some message => rfl

/-- Where each entry is attempted to be undone as it should, the loop attempts all of them. -/
theorem undoAll_accounts {α : Type} {undo : α → σ → Option String × σ} {entry : α → Ledger.Entry}
    (hundo : ∀ a s, ∃ notes, (entry a).Reverses most notes (undo a s).1 ∧
      site.Trace s notes (undo a s).2) (l : List α) (s : σ) :
    ∃ attempts, Account site most (l.map entry) s ((undoAll undo l s).1.map (·.2))
      ((undoAll undo l s).1.map (entry ·.1)) (undoAll undo l s).2 attempts := by
  induction l generalizing s with
  | nil => exact ⟨[], rfl, by simp, .nil s, rfl, rfl⟩
  | cons a rest ih =>
      obtain ⟨notes, hreverses, htrace⟩ := hundo a s
      obtain ⟨attempts, hrest⟩ := ih (undo a s).2
      have hone : Account site most [entry a] s
          (((undo a s).1.toList.map (a, ·)).map (·.2))
          (((undo a s).1.toList.map (a, ·)).map (entry ·.1)) (undo a s).2
          [⟨entry a, notes, (undo a s).1⟩] := by
        refine ⟨rfl, by simpa using hreverses, by simpa using htrace, ?_, ?_⟩
        · cases (undo a s).1 <;> rfl
        · cases (undo a s).1 <;> rfl
      refine ⟨⟨entry a, notes, (undo a s).1⟩ :: attempts, ?_⟩
      rw [undoAll_cons, List.map_append, List.map_append]
      exact hone.append hrest

/-! ### The kinds of entries -/

open Retry (isFinal_iff)

theorem undoPause_reverses (site : Site σ) (j : Injector) (e : String × UInt32) (s : σ) :
    ∃ notes, (Ledger.Entry.pause e.1 e.2).Reverses j.settings.retryMaxAttempts.toNat notes
      (undoPause site j e s).1 ∧ site.Trace s notes (undoPause site j e s).2 := by
  obtain ⟨earlier, last, htries, htrace, hresult⟩ :=
    Retry.run_trace (.signal e.2 .resume) (fun deadline s => .signal deadline e.2 .resume s)
      j.settings e.1 "resume" s
  refine ⟨(earlier ++ [last]).map (.signal e.2 .resume), ?_⟩
  unfold undoPause signal
  split
  · next s₁ heq =>
    rw [heq] at hresult htrace
    exact ⟨.resumed htries ((isFinal_iff e.1 "resume").mpr (.inl hresult.symm)), htrace⟩
  · next pid s₁ heq =>
    rw [heq] at hresult htrace
    exact ⟨.resumed htries ((isFinal_iff e.1 "resume").mpr (.inr ⟨pid, hresult.symm⟩)), htrace⟩
  · next cause s₁ hnot heq =>
    rw [heq] at hresult htrace
    refine ⟨.unresumed htries ?_ hresult.symm, htrace⟩
    rw [← Bool.not_eq_true, isFinal_iff e.1 "resume", ← hresult]
    rintro (hok | ⟨pid, hgone⟩)
    · cases hok
    · cases hgone
      exact hnot pid rfl

theorem undoPartition_reverses (site : Site σ) (j : Injector)
    (e : (String × String) × Endpoint × Endpoint) (s : σ) :
    ∃ notes, (Ledger.Entry.partition e.1.1 e.1.2 e.2.1 e.2.2).Reverses
        j.settings.retryMaxAttempts.toNat notes (undoPartition site j e s).1 ∧
      site.Trace s notes (undoPartition site j e s).2 := by
  obtain ⟨earlier, last, htries, htrace, hresult⟩ :=
    Retry.run_trace (.unblock e.2.1 e.2.2) (fun deadline s => .unblock deadline e.2.1 e.2.2 s)
      j.settings e.1.1 "heal_partition" s
  refine ⟨(earlier ++ [last]).map (.unblock e.2.1 e.2.2), ?_⟩
  unfold undoPartition
  split
  · next s₁ heq =>
    rw [heq] at hresult htrace
    exact ⟨.restored htries (Retry.result_eq_ok_iff.mp hresult.symm), htrace⟩
  · next cause s₁ heq =>
    rw [heq] at hresult htrace
    exact ⟨.unrestored htries hresult.symm, htrace⟩

theorem undoDamage_reverses (site : Site σ) (e : List (Nat × String) × Backup) (s : σ) :
    ∃ notes, (Ledger.Entry.damage e.1 e.2).Reverses most notes (undoDamage site e s).1 ∧
      site.Trace s notes (undoDamage site e s).2 := by
  have hwrite : site.Trace s _ _ := (Site.Step.write e.2.path e.2.content s).trace
  unfold undoDamage
  dsimp only
  split
  · next s₁ heq =>
    rw [heq] at hwrite
    exact ⟨_, .rewritten, hwrite⟩
  · next cause s₁ heq =>
    rw [heq] at hwrite
    exact ⟨_, .unwritten, hwrite⟩

/-! ### Healing -/

theorem entries_healAll (site : Site σ) (j : Injector) (s : σ) :
    (healAll site j s).2.1.ledger.entries =
      (undonePauses site j s).1.map (fun f => .pause f.1.1 f.1.2) ++
      (undonePartitions site j s).1.map (fun f => .partition f.1.1.1 f.1.1.2 f.1.2.1 f.1.2.2) ++
      (undoneDamage site j s).1.map (fun f => .damage f.1.1 f.1.2) := by
  rw [Ledger.entries, paused_healAll, partitions_healAll, corrupted_healAll]
  simp only [List.map_map, Function.comp_def]

theorem healAll_account (site : Site σ) (j : Injector) (s : σ) : ∃ attempts,
    Account site j.settings.retryMaxAttempts.toNat j.ledger.entries s (healAll site j s).1
      (healAll site j s).2.1.ledger.entries (healAll site j s).2.2 attempts := by
  obtain ⟨pauses, hpauses⟩ :=
    undoAll_accounts (undoPause_reverses site j) j.ledger.paused.toList s
  obtain ⟨partitions, hpartitions⟩ :=
    undoAll_accounts (undoPartition_reverses site j) j.ledger.partitions.toList
      (undonePauses site j s).2
  obtain ⟨damage, hdamage⟩ :=
    undoAll_accounts (undoDamage_reverses site) j.ledger.corrupted.toList
      (undonePartitions site j s).2
  refine ⟨pauses ++ partitions ++ damage, ?_⟩
  rw [entries_healAll]
  exact (hpauses.append hpartitions).append hdamage

/-! ### What remains -/

theorem lingeringPauses_sublist (site : Site σ) (paused : List (String × UInt32)) (s : σ) :
    (lingeringPauses site paused s).1.Sublist
      (paused.map fun e => Ledger.pausedText e.1 e.2) := by
  induction paused generalizing s with
  | nil => exact .slnil
  | cons e rest ih =>
      have hrest := ih (site.isAlive e.2 s).2
      unfold lingeringPauses
      rw [List.map_cons]
      dsimp only
      split
      · exact hrest.cons_cons _
      · exact hrest.cons _

theorem lingeringDamage_sublist (site : Site σ) (backups : List Backup) (s : σ) :
    (lingeringDamage site backups s).1.Sublist (backups.map Ledger.corruptedText) := by
  induction backups generalizing s with
  | nil => exact .slnil
  | cons b rest ih =>
      have hrest := ih (site.read b.path s).2
      unfold lingeringDamage
      rw [List.map_cons]
      dsimp only
      split
      · split
        · exact hrest.cons _
        · exact hrest.cons_cons _
      · exact hrest.cons_cons _

/-- What is reported as still in effect are entries of the ledger, in their order. -/
theorem lingeringFaults_sublist (site : Site σ) (j : Injector) (s : σ) :
    (lingeringFaults site j s).1.Sublist (j.ledger.entries.map Ledger.Entry.text) := by
  have hpaused := lingeringPauses_sublist site j.ledger.paused.toList s
  have hdamage := lingeringDamage_sublist site (j.ledger.corrupted.toList.map (·.2))
    (lingeringPauses site j.ledger.paused.toList s).2
  have hcut : j.ledger.partitions.keys.map (fun key => Ledger.partitionText key.1 key.2) =
      j.ledger.partitions.toList.map fun e => Ledger.partitionText e.1.1 e.1.2 := by
    rw [SortedMap.keys, List.map_map]
    rfl
  rw [Ledger.entries, List.map_append, List.map_append]
  simp only [List.map_map, Function.comp_def, Ledger.Entry.text] at hdamage ⊢
  show ((lingeringPauses site j.ledger.paused.toList s).1 ++
    j.ledger.partitions.keys.map (fun key => Ledger.partitionText key.1 key.2) ++ _).Sublist _
  rw [hcut]
  exact (hpaused.append (.refl _)).append hdamage

/-- With an empty ledger there is nothing to report and nothing to undo, on no site. -/
theorem healAll_of_empty {j : Injector} (h : j.ledger = {}) (site : Site σ) (s : σ) :
    lingeringFaults site j s = ([], s) ∧ healAll site j s = ([], j, s) := by
  obtain ⟨settings, registry, ledger⟩ := j
  subst h
  exact ⟨rfl, rfl⟩

/-- **Healing keeps exactly what it could not undo.** Whatever the ledger and whatever the site
answers, there is an attempt for each entry, the messages and the ledger afterwards are those of
the attempts that have failed, and only entries of that ledger are reported as still in effect. If
there are no messages, then nothing is reported, and healing again asks nothing of any site. -/
theorem healAll_keeps_unhealed (site : Site σ) (j : Injector) (s : σ) :
    (∃ attempts, Account site j.settings.retryMaxAttempts.toNat j.ledger.entries s
      (healAll site j s).1 (healAll site j s).2.1.ledger.entries (healAll site j s).2.2
      attempts) ∧
    (∀ s', (lingeringFaults site (healAll site j s).2.1 s').1.Sublist
      ((healAll site j s).2.1.ledger.entries.map Ledger.Entry.text)) ∧
    ((healAll site j s).1 = [] → ∀ {τ : Type} (other : Site τ) (t : τ),
      lingeringFaults other (healAll site j s).2.1 t = ([], t) ∧
        healAll other (healAll site j s).2.1 t = ([], (healAll site j s).2.1, t)) := by
  refine ⟨healAll_account site j s, ?_, ?_⟩
  · intro s'
    exact lingeringFaults_sublist site _ s'
  · intro hnil τ other t
    exact healAll_of_empty (ledger_healAll_of_nil hnil) other t

end Injector

end FaultDrill
