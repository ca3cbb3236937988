import FaultDrill.Proofs.Injection.Calls
import FaultDrill.Proofs.Injection.Healing
import FaultDrill.Proofs.Injection.Sandbox

/-!
# FaultDrill.Proofs.Injection.Files

**Damaged files can always be recovered** (`files_recoverable`). What carries it is the exact content of
the ledger: an entry holds what the rest of the world has last left in its file, and a file without
an entry holds that still (`Recoverable`). Damage keeps this, since a file is saved before it is
written and an entry is never replaced, so it does not matter how a write ends; and so does healing,
since an entry is dropped only after its file has been written in full.
-/

namespace FaultDrill

variable {σ : Type}

/-- The files of a site as its operations show them. This is what is asked of the file system: paths
with different components name different files, nothing but writing changes a file, what is read is
the content, a write without a deadline that succeeds has written all bytes, and a write that fails
or runs out of time may have left anything, but in its own file only, and has stopped. -/
structure FileView (site : Site σ) where
  /-- The content of a file, if there is one. -/
  content : σ → FileKey → Option Bytes
  processes : site.ProcessFrame content
  network : site.NetworkFrame content
  sizeBy : ∀ deadline path s, content (site.sizeBy deadline path s).2 = content s
  readBy : ∀ deadline path s, content (site.readBy deadline path s).2 = content s
  readBy_ok : ∀ deadline path s bytes, (site.readBy deadline path s).1 = some (.ok bytes) →
    content s (Path.components path) = some bytes
  writeBy_other : ∀ deadline path bytes s key, key ≠ Path.components path →
    content (site.writeBy deadline path bytes s).2 key = content s key
  write_other : ∀ path bytes s key, key ≠ Path.components path →
    content (site.write path bytes s).2 key = content s key
  write_ok : ∀ path bytes s, (site.write path bytes s).1 = .ok () →
    content (site.write path bytes s).2 (Path.components path) = some bytes

namespace Sandbox

theorem content_written_other {path : String} {bytes : Bytes} {key : FileKey} (s : Sandbox)
    (h : key ≠ Path.components path) : (s.written path bytes).content key = s.content key := by
  have hne : (key == Path.components path) = false := by simpa using h
  unfold written content put
  rw [List.lookup_cons, hne]
  rfl

theorem content_of_found {path : String} {bytes : Bytes} {s : Sandbox}
    (h : s.found path = .ok bytes) : s.content (Path.components path) = some bytes := by
  unfold found at h
  split at h
  · next heq => rw [heq, Except.ok.inj h]
  · cases h

/-- The files of a sandbox. -/
def fileView : FileView site where
  content := content
  processes := ⟨fun _ _ => rfl, fun _ _ _ => change_frame (fun _ => rfl) fun _ => rfl,
    fun _ _ => rfl, fun _ _ => rfl⟩
  network := ⟨fun _ _ => rfl, fun _ _ _ => change_frame (fun _ => rfl) fun _ => rfl,
    fun _ _ _ => change_frame (fun _ => rfl) fun _ => rfl⟩
  sizeBy _ _ _ := rfl
  readBy _ _ _ := rfl
  readBy_ok _ _ _ _ h := content_of_found (Option.some.inj h)
  writeBy_other _ _ _ s _ h := content_written_other s h
  write_other _ _ s _ h := content_written_other s h
  write_ok path bytes s h := by
    have hdone : s.reply = .done := by
      by_cases hdone : s.reply = .done
      · exact hdone
      · exact absurd h (by simp [site, hdone])
    simp [site, written, content, put, hdone]

end Sandbox

namespace FileView

open Injector

variable {site : Site σ} (view : FileView site)

/-! ### Runs -/

/-- What an injector and its site can come to, from an injector of the settings on. `base` is what
each file was before the injector first touched it since it was last healed. Between the calls the
rest of the world may change files; what it does to a file that the ledger holds does not count. -/
inductive Reaches (settings : InjectorSettings) : Injector → σ → (FileKey → Option Bytes) → Prop
  | start (s : σ) : Reaches settings (.new settings) s (view.content s)
  | call {j : Injector} {s : σ} {base : FileKey → Option Bytes} (c : Call) :
      Reaches settings j s base →
      Reaches settings (perform site j s c).1 (perform site j s c).2 base
  | outside {j : Injector} {s : σ} {base : FileKey → Option Bytes} (s' : σ) :
      Reaches settings j s base → Reaches settings j s' fun key =>
        if j.ledger.corrupted.contains key then base key else view.content s' key

/-- Any calls one after the other. -/
theorem Reaches.performAll {view : FileView site} {settings : InjectorSettings} {j : Injector}
    {s : σ} {base : FileKey → Option Bytes} (h : view.Reaches settings j s base)
    (calls : List Call) :
    view.Reaches settings (performAll site j s calls).1 (performAll site j s calls).2 base :=
  performAll_invariant (P := fun j s => view.Reaches settings j s base)
    (fun _ _ c hr => hr.call c) h calls

/-! ### The invariant -/

/-- Each of the entries holds what the rest of the world left in its file, and every other file
holds that itself. -/
structure Recoverable (base : FileKey → Option Bytes) (entries : List (FileKey × Backup)) (s : σ) :
    Prop where
  saved : ∀ e ∈ entries, Path.components e.2.path = e.1 ∧ base e.1 = some e.2.content
  clean : ∀ key, key ∉ entries.map (·.1) → view.content s key = base key

variable {view} {base : FileKey → Option Bytes} {s s' : σ}

theorem Recoverable.perm {l l' : List (FileKey × Backup)} (hperm : l.Perm l')
    (h : view.Recoverable base l s) : view.Recoverable base l' s where
  saved e he := h.saved e (hperm.mem_iff.2 he)
  clean key hkey := h.clean key fun hmem => hkey ((hperm.map _).mem_iff.1 hmem)

theorem Recoverable.of_content {l : List (FileKey × Backup)} (h : view.Recoverable base l s)
    (heq : view.content s' = view.content s) : view.Recoverable base l s' where
  saved := h.saved
  clean key hkey := by rw [heq, h.clean key hkey]

/-! ### Damage -/

/-- A snapshot is the content of the file, and taking it changes no file. -/
theorem snapshot_spec (deadline : Nat) (path : String) (s : σ) :
    view.content (snapshot site deadline path s).2 = view.content s ∧
      ∀ bytes, (snapshot site deadline path s).1 = .ok bytes →
        view.content s (Path.components path) = some bytes := by
  have hsize := view.sizeBy deadline path s
  unfold snapshot
  split
  · next heq => rw [heq] at hsize; exact ⟨hsize, fun _ h => by cases h⟩
  · next heq => rw [heq] at hsize; exact ⟨hsize, fun _ h => by cases h⟩
  · next size s₁ heq =>
    rw [heq] at hsize
    split
    · exact ⟨hsize, fun _ h => by cases h⟩
    · have hread := view.readBy deadline path s₁
      have hok := view.readBy_ok deadline path s₁
      split
      · next hnone => rw [hnone] at hread; exact ⟨hread.trans hsize, fun _ h => by cases h⟩
      · next hfail => rw [hfail] at hread; exact ⟨hread.trans hsize, fun _ h => by cases h⟩
      · next current s₂ hcurrent =>
        rw [hcurrent] at hread hok
        refine ⟨hread.trans hsize, fun bytes h => ?_⟩
        obtain rfl := Except.ok.inj h
        rw [← hsize]
        exact hok current rfl

/-- Saving a file whose content is at hand makes its entry right, and then the file may change. -/
theorem Recoverable.saveFile {l : Ledger} (target : String) {path : String} {current : Bytes}
    (h : view.Recoverable base l.corrupted.toList s)
    (hcurrent : view.content s (Path.components path) = some current)
    (hother : ∀ key, key ≠ Path.components path → view.content s' key = view.content s key) :
    view.Recoverable base (l.saveFile target path current).corrupted.toList s' := by
  unfold Ledger.saveFile SortedMap.insertIfNew
  dsimp only
  split
  · next hheld =>
    have hmem := SortedMap.mem_keys_iff.2 hheld
    refine ⟨h.saved, fun key hkey => ?_⟩
    rw [hother key fun heq => hkey (heq ▸ hmem), h.clean key hkey]
  · next hheld =>
    rw [Bool.not_eq_true] at hheld
    have hnew : Path.components path ∉ l.corrupted.toList.map (·.1) := fun hmem => by
      rw [SortedMap.mem_keys_iff, hheld] at hmem
      cases hmem
    refine Recoverable.perm (SortedMap.perm_insert _ hheld).symm ⟨?_, fun key hkey => ?_⟩
    · intro e he
      rcases List.mem_cons.1 he with rfl | he
      · exact ⟨rfl, by rw [← h.clean _ hnew, hcurrent]⟩
      · exact h.saved e he
    · rw [List.map_cons, List.mem_cons, not_or] at hkey
      rw [hother key hkey.1, h.clean key hkey.2]

/-- Damaging a file keeps all files recoverable, whether it succeeds or not. -/
theorem recoverable_damage {j : Injector} (h : view.Recoverable base j.ledger.corrupted.toList s)
    (target : String) (c : Corruption) :
    view.Recoverable base (damage site j target c s).2.1.ledger.corrupted.toList
      (damage site j target c s).2.2 := by
  obtain ⟨hsame, hcurrent⟩ := view.snapshot_spec (site.now s + j.settings.actionTimeout.nanos)
    (j.registry.resolvePath target c.path) s
  generalize hdamage : damage site j target c s = yielded
  cases damage_cases hdamage with
  | unknown => exact h
  | unread _ hread | beyondEnd _ hread _ =>
      rw [hread] at hsame
      exact h.of_content hsame
  | @written current _ s₁ _ _ hread _ hwrite =>
      rw [hread] at hsame hcurrent
      subst hwrite
      have hheld : view.content s₁ (Path.components (j.registry.resolvePath target c.path)) =
          some current := by
        rw [hsame]
        exact hcurrent current rfl
      exact (h.of_content hsame).saveFile target hheld (view.writeBy_other _ _ _ s₁)

/-! ### The other operations -/

/-- Whatever is injected, all files stay recoverable. -/
theorem recoverable_inject {j : Injector} (h : view.Recoverable base j.ledger.corrupted.toList s)
    (e : Event) : view.Recoverable base (inject site j e s).2.1.ledger.corrupted.toList
      (inject site j e s).2.2 := by
  cases hfault : e.fault with
  | kill | pause | resume =>
      have he : e.fault.isSignal = true := by rw [hfault]; rfl
      obtain ⟨hsame, paused, heq⟩ := signal_fault_frame view.processes j e he s
      rw [heq]
      exact h.of_content hsame
  | delay duration =>
      rw [inject_delay hfault]
      exact h
  | partition peers =>
      obtain ⟨hsame, partitions, heq⟩ := partition_frame view.network j e.target peers s
      unfold inject
      rw [hfault]
      dsimp only
      rw [heq]
      exact h.of_content hsame
  | corrupt c =>
      unfold inject
      rw [hfault]
      exact recoverable_damage h e.target c

theorem undoDamage_none {entry : FileKey × Backup} (h : undoDamage site entry s = (none, s')) :
    site.write entry.2.path entry.2.content s = (.ok (), s') := by
  unfold undoDamage at h
  dsimp only at h
  split at h
  · next heq => rw [heq, (Prod.mk.inj h).2]
  · cases h

theorem undoDamage_some {entry : FileKey × Backup} {message : String}
    (h : undoDamage site entry s = (some message, s')) :
    (site.write entry.2.path entry.2.content s).2 = s' := by
  unfold undoDamage at h
  dsimp only at h
  split at h
  · cases h
  · next heq => rw [heq, (Prod.mk.inj h).2]

/-- Writing the saved bytes of an entry changes no file but that of the entry. -/
theorem Recoverable.write {entry : FileKey × Backup} {kept : List (FileKey × Backup)}
    (h : view.Recoverable base (entry :: kept) s) {key : FileKey} (hself : key ≠ entry.1)
    (hkey : key ∉ kept.map (·.1)) :
    view.content (site.write entry.2.path entry.2.content s).2 key = base key := by
  have hpath := (h.saved entry List.mem_cons_self).1
  rw [view.write_other _ _ _ _ (hpath ▸ hself)]
  refine h.clean key ?_
  rw [List.map_cons, List.mem_cons, not_or]
  exact ⟨hself, hkey⟩

/-- An entry that is undone may be dropped: its file holds what was saved. -/
theorem Recoverable.done {entry : FileKey × Backup} {kept : List (FileKey × Backup)}
    (hundo : undoDamage site entry s = (none, s')) (h : view.Recoverable base (entry :: kept) s) :
    view.Recoverable base kept s' := by
  obtain ⟨hpath, hbase⟩ := h.saved entry List.mem_cons_self
  have hwrite := undoDamage_none hundo
  have hok := view.write_ok entry.2.path entry.2.content s
  rw [hwrite] at hok
  refine ⟨fun e he => h.saved e (List.mem_cons_of_mem _ he), fun key hkey => ?_⟩
  by_cases hself : key = entry.1
  · rw [hself, hbase, ← hpath]
    exact hok rfl
  · have hother := h.write hself hkey
    rwa [hwrite] at hother

/-- An entry that cannot be undone stays, whatever its file holds now. -/
theorem Recoverable.kept {entry : FileKey × Backup} {kept : List (FileKey × Backup)}
    {message : String} (hundo : undoDamage site entry s = (some message, s'))
    (h : view.Recoverable base (entry :: kept) s) : view.Recoverable base (entry :: kept) s' := by
  refine ⟨h.saved, fun key hkey => ?_⟩
  rw [List.map_cons, List.mem_cons, not_or] at hkey
  rw [← undoDamage_some hundo]
  exact h.write hkey.1 hkey.2

theorem recoverable_healAll {j : Injector} (h : view.Recoverable base j.ledger.corrupted.toList s) :
    view.Recoverable base (healAll site j s).2.1.ledger.corrupted.toList
      (healAll site j s).2.2 := by
  have hpauses : view.content (undonePauses site j s).2 = view.content s :=
    undoAll_frame (undoPause_frame view.processes j) _ s
  have hpartitions : view.content (undonePartitions site j s).2 =
      view.content (undonePauses site j s).2 :=
    undoAll_frame (undoPartition_frame view.network j) _ _
  rw [corrupted_healAll, state_healAll]
  exact undoAll_invariant_self (P := view.Recoverable base) (fun _ _ _ => Recoverable.perm)
    (fun _ _ _ _ => Recoverable.done) (fun _ _ _ _ _ => Recoverable.kept)
    ((h.of_content hpauses).of_content hpartitions)

theorem recoverable_perform {j : Injector} (h : view.Recoverable base j.ledger.corrupted.toList s)
    (c : Call) : view.Recoverable base (perform site j s c).1.ledger.corrupted.toList
      (perform site j s c).2 := by
  cases c with
  | register name pid => exact h
  | inject e => exact recoverable_inject h e
  | heal => exact recoverable_healAll h
  | reset => exact h

/-! ### Runs -/

/-- Files that are not held may be changed by others, and are then what these have left. -/
theorem Recoverable.outside {m : SortedMap FileKey Backup} (h : view.Recoverable base m.toList s)
    (s' : σ) : view.Recoverable
      (fun key => if m.contains key then base key else view.content s' key) m.toList s' := by
  refine ⟨fun e he => ?_, fun key hkey => ?_⟩
  · have hmem : m.contains e.1 = true := SortedMap.mem_keys_iff.1 (List.mem_map_of_mem he)
    rw [if_pos hmem]
    exact h.saved e he
  · rw [SortedMap.mem_keys_iff] at hkey
    rw [if_neg hkey]

theorem Reaches.recoverable {settings : InjectorSettings} {j : Injector}
    (h : view.Reaches settings j s base) : view.Recoverable base j.ledger.corrupted.toList s := by
  induction h with
  | start s => exact ⟨fun e he => absurd he List.not_mem_nil, fun key _ => rfl⟩
  | call c _ ih => exact recoverable_perform ih c
  | outside s' _ ih => exact ih.outside s'

/-- **Damaged files can always be recovered.** Whatever calls an injector has had, each file is what
it was before the injector first touched it since it was last healed, or the file's entry in the
ledger holds just that; and after a healing without failures each file is so. -/
theorem files_recoverable {settings : InjectorSettings} {j : Injector}
    (h : view.Reaches settings j s base) :
    (∀ key, view.content s key = base key ∨
      ∃ b, j.ledger.corrupted.get? key = some b ∧ base key = some b.content) ∧
    ((j.healAll site s).1 = [] → view.content (j.healAll site s).2.2 = base) := by
  have hnow := h.recoverable
  refine ⟨fun key => ?_, fun hnil => ?_⟩
  · by_cases hkey : key ∈ j.ledger.corrupted.toList.map (·.1)
    · obtain ⟨e, he, rfl⟩ := List.mem_map.1 hkey
      exact .inr ⟨e.2, SortedMap.get?_eq_some_iff.2 he, (hnow.saved e he).2⟩
    · exact .inl (hnow.clean key hkey)
  · obtain ⟨-, -, hdamage⟩ := healAll_eq_nil_iff.1 hnil
    have hhealed := recoverable_healAll hnow
    rw [corrupted_healAll, hdamage] at hhealed
    exact funext fun key => hhealed.clean key List.not_mem_nil

/-- The state of a sandbox before a damage that runs out of time, another one that does not, and a
restore that fails midway. -/
def tornStart : Sandbox where
  replies := [.late, .done, .failed]
  files := [(Path.components "wal", [1, 2, 3])]

/-- The injector and the sandbox after these. -/
def tornRun : Injector × Sandbox :=
  performAll Sandbox.site
    (.new { (default : InjectorSettings) with targets := [{ name := "db" }] }) tornStart
    [.inject ⟨"1", "db", .corrupt (.truncate "wal" 2)⟩,
      .inject ⟨"2", "db", .corrupt (.flip "wal" 0 1)⟩, .heal]

/-- The failed restore has left one byte, and the next one brings all three back. -/
theorem files_recoverable_torn : tornRun.2.content (Path.components "wal") = some [1] ∧
    (tornRun.1.healAll Sandbox.site tornRun.2).2.2.content (Path.components "wal") =
      some [1, 2, 3] := by
  have hreaches : Sandbox.fileView.Reaches _ tornRun.1 tornRun.2 tornStart.content :=
    (Reaches.start tornStart).performAll _
  have hhealed := congrFun ((files_recoverable hreaches).2 (by decide +kernel))
    (Path.components "wal")
  exact ⟨by decide +kernel, hhealed.trans (by decide +kernel)⟩

end FileView

end FaultDrill
