import FaultDrill.Machine.Controller
import FaultDrill.Proofs.Files.Tree
import FaultDrill.Proofs.Injection.Failure

/-!
# FaultDrill.Proofs.Injection.Spelling

**A file has as many backups as its path has been spelled, and healing ends with the one that is
spelled last in the order of paths** (`healed_by_spelling`). The ledger tells files apart by the
components of their paths, while a machine tells them apart by where the paths lead to; through `..`
two spellings can lead to one file. Each spelling has a backup of what was in the file when it was
first damaged under that spelling, and all of them are written back.

Damage and healing replace bytes by other bytes, so where the paths lead to is what it was in the
beginning (`Damage.Tracked`), and what healing leaves at a place is the content of the last entry
that leads there (`Injector.undoAll_writesBack`).
-/

namespace FaultDrill

/-- The damage of a file, as an event. -/
structure Damage where
  checkpoint : Checkpoint
  target : String
  corruption : Corruption

namespace Damage

open Injector

/-- The event of a damage. -/
def event (d : Damage) : Event :=
  ⟨d.checkpoint, d.target, .corrupt d.corruption⟩

/-- The path of the file that is damaged. -/
def path (j : Injector) (d : Damage) : String :=
  j.registry.resolvePath d.target d.corruption.path

/-- What the ledger knows the file by. -/
def spelling (j : Injector) (d : Damage) : FileKey :=
  Path.components (d.path j)

/-- Whether the file at a place is damaged. -/
def Hits (j : Injector) (m : Machine) (d : Damage) (place : List String) : Prop :=
  m.files.place (d.path j) = .ok place

instance (j : Injector) (m : Machine) (d : Damage) (place : List String) :
    Decidable (d.Hits j m place) :=
  inferInstanceAs (Decidable (_ = _))

/-- The injector and the machine after damages. -/
def after (j : Injector) (m : Machine) (ds : List Damage) : Injector × Machine :=
  performAll Machine.site j m (ds.map fun d => .inject d.event)

/-- Each of the damages succeeds. -/
def Succeed (j : Injector) (m : Machine) (ds : List Damage) : Prop :=
  ∀ earlier d later, ds = earlier ++ d :: later →
    ∃ r, (inject Machine.site (after j m earlier).1 d.event (after j m earlier).2).1 = .ok r

/-- A damage is the first one with its spelling. -/
structure First (j : Injector) (ds earlier : List Damage) (d : Damage) : Prop where
  split : ∃ later, ds = earlier ++ d :: later
  new : ∀ d' ∈ earlier, d'.spelling j ≠ d.spelling j

/-- The backup of a damage holds what was in the file before it. -/
structure Saved (j : Injector) (m : Machine) (earlier : List Damage) (d : Damage) (b : Backup) :
    Prop where
  path : b.path = d.path j
  target : b.target = d.target
  content : (after j m earlier).2.files.read (d.path j) = .ok b.content

variable {j : Injector} {m : Machine} {ds earlier : List Damage} {d : Damage}

theorem after_concat (j : Injector) (m : Machine) (ds : List Damage) (d : Damage) :
    after j m (ds ++ [d]) = (inject Machine.site (after j m ds).1 d.event (after j m ds).2).2 := by
  unfold after performAll
  rw [List.map_append, List.foldl_append]
  rfl

/-- A damage of a longer list stands in the shorter one, or it is the last one. -/
theorem split_concat {last : Damage} {later : List Damage}
    (h : ds ++ [last] = earlier ++ d :: later) :
    (∃ rest, ds = earlier ++ d :: rest) ∨ earlier = ds ∧ d = last := by
  rcases List.eq_nil_or_concat later with rfl | ⟨rest, e, rfl⟩
  · obtain ⟨rfl, hlast⟩ := List.append_inj' h rfl
    exact .inr ⟨rfl, (List.singleton_inj.mp hlast).symm⟩
  · rw [List.concat_eq_append, ← List.cons_append, ← List.append_assoc] at h
    obtain ⟨hds, -⟩ := List.append_inj' h rfl
    exact .inl ⟨rest, hds⟩

theorem succeed_nil (j : Injector) (m : Machine) : Succeed j m [] := by
  intro earlier d later heq
  simp at heq

theorem Succeed.concat {r : InjectionRecord} (h : Succeed j m ds)
    (hok : (inject Machine.site (after j m ds).1 d.event (after j m ds).2).1 = .ok r) :
    Succeed j m (ds ++ [d]) := by
  intro earlier d' later hsplit
  rcases split_concat hsplit with ⟨rest, hbefore⟩ | ⟨rfl, rfl⟩
  · exact h earlier d' rest hbefore
  · exact ⟨r, hok⟩

theorem Succeed.of_concat (h : Succeed j m (ds ++ [d])) : Succeed j m ds ∧
    ∃ r, (inject Machine.site (after j m ds).1 d.event (after j m ds).2).1 = .ok r := by
  refine ⟨fun earlier d' later heq => ?_, h ds d [] rfl⟩
  exact h earlier d' (later ++ [d]) (by rw [heq]; simp)

/-! ### One damage -/

theorem snapshot_eq_ok {deadline : Nat} {path : String} {content : Bytes}
    (h : (snapshot Machine.site deadline path m).1 = .ok content) :
    m.files.read path = .ok content ∧ (snapshot Machine.site deadline path m).2 = m := by
  have hsize : Machine.site.sizeBy deadline path m = (some (m.files.sizeOf path), m) := rfl
  have hread : Machine.site.readBy deadline path m = (some (m.files.read path), m) := rfl
  unfold snapshot at h ⊢
  rw [hsize] at h ⊢
  cases hfound : m.files.sizeOf path with
  | error cause =>
      rw [hfound] at h
      cases h
  | ok size =>
      rw [hfound] at h
      dsimp only at h ⊢
      split
      · next hlarge =>
        rw [if_pos hlarge] at h
        cases h
      · next hsmall =>
        rw [if_neg hsmall] at h
        rw [hread] at h ⊢
        cases hbytes : m.files.read path with
        | error cause =>
            rw [hbytes] at h
            cases h
        | ok bytes =>
            rw [hbytes] at h
            obtain rfl := Except.ok.inj h
            exact ⟨rfl, rfl⟩

theorem writeBy_eq (deadline : Nat) (path : String) (content : Bytes) (m : Machine) :
    Machine.site.writeBy deadline path content m = match m.files.write path content with
      | .ok files => (some (.ok ()), { m with files := files })
      | .error e => (some (.error e), m) := by
  show (some (m.write path content).1, (m.write path content).2) = _
  unfold Machine.write
  cases m.files.write path content with
  | ok files => rfl
  | error e => rfl

/-- A damage that succeeds has saved what it has read, and has written over it. -/
theorem damage_eq_ok {target : String} {c : Corruption} {r : InjectionRecord}
    (h : (damage Machine.site j target c m).1 = .ok r) : ∃ old new files,
      m.files.read (j.registry.resolvePath target c.path) = .ok old ∧
      m.files.write (j.registry.resolvePath target c.path) new = .ok files ∧
      (damage Machine.site j target c m).2 =
        ({ j with ledger := j.ledger.saveFile target (j.registry.resolvePath target c.path) old },
          { m with files := files }) := by
  generalize hdamage : damage Machine.site j target c m = yielded at h ⊢
  cases damage_cases hdamage with
  | unknown | unread | beyondEnd => cases h
  | @written old new m₁ wrote _ hsnapshot _ hwrote =>
      obtain ⟨hread, hsame⟩ := snapshot_eq_ok (congrArg Prod.fst hsnapshot)
      rw [hsnapshot] at hsame
      obtain rfl : m₁ = m := hsame
      obtain ⟨hanswer, -⟩ := writeAnswer_eq_ok h
      rw [writeBy_eq] at hwrote
      cases hwrite : m₁.files.write (j.registry.resolvePath target c.path) new with
      | error e =>
          rw [hwrite] at hwrote
          subst hwrote
          cases hanswer
      | ok files =>
          rw [hwrite] at hwrote
          subst hwrote
          exact ⟨old, new, files, hread, hwrite, rfl⟩

/-! ### Damages one after the other -/

theorem First.concat (h : First j ds earlier d) (last : Damage) :
    First j (ds ++ [last]) earlier d where
  split := by
    obtain ⟨later, rfl⟩ := h.split
    exact ⟨later ++ [last], by simp⟩
  new := h.new

/-- With one more damage, either the first of a spelling has been so before, or it is the last
damage. -/
theorem First.of_concat {last : Damage} (h : First j (ds ++ [last]) earlier d) :
    First j ds earlier d ∨ earlier = ds ∧ d = last := by
  obtain ⟨later, hsplit⟩ := h.split
  exact (split_concat hsplit).imp_left fun hbefore => ⟨hbefore, h.new⟩

/-- What holds after damages that have all succeeded. -/
structure Tracked (j : Injector) (m : Machine) (ds : List Damage) : Prop where
  injector : ∃ corrupted, (after j m ds).1 = { j with ledger.corrupted := corrupted }
  layout : m.files.SameLayout (after j m ds).2.files
  readable : ∀ d ∈ ds, ∃ place, d.Hits j m place ∧ m.files.Readable place
  untouched : ∀ place, (∀ d ∈ ds, ¬ d.Hits j m place) →
    (after j m ds).2.files.kept? place = m.files.kept? place
  held : ∀ d ∈ ds, (after j m ds).1.ledger.corrupted.contains (d.spelling j) = true
  entries : ∀ key b, (after j m ds).1.ledger.corrupted.get? key = some b ↔
    ∃ earlier d, First j ds earlier d ∧ d.spelling j = key ∧ Saved j m earlier d b

theorem tracked_nil (hempty : j.ledger.corrupted = .empty) : Tracked j m [] where
  injector := ⟨j.ledger.corrupted, rfl⟩
  layout := .refl m.files
  readable := List.forall_mem_nil _
  untouched _ _ := rfl
  held := List.forall_mem_nil _
  entries key b := by
    show j.ledger.corrupted.get? key = some b ↔ _
    rw [hempty, SortedMap.get?_empty]
    refine ⟨nofun, ?_⟩
    rintro ⟨earlier, d, hfirst, -⟩
    obtain ⟨later, heq⟩ := hfirst.split
    simp at heq

/-- What one more damage does: it finds bytes at a place, offers them to the ledger, and changes
nothing but the bytes of this place. -/
structure Adds (j : Injector) (m : Machine) (ds : List Damage) (d : Damage) (old : Bytes)
    (place : List String) : Prop where
  read : (after j m ds).2.files.read (d.path j) = .ok old
  hits : d.Hits j m place
  readable : m.files.Readable place
  layout : m.files.SameLayout (after j m (ds ++ [d])).2.files
  others : ∀ other, other ≠ place →
    (after j m (ds ++ [d])).2.files.kept? other = (after j m ds).2.files.kept? other
  injector : ∃ corrupted, (after j m (ds ++ [d])).1 = { j with ledger.corrupted := corrupted }
  get? : ∀ key, (after j m (ds ++ [d])).1.ledger.corrupted.get? key =
    ((after j m ds).1.ledger.corrupted.get? key).or
      (if key = d.spelling j then some ⟨d.path j, d.target, old⟩ else none)

theorem Tracked.adds (h : Tracked j m ds) {r : InjectionRecord}
    (hok : (inject Machine.site (after j m ds).1 d.event (after j m ds).2).1 = .ok r) :
    ∃ old place, Adds j m ds d old place := by
  obtain ⟨corrupted, hinjector⟩ := h.injector
  have hdamage : (damage Machine.site (after j m ds).1 d.target d.corruption
    (after j m ds).2).1 = .ok r := hok
  obtain ⟨old, new, files, hread, hwrite, hafter⟩ := damage_eq_ok hdamage
  have hpath : (after j m ds).1.registry.resolvePath d.target d.corruption.path = d.path j := by
    rw [hinjector]
    rfl
  rw [hpath] at hread hwrite hafter
  replace hafter : after j m (ds ++ [d]) = _ := (after_concat j m ds d).trans hafter
  obtain ⟨place, hplace, hreadable, -⟩ := FileTree.readable_of_read hread
  obtain ⟨hlayout, hothers, -⟩ := FileTree.sameLayout_of_write hplace hreadable hwrite
  refine ⟨old, place, hread, (h.layout.place _ _).mp hplace, h.layout.readable_iff.mp hreadable,
    ?_, ?_, ?_, ?_⟩
  · rw [hafter]
    exact h.layout.trans hlayout
  · rw [hafter]
    exact hothers
  · rw [hafter, hinjector]
    exact ⟨_, rfl⟩
  · intro key
    rw [hafter]
    exact SortedMap.get?_insertIfNew_or _ _ _ _

/-- An entry stays what it is, and a new one is that of the first damage with its spelling. -/
theorem Tracked.entries_concat {old : Bytes} {place : List String} (h : Tracked j m ds)
    (hadds : Adds j m ds d old place) (key : FileKey) (b : Backup) :
    (after j m (ds ++ [d])).1.ledger.corrupted.get? key = some b ↔
      ∃ earlier d', First j (ds ++ [d]) earlier d' ∧ d'.spelling j = key ∧
        Saved j m earlier d' b := by
  rw [hadds.get?]
  cases hbefore : (after j m ds).1.ledger.corrupted.get? key with
  | some b' =>
      rw [Option.some_or, ← hbefore, h.entries]
      constructor
      · rintro ⟨earlier, d', hfirst, hsaved⟩
        exact ⟨earlier, d', hfirst.concat d, hsaved⟩
      · rintro ⟨earlier, d', hfirst, hkey, hsaved⟩
        rcases hfirst.of_concat with hfirst | ⟨rfl, rfl⟩
        · exact ⟨earlier, d', hfirst, hkey, hsaved⟩
        · -- there is an entry already, so the spelling is not new
          obtain ⟨earlier', d'', hfirst', hkey', -⟩ := (h.entries key b').mp hbefore
          obtain ⟨later, hds⟩ := hfirst'.split
          exact absurd (hkey'.trans hkey.symm) (hfirst.new d'' (by simp [hds]))
  | none =>
      rw [Option.none_or]
      constructor
      · intro heq
        split at heq
        · next hkey =>
          obtain rfl := Option.some.inj heq
          refine ⟨ds, d, ⟨⟨[], rfl⟩, fun d' hd' hsame => ?_⟩, hkey.symm, rfl, rfl, hadds.read⟩
          have hheld := h.held d' hd'
          rw [SortedMap.contains, hsame, ← hkey, hbefore] at hheld
          cases hheld
        · cases heq
      · rintro ⟨earlier, d', hfirst, hkey, hsaved⟩
        rcases hfirst.of_concat with hfirst | ⟨rfl, rfl⟩
        · have hold := (h.entries key b).mpr ⟨earlier, d', hfirst, hkey, hsaved⟩
          rw [hbefore] at hold
          cases hold
        · obtain rfl := Except.ok.inj (hadds.read.symm.trans hsaved.content)
          rw [if_pos hkey.symm, ← hsaved.path, ← hsaved.target]

theorem Tracked.concat {old : Bytes} {place : List String} (h : Tracked j m ds)
    (hadds : Adds j m ds d old place) : Tracked j m (ds ++ [d]) where
  injector := hadds.injector
  layout := hadds.layout
  readable := by
    intro d' hd'
    rcases List.mem_append.mp hd' with hd' | hd'
    · exact h.readable d' hd'
    · rw [List.mem_singleton.mp hd']
      exact ⟨place, hadds.hits, hadds.readable⟩
  untouched := by
    intro other hnone
    have hne : other ≠ place := by
      rintro rfl
      exact hnone d (by simp) hadds.hits
    rw [hadds.others other hne]
    exact h.untouched other fun d' hd' => hnone d' (by simp [hd'])
  held := by
    intro d' hd'
    rw [SortedMap.contains, hadds.get?, Option.isSome_or, Bool.or_eq_true]
    rcases List.mem_append.mp hd' with hd' | hd'
    · exact .inl (h.held d' hd')
    · rw [List.mem_singleton.mp hd', if_pos rfl]
      exact .inr rfl
  entries := h.entries_concat hadds

/-- Damages that all succeed are tracked. -/
theorem Succeed.tracked (hempty : j.ledger.corrupted = .empty) (h : Succeed j m ds) :
    Tracked j m ds := by
  induction ds using List.reverseRecOn with
  | nil => exact tracked_nil hempty
  | append_singleton ds d ih =>
      obtain ⟨hearlier, r, hok⟩ := h.of_concat
      have htracked := ih hearlier
      obtain ⟨old, place, hadds⟩ := htracked.adds hok
      exact htracked.concat hadds

/-! ### Healing -/

end Damage

namespace Injector

theorem undoDamage_eq_none {entry : FileKey × Backup} {m m' : Machine}
    (h : undoDamage Machine.site entry m = (none, m')) :
    ∃ files, m.files.write entry.2.path entry.2.content = .ok files ∧
      m' = { m with files := files } := by
  have hwrite : m.write entry.2.path entry.2.content = (.ok (), m') := FileView.undoDamage_none h
  unfold Machine.write at hwrite
  split at hwrite
  · next files heq => exact ⟨files, heq, (Prod.mk.inj hwrite).2.symm⟩
  · cases hwrite

/-- What writing the saved files of entries back makes of the files. Where an entry leads, the
content of the last one that leads there is left, and nothing else changes. -/
structure WritesBack (entries : List (FileKey × Backup)) (files files' : FileTree) : Prop where
  layout : files.SameLayout files'
  others : ∀ place, (∀ e ∈ entries, files.place e.2.path ≠ .ok place) →
    files'.kept? place = files.kept? place
  last : ∀ place earlier e later, entries = earlier ++ e :: later →
    files.place e.2.path = .ok place → (∀ e' ∈ later, files.place e'.2.path ≠ .ok place) →
      (files.kept? place).isSome = true → files'.kept? place = some e.2.content

theorem WritesBack.nil (files : FileTree) : WritesBack [] files files where
  layout := .refl files
  others _ _ := rfl
  last _ earlier e later heq := by simp at heq

/-- No path leads elsewhere after a write, so what is said of the entries behind the first one
holds of the files before it. -/
theorem WritesBack.cons {entry : FileKey × Backup} {rest : List (FileKey × Backup)}
    {files files₁ files' : FileTree} {place₀ : List String}
    (hplace₀ : files.place entry.2.path = .ok place₀) (hread₀ : files.Readable place₀)
    (hwrite : files.write entry.2.path entry.2.content = .ok files₁)
    (h : WritesBack rest files₁ files') : WritesBack (entry :: rest) files files' := by
  obtain ⟨hlayout, hothers, hself⟩ := FileTree.sameLayout_of_write hplace₀ hread₀ hwrite
  have hmiss : ∀ {place} {l : List (FileKey × Backup)},
      (∀ e ∈ l, files.place e.2.path ≠ .ok place) → ∀ e ∈ l, files₁.place e.2.path ≠ .ok place :=
    fun hl e he hplace => hl e he ((hlayout.place _ _).mp hplace)
  refine ⟨hlayout.trans h.layout, fun place hnone => ?_, fun place earlier e later heq => ?_⟩
  · obtain ⟨hfirst, hrest⟩ := List.forall_mem_cons.mp hnone
    have hne : place ≠ place₀ := by
      rintro rfl
      exact hfirst hplace₀
    exact (h.others place (hmiss hrest)).trans (hothers place hne)
  · intro hplace hmissed hkept
    cases earlier with
    | nil =>
        obtain ⟨rfl, rfl⟩ := List.cons.inj heq
        obtain rfl := Except.ok.inj (hplace.symm.trans hplace₀)
        exact (h.others place (hmiss hmissed)).trans (hself hkept)
    | cons x earlier =>
        obtain ⟨-, heq⟩ := List.cons.inj heq
        exact h.last place earlier e later heq ((hlayout.place _ _).mpr hplace) (hmiss hmissed)
          ((hlayout.isSome_kept? place).trans hkept)

/-- Entries that can all be undone are written back one after the other. -/
theorem undoAll_writesBack {entries : List (FileKey × Backup)} {m : Machine}
    (hreadable : ∀ e ∈ entries,
      ∃ place, m.files.place e.2.path = .ok place ∧ m.files.Readable place)
    (hnil : (undoAll (undoDamage Machine.site) entries m).1 = []) :
    WritesBack entries m.files (undoAll (undoDamage Machine.site) entries m).2.files := by
  induction entries generalizing m with
  | nil => exact .nil m.files
  | cons entry rest ih =>
      obtain ⟨m₁, hundo, hrest, hstate⟩ := undoAll_cons_eq_nil hnil
      obtain ⟨files, hwrite, rfl⟩ := undoDamage_eq_none hundo
      obtain ⟨⟨place₀, hplace₀, hread₀⟩, hothers⟩ := List.forall_mem_cons.mp hreadable
      obtain ⟨hlayout, -, -⟩ := FileTree.sameLayout_of_write hplace₀ hread₀ hwrite
      rw [hstate]
      refine .cons hplace₀ hread₀ hwrite (ih (fun e he => ?_) hrest)
      obtain ⟨place, hplace, hread⟩ := hothers e he
      exact ⟨place, (hlayout.place _ _).mpr hplace, hlayout.readable_iff.mpr hread⟩

end Injector

namespace Damage

open Injector

variable {j : Injector} {m : Machine} {ds earlier : List Damage} {d : Damage}

/-- After damages alone, healing is writing the saved files back. -/
theorem Tracked.healAll_eq (hempty : j.ledger = {}) (h : Tracked j m ds) :
    let run := after j m ds
    let undone := undoAll (undoDamage Machine.site) run.1.ledger.corrupted.toList run.2
    (run.1.healAll Machine.site run.2).1 = undone.1.map (·.2) ∧
      (run.1.healAll Machine.site run.2).2.2 = undone.2 := by
  intro run
  obtain ⟨corrupted, hinjector⟩ := h.injector
  have hinjector : run.1 = _ := hinjector
  rw [hinjector, hempty]
  exact ⟨rfl, rfl⟩

/-- The first damages of all spellings lead to the same places as the entries. -/
theorem Tracked.entry_place (h : Tracked j m ds) {e : FileKey × Backup}
    (he : e ∈ (after j m ds).1.ledger.corrupted.toList) : ∃ d ∈ ds, d.spelling j = e.1 ∧
      ∀ place, (after j m ds).2.files.place e.2.path = .ok place ↔ d.Hits j m place := by
  obtain ⟨earlier, d, hfirst, hkey, hsaved⟩ :=
    (h.entries e.1 e.2).mp (SortedMap.get?_eq_some_iff.mpr he)
  obtain ⟨later, hds⟩ := hfirst.split
  refine ⟨d, by simp [hds], hkey, fun place => ?_⟩
  rw [hsaved.path]
  exact h.layout.place _ _

/-- The damages before one of them have succeeded, and so has this one. -/
theorem Succeed.of_split {later : List Damage} (h : Succeed j m ds)
    (hsplit : ds = earlier ++ d :: later) : Succeed j m earlier ∧
      ∃ r, (inject Machine.site (after j m earlier).1 d.event (after j m earlier).2).1 = .ok r := by
  refine ⟨fun before d' between heq => ?_, h earlier d later hsplit⟩
  exact h before d' (between ++ d :: later) (by rw [hsplit, heq]; simp)

/-- The backup of a spelling is what its first damage has found. -/
theorem Succeed.entry (hempty : j.ledger = {}) (h : Succeed j m ds)
    (hfirst : First j ds earlier d) :
    ∃ b, (after j m ds).1.ledger.corrupted.get? (d.spelling j) = some b ∧
      Saved j m earlier d b := by
  have hnone : j.ledger.corrupted = .empty := by rw [hempty]
  obtain ⟨later, hsplit⟩ := hfirst.split
  obtain ⟨hearlier, r, hok⟩ := h.of_split hsplit
  obtain ⟨old, place, hadds⟩ := (hearlier.tracked hnone).adds hok
  have hsaved : Saved j m earlier d ⟨d.path j, d.target, old⟩ := ⟨rfl, rfl, hadds.read⟩
  exact ⟨_, ((h.tracked hnone).entries _ _).mpr ⟨earlier, d, hfirst, rfl, hsaved⟩, hsaved⟩

/-- No spelling of the file at a place comes after that of a damage. -/
def Greatest (j : Injector) (m : Machine) (ds : List Damage) (d : Damage) (place : List String) :
    Prop :=
  d.Hits j m place ∧
    ∀ d' ∈ ds, d'.Hits j m place → compare (d'.spelling j) (d.spelling j) ≠ .gt

/-- Of the entries that lead to a place, that of the greatest spelling is the last. -/
theorem Tracked.last_entry {place : List String} {b : Backup} (h : Tracked j m ds)
    (hgreatest : Greatest j m ds d place)
    (hget : (after j m ds).1.ledger.corrupted.get? (d.spelling j) = some b) :
    ∃ before behind, (after j m ds).1.ledger.corrupted.toList =
        before ++ (d.spelling j, b) :: behind ∧
      ∀ e ∈ behind, (after j m ds).2.files.place e.2.path ≠ .ok place := by
  have hmem := SortedMap.get?_eq_some_iff.mp hget
  obtain ⟨before, behind, hsplit⟩ := List.append_of_mem hmem
  refine ⟨before, behind, hsplit, fun e he hplace => ?_⟩
  have hin : e ∈ (after j m ds).1.ledger.corrupted.toList := by
    rw [hsplit]
    exact List.mem_append_right _ (List.mem_cons_of_mem _ he)
  obtain ⟨d', hd', hkey, hleads⟩ := h.entry_place hin
  have hsorted : ((after j m ds).1.ledger.corrupted.toList).Pairwise
      fun a b => compare a.1 b.1 = .lt := (after j m ds).1.ledger.corrupted.sorted
  rw [hsplit] at hsorted
  have hlt : compare (d.spelling j) e.1 = .lt :=
    List.rel_of_pairwise_cons (List.pairwise_append.mp hsorted).2.1 he
  rw [← hkey] at hlt
  exact hgreatest.2 d' hd' ((hleads place).mp hplace) (Std.OrientedCmp.gt_iff_lt.mpr hlt)

/-- The saved files can be written back where they have been read. -/
theorem Tracked.entries_readable (h : Tracked j m ds) :
    ∀ e ∈ (after j m ds).1.ledger.corrupted.toList, ∃ place,
      (after j m ds).2.files.place e.2.path = .ok place ∧
        (after j m ds).2.files.Readable place := by
  intro e he
  obtain ⟨d, hd, -, hleads⟩ := h.entry_place he
  obtain ⟨place, hhits, hread⟩ := h.readable d hd
  exact ⟨place, (hleads place).mpr hhits, h.layout.readable_iff.mpr hread⟩

/-- Healing without failures changes nothing but bytes, and none where nothing has been damaged. -/
theorem Tracked.healed_untouched (hempty : j.ledger = {}) (h : Tracked j m ds)
    (hnil : ((after j m ds).1.healAll Machine.site (after j m ds).2).1 = []) :
    let healed := ((after j m ds).1.healAll Machine.site (after j m ds).2).2.2.files
    m.files.SameLayout healed ∧ ∀ place, (∀ d ∈ ds, ¬ d.Hits j m place) →
      healed.kept? place = m.files.kept? place := by
  obtain ⟨hfailures, hstate⟩ := h.healAll_eq hempty
  rw [hfailures, List.map_eq_nil_iff] at hnil
  have hwritten := undoAll_writesBack h.entries_readable hnil
  rw [hstate]
  refine ⟨h.layout.trans hwritten.layout, fun place hnone => ?_⟩
  rw [hwritten.others place, h.untouched place hnone]
  intro e he hplace
  obtain ⟨d, hd, -, hleads⟩ := h.entry_place he
  exact hnone d hd ((hleads place).mp hplace)

/-- What healing without failures leaves at a place is what was there before the first damage of its
greatest spelling. -/
theorem Succeed.kept?_healed {place : List String} (hempty : j.ledger = {}) (h : Succeed j m ds)
    (hnil : ((after j m ds).1.healAll Machine.site (after j m ds).2).1 = [])
    (hfirst : First j ds earlier d) (hgreatest : Greatest j m ds d place) :
    ((after j m ds).1.healAll Machine.site (after j m ds).2).2.2.files.kept? place =
      (after j m earlier).2.files.kept? place := by
  have hnone : j.ledger.corrupted = .empty := by rw [hempty]
  have htracked := h.tracked hnone
  obtain ⟨later, hsplit⟩ := hfirst.split
  have hbefore := (h.of_split hsplit).1.tracked hnone
  obtain ⟨b, hget, hsaved⟩ := h.entry hempty hfirst
  obtain ⟨before, behind, hentries, hbehind⟩ := htracked.last_entry hgreatest hget
  have hleads : ∀ place, (after j m ds).2.files.place b.path = .ok place ↔ d.Hits j m place := by
    intro place
    rw [hsaved.path]
    exact htracked.layout.place _ _
  obtain ⟨hhealed, -⟩ := htracked.healed_untouched hempty hnil
  obtain ⟨hfailures, hstate⟩ := htracked.healAll_eq hempty
  rw [hfailures, List.map_eq_nil_iff] at hnil
  have hlast := (undoAll_writesBack htracked.entries_readable hnil).last place _ _ _ hentries
    ((hleads place).mpr hgreatest.1) hbehind
  rw [← hstate, htracked.layout.isSome_kept?] at hlast
  obtain ⟨place', hplace', -, hold⟩ := FileTree.readable_of_read hsaved.content
  have hsame : d.Hits j m place' := (hbefore.layout.place _ _).mp hplace'
  obtain rfl := Except.ok.inj (hsame.symm.trans hgreatest.1)
  cases hkept : (after j m earlier).2.files.kept? place' with
  | none =>
      have hhealed := hhealed.isSome_kept? place'
      rw [← hbefore.layout.isSome_kept?, hkept] at hhealed
      exact Option.isNone_iff_eq_none.mp (by simpa using hhealed)
  | some old =>
      rw [hold old hkept]
      exact hlast (by rw [← hbefore.layout.isSome_kept?, hkept]; rfl)

/-- The first damage of the file at a place is the first one with its spelling. -/
theorem Tracked.first_of_hits {place : List String} {later : List Damage} (h : Tracked j m ds)
    (hsplit : ds = earlier ++ d :: later) (hhits : d.Hits j m place)
    (hnone : ∀ d' ∈ earlier, ¬ d'.Hits j m place) : First j ds earlier d where
  split := ⟨later, hsplit⟩
  new := by
    intro d' hd' hsame
    obtain ⟨place', hhits', -⟩ := h.readable d' (by simp [hsplit, hd'])
    obtain rfl := FileTree.place_unique hsame hhits' hhits
    exact hnone d' hd' hhits'

/-- **Healing leaves a file as it was before the first damage of its greatest spelling.** After
damages that all succeed the ledger has one entry for each spelling, with what the first damage of
the spelling has found. So after a healing without failures every path leads where it led; what has
not been damaged is as it was; and any other file has what was in it before the first damage that
spells it in the way that comes last in the order of paths. This is what was in it before all of
them if the first one spells it so, as it does if all spell it alike. -/
theorem healed_by_spelling (hempty : j.ledger = {}) (hok : Succeed j m ds) :
    let run := after j m ds
    let healed := run.1.healAll Machine.site run.2
    (∀ d ∈ ds, run.1.ledger.corrupted.contains (d.spelling j) = true) ∧
    (∀ key b, run.1.ledger.corrupted.get? key = some b ↔
      ∃ earlier d, First j ds earlier d ∧ d.spelling j = key ∧ Saved j m earlier d b) ∧
    (healed.1 = [] → m.files.SameLayout healed.2.2.files ∧ ∀ place,
      ((∀ d ∈ ds, ¬ d.Hits j m place) →
        healed.2.2.files.kept? place = m.files.kept? place) ∧
      (∀ earlier d, First j ds earlier d → Greatest j m ds d place →
        healed.2.2.files.kept? place = (after j m earlier).2.files.kept? place) ∧
      ∀ earlier d later, ds = earlier ++ d :: later → Greatest j m ds d place →
        (∀ d' ∈ earlier, ¬ d'.Hits j m place) →
        healed.2.2.files.kept? place = m.files.kept? place) := by
  intro run healed
  have hnone : j.ledger.corrupted = .empty := by rw [hempty]
  have htracked := hok.tracked hnone
  refine ⟨htracked.held, htracked.entries, fun hnil => ?_⟩
  obtain ⟨hlayout, huntouched⟩ := htracked.healed_untouched hempty hnil
  refine ⟨hlayout, fun place => ⟨huntouched place, ?_, ?_⟩⟩
  · intro earlier d hfirst hgreatest
    exact hok.kept?_healed hempty hnil hfirst hgreatest
  · intro earlier d later hsplit hgreatest hmissed
    have hfirst := htracked.first_of_hits hsplit hgreatest.1 hmissed
    have hbefore := (hok.of_split hsplit).1.tracked hnone
    exact (hok.kept?_healed hempty hnil hfirst hgreatest).trans (hbefore.untouched place hmissed)

/-- An injector with one target that has a data directory. -/
def spelledInjector : Injector :=
  .new { (default : InjectorSettings) with targets := [{ name := "db", dataDir := some "data" }] }

/-- Where the only file of that directory stands. -/
def walPlace : List String := ["work", "data", "wal"]

/-- A machine with this file and a directory beside it. -/
def spelledMachine : Machine where
  files := { entries := .ofList [(["work", "data"], .directory),
    (["work", "data", "d"], .directory), (walPlace, .file [97, 98, 99])] }

/-- A damage that names the file. -/
def straight : Damage := ⟨"1", "db", .truncate "wal" 2⟩

/-- A damage that names the file by way of the directory beside it. -/
def roundabout : Damage := ⟨"2", "db", .truncate "d/../wal" 1⟩

theorem succeed_pair {d d' : Damage} (hfirst : (inject Machine.site j d.event m).1 = .ok {})
    (hsecond : (inject Machine.site (after j m [d]).1 d'.event (after j m [d]).2).1 = .ok {}) :
    Succeed j m [d, d'] := by
  have hone : Succeed j m ([] ++ [d]) := (succeed_nil j m).concat hfirst
  exact hone.concat hsecond

/-- The longer spelling comes first in the order of paths, so it does no harm where it comes second
in time. -/
theorem healed_by_spelling_straight :
    let run := after spelledInjector spelledMachine [straight, roundabout]
    spelledInjector.ledger = {} ∧
      Succeed spelledInjector spelledMachine [straight, roundabout] ∧
      (run.1.healAll Machine.site run.2).2.2.files.kept? walPlace = some [97, 98, 99] := by
  intro run
  have hok : Succeed spelledInjector spelledMachine [straight, roundabout] :=
    succeed_pair (by decide +kernel) (by decide +kernel)
  have hgreatest : Greatest spelledInjector spelledMachine [straight, roundabout] straight
      walPlace := by
    refine ⟨by decide +kernel, fun d hd _ => ?_⟩
    rcases List.mem_pair.mp hd with rfl | rfl
    · decide +kernel
    · decide +kernel
  obtain ⟨-, -, hhealed⟩ := healed_by_spelling (j := spelledInjector) rfl hok
  obtain ⟨-, hplaces⟩ := hhealed (by decide +kernel)
  have hrestored := (hplaces walPlace).2.2 [] straight [roundabout] rfl hgreatest
    (List.forall_mem_nil _)
  exact ⟨rfl, hok, hrestored.trans (by decide +kernel)⟩

/-- The shorter spelling comes last in the order of paths, so where it comes second in time the file
is left as it was before that damage, and not as it was before both. -/
theorem roundabout_not_restored :
    let run := after spelledInjector spelledMachine [roundabout, straight]
    let healed := run.1.healAll Machine.site run.2
    Succeed spelledInjector spelledMachine [roundabout, straight] ∧
      roundabout.Hits spelledInjector spelledMachine walPlace ∧
      straight.Hits spelledInjector spelledMachine walPlace ∧
      run.1.ledger.corrupted.toList.length = 2 ∧ healed.1 = [] ∧
      spelledMachine.files.kept? walPlace = some [97, 98, 99] ∧
      healed.2.2.files.kept? walPlace = some [97] := by
  have hok : Succeed spelledInjector spelledMachine [roundabout, straight] :=
    succeed_pair (by decide +kernel) (by decide +kernel)
  exact ⟨hok, by decide +kernel, by decide +kernel, by decide +kernel, by decide +kernel,
    by decide +kernel, by decide +kernel⟩

end Damage

end FaultDrill
