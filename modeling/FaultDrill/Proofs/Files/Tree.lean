import FaultDrill.Files.Tree
import FaultDrill.Proofs.Outcome
import FaultDrill.Proofs.Text.Blank

/-!
# FaultDrill.Proofs.Files.Tree

**What has been written to a path stands there** (`find_write`), **and what has been appended stands
at the end of what was there** (`find_append`). Writing puts a file at the place that the path leads
to, and this place must be the one that the path leads to afterwards. A walk looks at nothing but the
entries on its way (`walk_cons_eq_ok`), and it passes the place itself only at its end: what stands
there is no directory, and a walk that passes a link never comes back to where the link stands
(`follow_avoids`). So a file in that place lets the walk end where it has ended (`follow_put`).

Where bytes stand already, new ones change nothing but these: all paths go on to lead where they led
(`sameLayout_of_write`). Two paths with the same components lead to the same place
(`place_unique`), but paths with other components may lead there too.
-/

namespace FaultDrill.FileTree

variable {t : FileTree} {p : List String}
  {onLink : List String → List String → Except FileError (List String)}

theorem entryAt?_put_of_ne {place : List String} (h : place ≠ p) (content : Bytes) :
    (t.put p content).entryAt? place = t.entryAt? place := by
  have hne : compare place p ≠ .eq := fun heq => h (Std.LawfulEqOrd.eq_of_compare heq)
  simp [entryAt?, put, SortedMap.get?_insert_of_ne _ _ hne]

/-! ### One step -/

/-- When a walk gets past one step: what the step leads to decides. -/
theorem walk_cons_eq_ok {here rest place : List String} {step : String} :
    t.walk true onLink here (step :: rest) = .ok place ↔
      if step = ".." then t.walk true onLink here.dropLast rest = .ok place
      else step.utf8ByteSize ≤ maxNameBytes ∧
        match t.entryAt? (here ++ [step]) with
        | some (.link target) =>
          onLink (originIn here target) (Path.steps target ++ rest) = .ok place
        | some .directory => t.walk true onLink (here ++ [step]) rest = .ok place
        | _ => rest = [] ∧ here ++ [step] = place := by
  rw [walk]
  by_cases hup : step = ".."
  · rw [if_pos hup, if_pos hup]
  · rw [if_neg hup, if_neg hup]
    by_cases hlong : maxNameBytes < step.utf8ByteSize
    · rw [if_pos hlong]
      exact ⟨nofun, fun h => absurd h.1 (by omega)⟩
    · rw [if_neg hlong]
      have hfits : step.utf8ByteSize ≤ maxNameBytes := by omega
      have hlast : ∀ e : FileError,
          (if rest.isEmpty then Except.ok (here ++ [step]) else .error e) = .ok place ↔
            rest = [] ∧ here ++ [step] = place := fun e => by cases rest <;> simp
      rcases t.entryAt? (here ++ [step]) with - | entry
      · simpa [hfits] using hlast .notFound
      · cases entry with
        | link target => simp [hfits]
        | directory => simp [hfits]
        | file content => simpa [hfits] using hlast .notDirectory
        | device d => simpa [hfits] using hlast .notDirectory
        | program name => simpa [hfits] using hlast .notDirectory

theorem not_prefix_originIn {here : List String} (h : ¬ p <+: here) (path : String) :
    ¬ p <+: originIn here path := by
  unfold originIn
  split
  · exact fun hp => h (by rw [List.prefix_nil.1 hp]; exact List.nil_prefix)
  · exact h

/-! ### Links that are passed -/

/-- A walk that starts outside of what a link hides ends outside of it. -/
theorem walk_avoids {target : String} (hlink : t.entryAt? p = some (.link target))
    (honLink : ∀ {here steps place}, ¬ p <+: here → onLink here steps = .ok place → ¬ p <+: place)
    {here steps place : List String} (hhere : ¬ p <+: here)
    (h : t.walk true onLink here steps = .ok place) : ¬ p <+: place := by
  induction steps generalizing here with
  | nil =>
      obtain rfl := Except.ok.inj h
      exact hhere
  | cons step rest ih =>
      have hstep : here ++ [step] ≠ p → ¬ p <+: here ++ [step] := fun hne hprefix =>
        (List.prefix_concat_iff.1 hprefix).elim (fun heq => hne heq.symm) hhere
      rw [walk_cons_eq_ok] at h
      split at h
      · exact ih (fun hp => hhere (hp.trans (List.dropLast_prefix here))) h
      · obtain ⟨-, h⟩ := h
        split at h
        · exact honLink (not_prefix_originIn hhere _) h
        · next hentry =>
          exact ih (hstep fun heq => by rw [heq, hlink] at hentry; cases hentry) h
        · next hnolink _ =>
          obtain ⟨-, rfl⟩ := h
          exact hstep fun heq => hnolink target (heq ▸ hlink)

theorem follow_avoids {target : String} (hlink : t.entryAt? p = some (.link target))
    {links : Nat} {here steps place : List String} (hhere : ¬ p <+: here)
    (h : t.follow true links here steps = .ok place) : ¬ p <+: place := by
  induction links generalizing here steps place with
  | zero => exact walk_avoids hlink (fun _ h => by cases h) hhere h
  | succ links ih => exact walk_avoids hlink ih hhere h

/-! ### What a file in place of an entry changes -/

/-- Where a walk leads to, it leads when a file stands there that stands in the place of no
directory. -/
theorem walk_put (hdir : t.entryAt? p ≠ some .directory) (content : Bytes)
    {onLink' : List String → List String → Except FileError (List String)}
    (honLink : ∀ {here steps}, onLink here steps = .ok p → onLink' here steps = .ok p)
    (havoid : ∀ {target here steps}, t.entryAt? p = some (.link target) → ¬ p <+: here →
      onLink here steps ≠ .ok p)
    {here steps : List String} (h : t.walk true onLink here steps = .ok p) :
    (t.put p content).walk true onLink' here steps = .ok p := by
  induction steps generalizing here with
  | nil => exact h
  | cons step rest ih =>
      rw [walk_cons_eq_ok] at h ⊢
      split at h
      · next hup =>
        rw [if_pos hup]
        exact ih h
      · next hup =>
        rw [if_neg hup]
        refine h.imp_right fun h => ?_
        by_cases heq : here ++ [step] = p
        · have hhere : ¬ p <+: here := fun hp => by
            have := hp.length_le
            rw [← heq, List.length_append, List.length_singleton] at this
            omega
          rw [heq, entryAt?_put_self]
          rw [heq] at h
          split at h
          · next hlink => exact absurd h (havoid hlink (not_prefix_originIn hhere _))
          · next hentry => exact absurd hentry hdir
          · exact h
        · rw [entryAt?_put_of_ne heq]
          split at h
          · exact honLink h
          · exact ih h
          · exact h

theorem follow_put (hdir : t.entryAt? p ≠ some .directory) (content : Bytes) {links : Nat}
    {here steps : List String} (h : t.follow true links here steps = .ok p) :
    (t.put p content).follow true links here steps = .ok p := by
  induction links generalizing here steps with
  | zero => exact walk_put hdir content (fun h => by cases h) (fun _ _ h => by cases h) h
  | succ links ih =>
      exact walk_put hdir content ih
        (fun hlink hhere h => follow_avoids hlink hhere h (List.prefix_refl p)) h

theorem place_put {path : String} (h : t.place path = .ok p)
    (hdir : t.entryAt? p ≠ some .directory) (content : Bytes) :
    (t.put p content).place path = .ok p := by
  unfold place placeBy at h ⊢
  obtain ⟨u, hcheck, h⟩ := Outcome.bind_eq_ok.1 h
  refine Outcome.bind_eq_ok.2 ⟨u, hcheck, ?_⟩
  split
  · next hempty => rw [if_pos hempty] at h; cases h
  · next hempty =>
    rw [if_neg hempty] at h
    exact follow_put hdir content h

/-! ### Reading what was written -/

/-- A file can be written where a path leads to, unless a directory stands there or the path asks
for one. -/
theorem writable_eq_ok {path : String} : t.writable path = .ok p ↔
    t.place path = .ok p ∧ t.entryAt? p ≠ some .directory ∧ Path.namesDirectory path = false := by
  unfold writable
  rw [Outcome.bind_eq_ok]
  constructor
  · rintro ⟨place, hplace, h⟩
    split at h
    · cases h
    · next entry hne hentry =>
      split at h
      · cases h
      · next hnames =>
        obtain rfl := Except.ok.inj h
        exact ⟨hplace, by simpa [hentry] using hne, by simpa using hnames⟩
    · next hentry =>
      split at h
      · cases h
      · next hnames =>
        obtain rfl := Except.ok.inj h
        exact ⟨hplace, by simp [hentry], by simpa using hnames⟩
  · rintro ⟨hplace, hdir, hnames⟩
    refine ⟨p, hplace, ?_⟩
    split
    · next hentry => exact absurd hentry hdir
    · simp [hnames, pure, Except.pure]
    · simp [hnames, pure, Except.pure]

/-- **What has been written to a path stands there**, unless a device does, which keeps nothing. -/
theorem find_write {t' : FileTree} {path : String} {content : Bytes}
    (h : t.write path content = .ok t') :
    t'.find path = .ok (.file content) ∨ t' = t ∧ ∃ d, t.find path = .ok (.device d) := by
  unfold write at h
  obtain ⟨place, hplace, hwrite⟩ := Outcome.bind_eq_ok.1 h
  obtain ⟨hplace, hdir, hnames⟩ := writable_eq_ok.1 hplace
  unfold find
  unfold writeAt at hwrite
  split at hwrite
  · next d hentry =>
    split at hwrite
    · refine .inr ⟨(Except.ok.inj hwrite).symm, d, ?_⟩
      rw [hplace]
      simp [bind, Except.bind, entryOf, hentry, hnames]
    · cases hwrite
  · obtain rfl := Except.ok.inj hwrite
    left
    rw [place_put hplace hdir]
    simp [bind, Except.bind, entryOf, entryAt?_put_self, hnames]

/-- What a path leads to, when a file can be written there. -/
theorem find_of_writable {path : String} (h : t.writable path = .ok p) :
    t.find path = match t.entryAt? p with
      | some entry => .ok entry
      | none => .error .notFound := by
  obtain ⟨hplace, -, hnames⟩ := writable_eq_ok.1 h
  unfold find entryOf
  rw [hplace]
  cases hentry : t.entryAt? p with
  | none => simp [bind, Except.bind, hentry]
  | some entry => cases entry <;> simp [bind, Except.bind, hentry, hnames]

/-- **What is appended stands at the end of what was there**, and alone where nothing was. -/
theorem find_append {t' : FileTree} {path : String} {old content : Bytes}
    (hold : t.find path = .ok (.file old) ∨ t.find path = .error .notFound ∧ old = [])
    (h : t.append path content = .ok t') : t'.find path = .ok (.file (old ++ content)) := by
  unfold append at h
  obtain ⟨place, hplace, h⟩ := Outcome.bind_eq_ok.1 h
  have hfind := find_of_writable hplace
  have hwrite : ∀ {c : Bytes}, t.writeAt place c = .ok t' → t.write path c = .ok t' := fun hat => by
    unfold write
    exact Outcome.bind_eq_ok.2 ⟨place, hplace, hat⟩
  have hwritten : t.write path (old ++ content) = .ok t' := by
    split at h
    · next was hentry =>
      rw [hentry] at hfind
      rcases hold with hold | ⟨hold, -⟩
      · obtain rfl : old = was := by simpa using hold.symm.trans hfind
        exact hwrite h
      · cases hold.symm.trans hfind
    · next hfile =>
      -- no file stands there, so none can be found
      rcases hold with hold | ⟨-, rfl⟩
      · refine absurd ?_ (hfile old)
        cases hentry : t.entryAt? place <;> rw [hentry, hold] at hfind
        · cases hfind
        · rw [Except.ok.inj hfind]
      · exact hwrite h
  refine (find_write hwritten).resolve_right fun ⟨_, d, hdevice⟩ => ?_
  have hne : t.find path ≠ .ok (.device d) := by
    rcases hold with hold | ⟨hold, -⟩ <;> simp [hold]
  exact hne hdevice

/-! ### Paths with the same components -/

/-- What stands before the steps of a path in its components. -/
def lead (path : String) : List String :=
  if Path.isAbsolute path then ["/"]
  else if (Path.pieces path).head? = some "." then ["."]
  else []

theorem snd_components (path : String) :
    (Path.components path).map (·.2) = lead path ++ Path.steps path := by
  have hranked : (·.2) ∘ Path.ranked = id := funext fun step => by
    unfold Path.ranked
    rw [Function.comp_apply]
    split_ifs <;> rfl
  show ((lead path ++ Path.steps path).map Path.ranked).map (·.2) = _
  rw [List.map_map, hranked, List.map_id]

theorem ne_of_mem_steps {path step : String} (h : step ∈ Path.steps path) :
    step ≠ "/" ∧ step ≠ "." := by
  obtain ⟨hpiece, hstep⟩ := List.mem_filter.1 h
  obtain ⟨piece, hmem, rfl⟩ := List.mem_map.1 hpiece
  refine ⟨fun hslash => ?_, by simpa using (of_decide_eq_true hstep).2⟩
  have hchars : piece = ['/'] := by simpa using congrArg String.toList hslash
  exact (Text.mem_splitOn hmem).2 (by simp [hchars])

/-- The components say where a path starts and which steps it takes. -/
theorem of_components {a b : String} (h : Path.components a = Path.components b) :
    Path.isAbsolute a = Path.isAbsolute b ∧ Path.steps a = Path.steps b := by
  have hparts : lead a ++ Path.steps a = lead b ++ Path.steps b := by
    rw [← snd_components, ← snd_components, h]
  have hsteps : ∀ path, (lead path ++ Path.steps path).filter (fun s => s ≠ "/" ∧ s ≠ ".") =
      Path.steps path := by
    intro path
    have hlead : (lead path).filter (fun s => s ≠ "/" ∧ s ≠ ".") = [] := by
      unfold lead
      split_ifs <;> rfl
    rw [List.filter_append, hlead, List.nil_append, List.filter_eq_self]
    exact fun step hstep => decide_eq_true (ne_of_mem_steps hstep)
  have habsolute : ∀ path, Path.isAbsolute path = true ↔ "/" ∈ lead path ++ Path.steps path := by
    intro path
    have hnone : "/" ∉ Path.steps path := fun hmem => (ne_of_mem_steps hmem).1 rfl
    rw [List.mem_append, or_iff_left hnone]
    unfold lead
    split_ifs with habs hdot
    · simp [habs]
    · simp [habs]
    · simp [habs]
  refine ⟨?_, by rw [← hsteps a, ← hsteps b, hparts]⟩
  rw [Bool.eq_iff_iff, habsolute a, habsolute b, hparts]

theorem place_eq_ok {path : String} : t.place path = .ok p ↔ checkPath path = .ok () ∧ path ≠ "" ∧
    t.follow true maxLinks (origin path) (Path.steps path) = .ok p := by
  unfold place placeBy
  rw [Outcome.bind_eq_ok]
  constructor
  · rintro ⟨u, hcheck, h⟩
    split at h
    · cases h
    · next hempty => exact ⟨hcheck, hempty, h⟩
  · rintro ⟨hcheck, hempty, h⟩
    rw [if_neg hempty]
    exact ⟨(), hcheck, h⟩

/-- Paths with the same components lead to the same place. -/
theorem place_unique {a b : String} (h : Path.components a = Path.components b)
    {q : List String} (ha : t.place a = .ok p) (hb : t.place b = .ok q) : p = q := by
  obtain ⟨habsolute, hsteps⟩ := of_components h
  obtain ⟨-, -, ha⟩ := place_eq_ok.1 ha
  obtain ⟨-, -, hb⟩ := place_eq_ok.1 hb
  rw [origin, originIn, habsolute, hsteps] at ha
  exact Except.ok.inj (ha.symm.trans hb)

example : Path.components "data/./wal" = Path.components "data//wal" ∧
    Path.components "data/d/../wal" ≠ Path.components "data/wal" := by decide +kernel

/-! ### New bytes -/

/-- The bytes that an entry keeps. A device keeps none. -/
def keptBy : Entry → Option Bytes
  | .file content => some content
  | .program _ => some System.programImage
  | .directory | .device _ | .link _ => none

/-- The bytes that are kept at a place. -/
def kept? (t : FileTree) (place : List String) : Option Bytes :=
  (t.entryAt? place).bind keptBy

/-- Whether a place can be read: bytes are kept there, or a device stands there. -/
def Readable (t : FileTree) (place : List String) : Prop :=
  (t.kept? place).isSome = true ∨ ∃ d, t.entryAt? place = some (.device d)

theorem kept?_put_self (t : FileTree) (place : List String) (content : Bytes) :
    (t.put place content).kept? place = some content := by
  rw [kept?, entryAt?_put_self]
  rfl

theorem kept?_put_of_ne {place : List String} (h : place ≠ p) (content : Bytes) :
    (t.put p content).kept? place = t.kept? place := by
  rw [kept?, entryAt?_put_of_ne h, kept?]

theorem Readable.not_directory (h : t.Readable p) : t.entryAt? p ≠ some .directory := by
  rintro hentry
  rcases h with hkept | ⟨d, hdevice⟩
  · rw [kept?, hentry] at hkept
    cases hkept
  · rw [hentry] at hdevice
    cases hdevice

theorem Readable.not_link (h : t.Readable p) (target : String) :
    t.entryAt? p ≠ some (.link target) := by
  rintro hentry
  rcases h with hkept | ⟨d, hdevice⟩
  · rw [kept?, hentry] at hkept
    cases hkept
  · rw [hentry] at hdevice
    cases hdevice

theorem entryAt?_of_entryOf {path : String} {entry : Entry} (h : t.entryOf path p = .ok entry) :
    t.entryAt? p = some entry := by
  unfold entryOf at h
  split at h
  · cases h
  · next hentry => rw [hentry, Except.ok.inj h]
  · next hentry =>
    split at h
    · cases h
    · rw [hentry, Except.ok.inj h]

/-- What is read is what is kept where the path leads to, unless a device stands there. -/
theorem readable_of_read {path : String} {content : Bytes} (h : t.read path = .ok content) :
    ∃ p, t.place path = .ok p ∧ t.Readable p ∧ ∀ old, t.kept? p = some old → old = content := by
  unfold read find at h
  obtain ⟨entry, hfind, h⟩ := Outcome.bind_eq_ok.1 h
  obtain ⟨p, hplace, hentry⟩ := Outcome.bind_eq_ok.1 hfind
  have hentry := entryAt?_of_entryOf hentry
  have hkept : t.kept? p = keptBy entry := by
    rw [kept?, hentry, Option.bind_some]
  refine ⟨p, hplace, ?_⟩
  unfold Readable
  rw [hkept, hentry]
  cases entry with
  | file bytes =>
      obtain rfl := Except.ok.inj h
      exact ⟨.inl rfl, fun old hold => (Option.some.inj hold).symm⟩
  | program name =>
      obtain rfl := Except.ok.inj h
      exact ⟨.inl rfl, fun old hold => (Option.some.inj hold).symm⟩
  | device d => exact ⟨.inr ⟨d, rfl⟩, nofun⟩
  | directory => cases h
  | link target => cases h

/-- Two trees in which the same paths lead to the same places, and which differ in nothing but the
bytes that are kept there. -/
structure SameLayout (t t' : FileTree) : Prop where
  place : ∀ path q, t'.place path = .ok q ↔ t.place path = .ok q
  entry : ∀ q, t'.entryAt? q = t.entryAt? q ∨ (t.kept? q).isSome = true ∧ (t'.kept? q).isSome = true

theorem SameLayout.refl (t : FileTree) : SameLayout t t :=
  ⟨fun _ _ => Iff.rfl, fun _ => .inl rfl⟩

theorem SameLayout.isSome_kept? {t' : FileTree} (h : SameLayout t t') (q : List String) :
    (t'.kept? q).isSome = (t.kept? q).isSome := by
  rcases h.entry q with hsame | ⟨hkept, hkept'⟩
  · rw [kept?, hsame, kept?]
  · rw [hkept, hkept']

theorem SameLayout.readable_iff {t' : FileTree} (h : SameLayout t t') :
    t'.Readable p ↔ t.Readable p := by
  rcases h.entry p with hsame | ⟨hkept, hkept'⟩
  · rw [Readable, kept?, hsame, Readable, kept?]
  · exact ⟨fun _ => .inl hkept, fun _ => .inl hkept'⟩

theorem SameLayout.trans {t₁ t₂ : FileTree} (h₁ : SameLayout t t₁) (h₂ : SameLayout t₁ t₂) :
    SameLayout t t₂ where
  place path q := (h₂.place path q).trans (h₁.place path q)
  entry q := by
    rcases h₂.entry q with hsame₂ | ⟨hkept, hkept₂⟩
    · rcases h₁.entry q with hsame₁ | ⟨hkept, hkept₁⟩
      · exact .inl (hsame₂.trans hsame₁)
      · exact .inr ⟨hkept, by rwa [kept?, hsame₂]⟩
    · exact .inr ⟨h₁.isSome_kept? q ▸ hkept, hkept₂⟩

/-- A file in the place of one lets all walks end where they have ended. -/
theorem walk_put_iff (hread : t.Readable p) (content : Bytes)
    {onLink' : List String → List String → Except FileError (List String)} {place : List String}
    (honLink : ∀ here steps, onLink' here steps = .ok place ↔ onLink here steps = .ok place)
    (here steps : List String) :
    (t.put p content).walk true onLink' here steps = .ok place ↔
      t.walk true onLink here steps = .ok place := by
  induction steps generalizing here with
  | nil => exact Iff.rfl
  | cons step rest ih =>
      rw [walk_cons_eq_ok, walk_cons_eq_ok]
      by_cases hup : step = ".."
      · rw [if_pos hup, if_pos hup]
        exact ih _
      · rw [if_neg hup, if_neg hup]
        refine and_congr_right fun _ => ?_
        by_cases heq : here ++ [step] = p
        · rw [heq, entryAt?_put_self]
          dsimp only
          split
          · next hlink => exact absurd hlink (hread.not_link _)
          · next hdir => exact absurd hdir hread.not_directory
          · exact Iff.rfl
        · rw [entryAt?_put_of_ne heq]
          split
          · exact honLink _ _
          · exact ih _
          · exact Iff.rfl

theorem follow_put_iff (hread : t.Readable p) (content : Bytes) {place : List String}
    (links : Nat) (here steps : List String) :
    (t.put p content).follow true links here steps = .ok place ↔
      t.follow true links here steps = .ok place := by
  induction links generalizing here steps with
  | zero => exact walk_put_iff hread content (fun _ _ => Iff.rfl) here steps
  | succ links ih => exact walk_put_iff hread content ih here steps

theorem sameLayout_put (hkept : (t.kept? p).isSome = true) (content : Bytes) :
    SameLayout t (t.put p content) where
  place path q := by rw [place_eq_ok, place_eq_ok, follow_put_iff (.inl hkept)]
  entry q := by
    by_cases hq : q = p
    · rw [hq, kept?_put_self]
      exact .inr ⟨hkept, rfl⟩
    · exact .inl (entryAt?_put_of_ne hq content)

/-- **New bytes change no more than the bytes of their file.** Where a path leads to bytes, writing
replaces them, and nothing else; where it leads to a device, nothing changes. -/
theorem sameLayout_of_write {t' : FileTree} {path : String} {content : Bytes}
    (hplace : t.place path = .ok p) (hread : t.Readable p) (h : t.write path content = .ok t') :
    SameLayout t t' ∧ (∀ q, q ≠ p → t'.kept? q = t.kept? q) ∧
      ((t.kept? p).isSome = true → t'.kept? p = some content) := by
  unfold write at h
  obtain ⟨place, hwritable, hwrite⟩ := Outcome.bind_eq_ok.1 h
  obtain rfl := Except.ok.inj (hplace.symm.trans (writable_eq_ok.1 hwritable).1)
  unfold writeAt at hwrite
  split at hwrite
  · next d hentry =>
    split at hwrite
    · obtain rfl := Except.ok.inj hwrite
      refine ⟨.refl t, fun _ _ => rfl, fun hkept => ?_⟩
      rw [kept?, hentry] at hkept
      cases hkept
    · cases hwrite
  · next hnone =>
    obtain rfl := Except.ok.inj hwrite
    have hkept : (t.kept? p).isSome = true := hread.resolve_right fun ⟨d, hd⟩ => hnone d hd
    exact ⟨sameLayout_put hkept content, fun q hq => kept?_put_of_ne hq content,
      fun _ => kept?_put_self t p content⟩

end FaultDrill.FileTree
