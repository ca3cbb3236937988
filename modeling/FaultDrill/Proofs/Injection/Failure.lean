import FaultDrill.Proofs.Injection.Files
import FaultDrill.Proofs.Injection.Network
import FaultDrill.Proofs.Injection.Trace

/-!
# FaultDrill.Proofs.Injection.Failure

**What a failed injection leaves** (`Injector.inject_error_leaves`). The ledger changes after an
action has succeeded, so most injections that fail leave it as it was. Two kinds can fail after
something has been entered. Cutting a target off from peers goes through them one after the other,
and those before the peer that it stops at have been cut off (`Injector.PartitionStops`). A file is
saved before it is written, so a write that fails leaves it saved (`Injector.WriteFails`), while
anything that goes wrong before the write leaves both the ledger and the file alone
(`Injector.Refuses`).

Both are told by what the site has been asked for and what it has answered, so that the entries that
have come to the ledger can be held against the calls that have succeeded.
-/

namespace FaultDrill

variable {σ : Type} {site : Site σ}

/-! ### Connections -/

/-- Whether two endpoints have been cut off from each other. -/
def Note.isCut : Note → Bool
  | .block _ _ (some (.ok ())) => true
  | _ => false

theorem Note.isCut_block_iff {here there : Endpoint} {answer : Answer} :
    (Note.block here there answer).isCut = true ↔ answer = some (.ok ()) := by
  cases answer with
  | none => simp [isCut]
  | some answer => cases answer <;> simp [isCut]

/-- Of the tries to cut two endpoints off from each other, only the last one can have done so. -/
theorem Retry.Tries.filter_isCut {most : Nat} {earlier : List Answer} {last : Answer}
    (h : Tries most earlier last) (here there : Endpoint) :
    ((earlier ++ [last]).map (.block here there)).filter Note.isCut =
      [.block here there last].filter Note.isCut := by
  have hearlier : (earlier.map (.block here there)).filter Note.isCut = [] := by
    rw [List.filter_eq_nil_iff]
    intro note hnote
    obtain ⟨answer, hanswer, rfl⟩ := List.mem_map.mp hnote
    have hopen := h.failed answer hanswer
    rw [Note.isCut_block_iff]
    rintro rfl
    cases hopen
  rw [List.map_append, List.filter_append, hearlier, List.nil_append, List.map_singleton]

/-- Two endpoints are cut off from each other by one call if the retried action succeeds, and by
none if it fails. -/
theorem Retry.run_block_trace (site : Site σ) (settings : InjectorSettings) (target : String)
    (here there : Endpoint) (s : σ) : ∃ tried,
      site.Trace s tried (Retry.run site settings target "partition"
        (fun deadline s => site.block deadline here there s) s).2 ∧
      (∀ note ∈ tried, ∃ answer, note = .block here there answer) ∧
      ((Retry.run site settings target "partition"
          (fun deadline s => site.block deadline here there s) s).1 = .ok () →
        tried.filter Note.isCut = [.block here there (some (.ok ()))]) ∧
      ∀ err, (Retry.run site settings target "partition"
          (fun deadline s => site.block deadline here there s) s).1 = .error err →
        tried.filter Note.isCut = [] := by
  obtain ⟨earlier, last, htries, htrace, hresult⟩ :=
    Retry.run_trace (.block here there) (fun deadline s => .block deadline here there s) settings
      target "partition" s
  have hcut := htries.filter_isCut here there
  refine ⟨(earlier ++ [last]).map (.block here there), htrace, ?_, ?_, ?_⟩
  · intro note hnote
    obtain ⟨answer, -, rfl⟩ := List.mem_map.mp hnote
    exact ⟨answer, rfl⟩
  · intro hok
    rw [hok] at hresult
    rw [hcut, Retry.result_eq_ok_iff.mp hresult.symm]
    rfl
  · intro err herror
    rw [herror] at hresult
    have hlast : (Note.block here there last).isCut ≠ true := by
      rw [ne_eq, Note.isCut_block_iff]
      rintro rfl
      rw [Retry.result_eq_ok_iff.mpr rfl] at hresult
      cases hresult
    rw [hcut, List.filter_cons_of_neg hlast, List.filter_nil]

namespace Injector

/-- What cutting a target off from peers has done when it stops at one of them. `cut` are the peers
that have been cut off, with their endpoints: just those for which a try has succeeded. They are the
first ones that were not cut off before, and just their entries have come to the ledger. -/
structure PartitionStops (site : Site σ) (j : Injector) (target : String) (here : Endpoint)
    (peers : List String) (s : σ) (after : Injector) (s' : σ) (cut : List (String × Endpoint))
    (notes : List Note) : Prop where
  endpoints : ∀ c ∈ cut, j.registry.endpoint c.1 = .ok c.2
  trace : site.Trace s notes s'
  blocks : ∀ note ∈ notes, ∃ there answer, note = .block here there answer
  succeeded : notes.filter Note.isCut = cut.map fun c => .block here c.2 (some (.ok ()))
  first : ∃ peer later, peers.filter (fun p => !j.ledger.partitions.contains (target, p)) =
    cut.map (·.1) ++ peer :: later
  ledger : ∃ partitions, after = { j with ledger.partitions := partitions } ∧
    partitions.toList.Perm
      (cut.map (fun c => ((target, c.1), here, c.2)) ++ j.ledger.partitions.toList)

section PartitionStops

variable {j after : Injector} {target peer : String} {here there : Endpoint} {rest : List String}
  {s s₁ s' : σ} {cut : List (String × Endpoint)} {notes tried : List Note}

/-- A peer that cannot be cut off is where it stops. -/
theorem PartitionStops.stop (hnew : j.ledger.partitions.contains (target, peer) = false)
    (htrace : site.Trace s notes s')
    (hblocks : ∀ note ∈ notes, ∃ there answer, note = .block here there answer)
    (hnone : notes.filter Note.isCut = []) :
    PartitionStops site j target here (peer :: rest) s j s' [] notes where
  endpoints := by simp
  trace := htrace
  blocks := hblocks
  succeeded := hnone
  first := by
    rw [List.filter_cons_of_pos (by rw [hnew]; rfl)]
    exact ⟨peer, _, rfl⟩
  ledger := ⟨j.ledger.partitions, rfl, .refl _⟩

/-- A peer that is cut off already is passed over. -/
theorem PartitionStops.skip (hheld : j.ledger.partitions.contains (target, peer) = true)
    (h : PartitionStops site j target here rest s after s' cut notes) :
    PartitionStops site j target here (peer :: rest) s after s' cut notes where
  endpoints := h.endpoints
  trace := h.trace
  blocks := h.blocks
  succeeded := h.succeeded
  first := by
    rw [List.filter_cons_of_neg (by simp [hheld])]
    exact h.first
  ledger := h.ledger

/-- One more peer is cut off before the others. -/
theorem PartitionStops.cons (hnew : j.ledger.partitions.contains (target, peer) = false)
    (hpeer : peer ∉ rest) (hthere : j.registry.endpoint peer = .ok there)
    (htrace : site.Trace s tried s₁)
    (hblocks : ∀ note ∈ tried, ∃ answer, note = .block here there answer)
    (hcut : tried.filter Note.isCut = [.block here there (some (.ok ()))])
    (h : PartitionStops site
      { j with ledger.partitions := j.ledger.partitions.insert (target, peer) (here, there) }
      target here rest s₁ after s' cut notes) :
    PartitionStops site j target here (peer :: rest) s after s' ((peer, there) :: cut)
      (tried ++ notes) where
  endpoints := by
    intro c hc
    rcases List.mem_cons.mp hc with rfl | hc
    · exact hthere
    · exact h.endpoints c hc
  trace := htrace.append h.trace
  blocks := by
    intro note hnote
    rcases List.mem_append.mp hnote with hnote | hnote
    · exact ⟨there, hblocks note hnote⟩
    · exact h.blocks note hnote
  succeeded := by rw [List.filter_append, hcut, h.succeeded, List.map_cons, List.singleton_append]
  first := by
    obtain ⟨p, later, hfirst⟩ := h.first
    -- the new entry is of a peer that does not come again
    have hsame : ∀ p ∈ rest, (j.ledger.partitions.insert (target, peer) (here, there)).contains
        (target, p) = j.ledger.partitions.contains (target, p) := by
      intro p hp
      have hne : compare (target, p) (target, peer) ≠ .eq := by
        intro heq
        obtain rfl := (Prod.mk.inj (Std.LawfulEqOrd.eq_of_compare heq)).2
        exact hpeer hp
      rw [SortedMap.contains, SortedMap.get?_insert_of_ne _ _ hne, SortedMap.contains]
    have hrest := List.filter_congr fun p hp => congrArg Bool.not (hsame p hp)
    refine ⟨p, later, ?_⟩
    rw [List.filter_cons_of_pos (by rw [hnew]; rfl), ← hrest, hfirst]
    rfl
  ledger := by
    obtain ⟨partitions, hafter, hperm⟩ := h.ledger
    refine ⟨partitions, hafter, hperm.trans ?_⟩
    exact ((SortedMap.perm_insert _ hnew).append_left _).trans List.perm_middle

end PartitionStops

/-- Cutting a target off from peers that are all different fails at one of them. -/
theorem cutOff_error {peers : List String} (hnodup : peers.Nodup) (site : Site σ) (j : Injector)
    (target : String) (here : Endpoint) (any : Bool) (s : σ) (err : InjectionError) :
    (cutOff site j target here any peers s).1 = .error err →
      ∃ cut notes, PartitionStops site j target here peers s
        (cutOff site j target here any peers s).2.1 (cutOff site j target here any peers s).2.2
        cut notes := by
  induction peers generalizing j any s with
  | nil =>
      intro h
      cases h
  | cons peer rest ih =>
      obtain ⟨hpeer, hrest⟩ := List.nodup_cons.mp hnodup
      unfold cutOff
      split
      · next hheld =>
        intro h
        obtain ⟨cut, notes, hstops⟩ := ih hrest j any s h
        exact ⟨cut, notes, hstops.skip hheld⟩
      · next hnew =>
        rw [Bool.not_eq_true] at hnew
        split
        · intro _
          exact ⟨[], [], .stop hnew (.nil s) (by simp) rfl⟩
        · next there hthere =>
          obtain ⟨tried, htrace, hblocks, hok, herror⟩ :=
            Retry.run_block_trace site j.settings target here there s
          split
          · next cause s₁ heq =>
            intro _
            rw [heq] at htrace herror
            refine ⟨[], tried, .stop hnew htrace ?_ (herror cause rfl)⟩
            intro note hnote
            exact ⟨there, hblocks note hnote⟩
          · next s₁ heq =>
            intro h
            rw [heq] at htrace hok
            obtain ⟨cut, notes, hstops⟩ := ih hrest _ true s₁ h
            exact ⟨_, _, hstops.cons hnew hpeer hthere htrace hblocks (hok rfl)⟩

theorem partition_error_stops {site : Site σ} {j : Injector} {target : String} {peers : NameSet}
    {s : σ} {err : InjectionError} (h : (partition site j target peers s).1 = .error err) :
    (j.registry.endpoint target = .error err ∧ (partition site j target peers s).2 = (j, s)) ∨
      ∃ here cut notes, j.registry.endpoint target = .ok here ∧
        PartitionStops site j target here peers.toList s (partition site j target peers s).2.1
          (partition site j target peers s).2.2 cut notes := by
  generalize hpartition : partition site j target peers s = yielded at h ⊢
  cases partition_cases hpartition with
  | homeless hhere =>
      obtain rfl := Except.error.inj h
      exact .inl ⟨hhere, rfl⟩
  | stopped here hhere hcut =>
      have hnodup : peers.toList.Nodup := SortedMap.nodup_keys peers
      have hstops := cutOff_error hnodup site j target here false s _ (congrArg Prod.fst hcut)
      rw [hcut] at hstops
      obtain ⟨cut, notes, hstops⟩ := hstops
      exact .inr ⟨here, cut, notes, hhere, hstops⟩
  | cut => cases h

/-! ### Files -/

/-- How taking a snapshot can go: what is asked for with its answers, and what comes of it. -/
inductive Snapshot (path : String) : List Note → Except DamageFault Bytes → Prop
  | unsized : Snapshot path [.size path none] (.error .timedOut)
  | noSize {cause : FileError} :
      Snapshot path [.size path (some (.error cause))] (.error (.stat cause))
  | tooLarge {size : Nat} (hsize : maxDamagedSize < size) :
      Snapshot path [.size path (some (.ok size))] (.error (.tooLarge size))
  | late {size : Nat} (hsize : size ≤ maxDamagedSize) :
      Snapshot path [.size path (some (.ok size)), .read path none] (.error .timedOut)
  | unread {size : Nat} {cause : FileError} (hsize : size ≤ maxDamagedSize) :
      Snapshot path [.size path (some (.ok size)), .read path (some (.error cause))]
        (.error (.read cause))
  | had {size : Nat} {bytes : Bytes} (hsize : size ≤ maxDamagedSize) :
      Snapshot path [.size path (some (.ok size)), .read path (some (.ok bytes))] (.ok bytes)

theorem snapshot_trace (site : Site σ) (deadline : Nat) (path : String) (s : σ) :
    ∃ notes, Snapshot path notes (snapshot site deadline path s).1 ∧
      site.Trace s notes (snapshot site deadline path s).2 := by
  have hsize : site.Step s _ _ := .sizeBy deadline path s
  unfold snapshot
  split
  · next heq =>
    rw [heq] at hsize
    exact ⟨_, .unsized, hsize.trace⟩
  · next heq =>
    rw [heq] at hsize
    exact ⟨_, .noSize, hsize.trace⟩
  · next size s₁ heq =>
    rw [heq] at hsize
    split
    · next hlarge => exact ⟨_, .tooLarge hlarge, hsize.trace⟩
    · next hlarge =>
      have hsmall := Nat.le_of_not_lt hlarge
      have hread : site.Step s₁ _ _ := .readBy deadline path s₁
      split
      · next hnone =>
        rw [hnone] at hread
        exact ⟨_, .late hsmall, .cons hsize hread.trace⟩
      · next hfail =>
        rw [hfail] at hread
        exact ⟨_, .unread hsmall, .cons hsize hread.trace⟩
      · next hok =>
        rw [hok] at hread
        exact ⟨_, .had hsmall, .cons hsize hread.trace⟩

/-- How a damage can fail before the file is written, with what is asked for until then. -/
inductive Refuses (j : Injector) (target : String) (c : Corruption) :
    List Note → InjectionError → Prop
  | unknown (htarget : j.registry.contains target = false) :
      Refuses j target c [] (.targetNotFound (.unknown target))
  | unread {notes : List Note} {fault : DamageFault} (htarget : j.registry.contains target = true)
      (hread : Snapshot (j.registry.resolvePath target c.path) notes (.error fault)) :
      Refuses j target c notes (.damage (j.registry.resolvePath target c.path) fault)
  | beyondEnd {notes : List Note} {current : Bytes} {beyond : Corruption.BeyondEnd}
      (htarget : j.registry.contains target = true)
      (hread : Snapshot (j.registry.resolvePath target c.path) notes (.ok current))
      (happly : c.apply current = .error beyond) :
      Refuses j target c notes (.damage (j.registry.resolvePath target c.path) (.beyondEnd beyond))

/-- What a damage has done whose write fails. The file has been read just before, and the ledger has
the backup that it had, or else these bytes. -/
structure WriteFails (site : Site σ) (j : Injector) (target : String) (c : Corruption) (s : σ)
    (after : Injector) (s' : σ) (looks : List Note) (current : Bytes) : Prop where
  known : j.registry.contains target = true
  read : Snapshot (j.registry.resolvePath target c.path) looks (.ok current)
  write : ∃ damaged answer, c.apply current = .ok damaged ∧ answer ≠ some (.ok ()) ∧ site.Trace s
    (looks ++ [.write (j.registry.resolvePath target c.path) damaged answer]) s'
  ledger : ∃ corrupted, after = { j with ledger.corrupted := corrupted }
  saved : after.ledger.corrupted.get? (Path.components (j.registry.resolvePath target c.path)) =
    some ((j.ledger.corrupted.get?
      (Path.components (j.registry.resolvePath target c.path))).getD
        ⟨j.registry.resolvePath target c.path, target, current⟩)
  others : ∀ key, key ≠ Path.components (j.registry.resolvePath target c.path) →
    after.ledger.corrupted.get? key = j.ledger.corrupted.get? key

theorem get?_saveFile (l : Ledger) (target path : String) (content : Bytes) :
    (l.saveFile target path content).corrupted.get? (Path.components path) =
      some ((l.corrupted.get? (Path.components path)).getD ⟨path, target, content⟩) := by
  rw [Ledger.saveFile, SortedMap.get?_insertIfNew_or, if_pos rfl]
  cases l.corrupted.get? (Path.components path) with
  | none => rfl
  | some backup => rfl

theorem get?_saveFile_of_ne (l : Ledger) (target path : String) (content : Bytes) {key : FileKey}
    (h : key ≠ Path.components path) :
    (l.saveFile target path content).corrupted.get? key = l.corrupted.get? key := by
  rw [Ledger.saveFile, SortedMap.get?_insertIfNew_or, if_neg h, Option.or_none]

/-- A file that has been saved, and then not written. -/
theorem writeFails {site : Site σ} {j : Injector} {target : String} {c : Corruption} {s s' : σ}
    {looks : List Note} {current damaged : Bytes} {answer : Option (Except FileError Unit)}
    (htarget : j.registry.contains target = true)
    (hread : Snapshot (j.registry.resolvePath target c.path) looks (.ok current))
    (happly : c.apply current = .ok damaged) (hanswer : answer ≠ some (.ok ()))
    (htrace : site.Trace s
      (looks ++ [.write (j.registry.resolvePath target c.path) damaged answer]) s') :
    WriteFails site j target c s { j with
      ledger := j.ledger.saveFile target (j.registry.resolvePath target c.path) current } s' looks
      current where
  known := htarget
  read := hread
  write := ⟨damaged, answer, happly, hanswer, htrace⟩
  ledger := ⟨_, rfl⟩
  saved := get?_saveFile j.ledger target _ current
  others _ := get?_saveFile_of_ne j.ledger target _ current

theorem damage_error {site : Site σ} {j : Injector} {target : String} {c : Corruption} {s : σ}
    {err : InjectionError} (h : (damage site j target c s).1 = .error err) :
      (∃ notes, Refuses j target c notes err ∧
        site.Trace s notes (damage site j target c s).2.2 ∧
        (damage site j target c s).2.1 = j ∧
        ∀ view : FileView site, view.content (damage site j target c s).2.2 = view.content s) ∨
      ∃ looks current, WriteFails site j target c s (damage site j target c s).2.1
        (damage site j target c s).2.2 looks current := by
  obtain ⟨looks, hlooks, htrace⟩ := snapshot_trace site
    (site.now s + j.settings.actionTimeout.nanos) (j.registry.resolvePath target c.path) s
  have hsame := fun view : FileView site => (view.snapshot_spec
    (site.now s + j.settings.actionTimeout.nanos) (j.registry.resolvePath target c.path) s).1
  generalize hdamage : damage site j target c s = yielded at h ⊢
  cases damage_cases hdamage with
  | unknown htarget =>
      obtain rfl := Except.error.inj h
      exact .inl ⟨[], .unknown htarget, .nil s, rfl, fun _ => rfl⟩
  | unread htarget hread =>
      rw [hread] at hlooks htrace hsame
      obtain rfl := Except.error.inj h
      exact .inl ⟨looks, .unread htarget hlooks, htrace, rfl, hsame⟩
  | beyondEnd htarget hread happly =>
      rw [hread] at hlooks htrace hsame
      obtain rfl := Except.error.inj h
      exact .inl ⟨looks, .beyondEnd htarget hlooks happly, htrace, rfl, hsame⟩
  | @written current damaged s₁ wrote htarget hread happly hwrite =>
      rw [hread] at hlooks htrace
      have hstep : site.Step s₁ _ _ := .writeBy (site.now s₁ + j.settings.actionTimeout.nanos)
        (j.registry.resolvePath target c.path) damaged s₁
      have htorn := htrace.append hstep.trace
      rw [hwrite] at htorn
      refine .inr ⟨looks, current, writeFails htarget hlooks happly ?_ htorn⟩
      intro hanswer
      rw [hanswer] at h
      cases h

/-! ### Processes -/

theorem kill_error {site : Site σ} {j : Injector} {target : String} {s : σ} {err : InjectionError} :
    (kill site j target s).1 = .error err → (kill site j target s).2.1 = j := by
  generalize hkill : kill site j target s = yielded
  cases kill_cases hkill with
  | unresolved | failed => exact fun _ => rfl
  | killed => exact nofun

theorem pause_error {site : Site σ} {j : Injector} {target : String} {s : σ}
    {err : InjectionError} :
    (pause site j target s).1 = .error err → (pause site j target s).2.1 = j := by
  generalize hpause : pause site j target s = yielded
  cases pause_cases hpause with
  | unresolved | failed => exact fun _ => rfl
  | held | paused => exact nofun

theorem resume_error {site : Site σ} {j : Injector} {target : String} {s : σ}
    {err : InjectionError} :
    (resume site j target s).1 = .error err → (resume site j target s).2.1 = j := by
  generalize hresume : resume site j target s = yielded
  cases resume_cases hresume with
  | failed => exact fun _ => rfl
  | running | resumed => exact nofun

/-! ### Events -/

/-- What an injection leaves that fails with an error. -/
def Leaves (site : Site σ) (j : Injector) (e : Event) (err : InjectionError) (s : σ)
    (after : Injector) (s' : σ) : Prop :=
  match e.fault with
  | .kill | .pause | .resume | .delay _ => after = j
  | .partition peers =>
    (j.registry.endpoint e.target = .error err ∧ after = j ∧ s' = s) ∨
      ∃ here cut notes, j.registry.endpoint e.target = .ok here ∧
        PartitionStops site j e.target here peers.toList s after s' cut notes
  | .corrupt c =>
    (∃ notes, Refuses j e.target c notes err ∧ site.Trace s notes s' ∧ after = j ∧
      ∀ view : FileView site, view.content s' = view.content s) ∨
    ∃ looks current, WriteFails site j e.target c s after s' looks current

/-- **A failed injection leaves an exact ledger.** A kill, a pause, a resumption or a delay that
fails changes nothing. A partition that fails has entered the pairs whose cut has succeeded, which
are the first ones that were not cut off before. A damage that fails before the file is written
changes neither the ledger nor the file, and one whose write fails has saved what it has read just
before, unless the file has been saved already. -/
theorem inject_error_leaves {site : Site σ} {j : Injector} {e : Event} {s : σ}
    {err : InjectionError} (h : (inject site j e s).1 = .error err) :
    Leaves site j e err s (inject site j e s).2.1 (inject site j e s).2.2 := by
  unfold Leaves
  unfold inject at h ⊢
  cases hfault : e.fault with
  | kill =>
      rw [hfault] at h
      exact kill_error h
  | pause =>
      rw [hfault] at h
      exact pause_error h
  | resume =>
      rw [hfault] at h
      exact resume_error h
  | delay duration =>
      dsimp only
      split
      · rfl
      · rfl
  | partition peers =>
      rw [hfault] at h
      rcases partition_error_stops h with ⟨hhere, hsame⟩ | hstops
      · left
        dsimp only
        rw [hsame]
        exact ⟨hhere, rfl, rfl⟩
      · exact .inr hstops
  | corrupt c =>
      rw [hfault] at h
      exact damage_error h

/-- A partition of a target from two peers. -/
def stoppedPartition : Event := ⟨"1", "a", .partition (.ofList ["b", "c"])⟩

/-- A damage that shortens a file. -/
def tornDamage : Event := ⟨"2", "db", .corrupt (.truncate "wal" 2)⟩

/-- An injector with one target, of which only the name is known. -/
def tornInjector : Injector :=
  .new { (default : InjectorSettings) with targets := [{ name := "db" }] }

/-- The partition stops at its second peer, and the write of the damage runs out of time. -/
theorem inject_error_leaves_midway :
    (∃ here cut notes, PartitionStops Sandbox.site (.new NetworkView.cutSettings) "a" here
      ["b", "c"] NetworkView.cutStart
      (inject Sandbox.site (.new NetworkView.cutSettings) stoppedPartition NetworkView.cutStart).2.1
      (inject Sandbox.site (.new NetworkView.cutSettings) stoppedPartition NetworkView.cutStart).2.2
      cut notes) ∧
    ∃ looks current, WriteFails Sandbox.site tornInjector "db" (.truncate "wal" 2)
      FileView.tornStart (inject Sandbox.site tornInjector tornDamage FileView.tornStart).2.1
      (inject Sandbox.site tornInjector tornDamage FileView.tornStart).2.2 looks current := by
  constructor
  · have herror : (inject Sandbox.site (.new NetworkView.cutSettings) stoppedPartition
        NetworkView.cutStart).1 = .error (.timedOut "a" "partition") := by decide +kernel
    rcases inject_error_leaves herror with ⟨hhere, -⟩ | ⟨here, cut, notes, -, hstops⟩
    · exact absurd hhere (by decide +kernel)
    · exact ⟨here, cut, notes, hstops⟩
  · have herror : (inject Sandbox.site tornInjector tornDamage FileView.tornStart).1 =
        .error (.damage "wal" .timedOut) := by decide +kernel
    rcases inject_error_leaves herror with ⟨notes, -, -, hsame, -⟩ | hwrite
    · exact absurd (congrArg Injector.ledger hsame) (by decide +kernel)
    · exact hwrite

end Injector

end FaultDrill
