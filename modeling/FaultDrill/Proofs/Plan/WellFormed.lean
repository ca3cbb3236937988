import FaultDrill.Plan.Parser
import FaultDrill.Proofs.Collections.SortedMap
import FaultDrill.Proofs.Plan.Corruption
import FaultDrill.Proofs.Plan.Field

/-!
# FaultDrill.Proofs.Plan.WellFormed

**Accepted plans are well formed.** Each constraint comes from another step of the reader: that a
checkpoint does not start a comment from the line being none, that fields hold no bar from the cut
at the bars, that no two events share checkpoint and target from the set of those seen before. The
loop over the event lines is inverted once (`readEvents_cons`); what it keeps is that the events
still to be read differ from the seen ones and fit in what the limit leaves (`readEvents_spec`). The
order of numbered checkpoints is judged by a pass of its own, which looks at the events alone and
not at the lines they stood in (`disorder?_eq_none_iff`).
-/

namespace FaultDrill

open FaultDrill.Text

/-! ### What is well formed -/

/-- A fault that a plan may hold against a target. -/
def Fault.WellFormed (target : String) : Fault → Prop
  | .kill | .pause | .resume | .delay _ => True
  | .partition peers => peers.toList ≠ [] ∧
      ∀ peer ∈ peers.toList, IsField peer.toList ∧ ',' ∉ peer.toList ∧ peer ≠ target
  | .corrupt damage => IsField damage.path.toList

/-- An event that a plan may hold. -/
structure Event.WellFormed (e : Event) : Prop where
  checkpoint : IsField e.checkpoint.toList
  /-- A checkpoint is one word. -/
  word : hasBlank e.checkpoint.toList = false
  /-- A line that starts with the checkpoint is no comment. -/
  noComment : e.checkpoint.toList.head? ≠ some '#'
  target : IsField e.target.toList
  fault : e.fault.WellFormed e.target

/-- What no two events of a plan share. -/
def Event.key (e : Event) : Checkpoint × String :=
  (e.checkpoint, e.target)

namespace Plan

/-- If all checkpoints have numbers, these never go down. -/
def Ordered (events : List Event) : Prop :=
  ∀ numbers, events.mapM (·.checkpoint.number?) = some numbers → numbers.Pairwise (· ≤ ·)

/-- A word that can stand in a header line. -/
structure IsWord (s : List Char) : Prop where
  ne_nil : s ≠ []
  word : hasBlank s = false

/-- A plan that has a text form. -/
structure WellFormed (p : Plan) : Prop where
  id : IsWord p.id.toList
  /-- The notes are words with an equals sign after the key. -/
  metadata : ∀ note ∈ p.metadata.toList, hasBlank note.1.toList = false ∧ '=' ∉ note.1.toList ∧
    hasBlank note.2.toList = false
  nonempty : 1 ≤ p.events.length
  bounded : p.events.length ≤ maxEvents
  distinct : (p.events.map Event.key).Nodup
  ordered : Ordered p.events
  events : ∀ e ∈ p.events, e.WellFormed

/-! ### The lines -/

/-- A line as the reader sees it: trimmed, and without the line feed that ended it. -/
structure Line.Clean (line : Line) : Prop where
  trimmed : trim line.text = line.text
  newline : '\n' ∉ line.text

theorem clean_of_mem_numberedLines {s : List Char} {line : Line} (h : line ∈ numberedLines s) :
    line.Clean := by
  obtain ⟨⟨text, i⟩, hmem, rfl⟩ := List.mem_map.1 h
  have htext : text ∈ lines s := List.fst_mem_of_mem_zipIdx hmem
  exact ⟨trim_trim text, fun hnew => newline_not_mem_of_mem_lines htext (mem_of_mem_trim hnew)⟩

/-- What `nextLine?` finds is the first line that says something, and the rest follows it. -/
theorem nextLine?_eq_some {ls rest : List Line} {line : Line} (h : nextLine? ls = some (line, rest)) :
    isSkippable line.text = false ∧ line ∈ ls ∧ rest ⊆ ls := by
  unfold nextLine? at h
  have hhead := List.head?_dropWhile_not (isSkippable ·.text) ls
  have hsub := (List.dropWhile_sublist (isSkippable ·.text) (l := ls)).subset
  cases hd : ls.dropWhile (isSkippable ·.text) with
  | nil => rw [hd] at h; cases h
  | cons first more =>
      rw [hd] at h hhead hsub
      obtain ⟨rfl, rfl⟩ : first = line ∧ more = rest := by simpa using h
      exact ⟨by simpa using hhead, hsub List.mem_cons_self,
        fun l hl => hsub (List.mem_cons_of_mem _ hl)⟩

/-! ### The header -/

theorem readNote_eq_ok {number : Nat} {token : List Char} {note : String × String}
    (h : readNote number token = .ok note) :
    token = note.1.toList ++ '=' :: note.2.toList ∧ '=' ∉ note.1.toList := by
  unfold readNote at h
  split at h
  · next key value hcut =>
    obtain rfl := Except.ok.inj h
    simpa using cut?_eq_some hcut
  · cases h

/-- The identifier and the notes are words of the header line. -/
theorem readHeader_eq_ok {line : Line} {id : String} {metadata : SortedMap String String}
    (h : readHeader line = .ok (id, metadata)) : IsWord id.toList ∧
      ∀ note ∈ metadata.toList, hasBlank note.1.toList = false ∧ '=' ∉ note.1.toList ∧
        hasBlank note.2.toList = false := by
  unfold readHeader at h
  split at h
  · next first word tokens hwords =>
    split at h
    · obtain ⟨notes, hnotes, h⟩ := Outcome.bind_eq_ok.1 h
      obtain ⟨rfl, rfl⟩ := Prod.mk.inj (Except.ok.inj h)
      have hmem : ∀ w ∈ word :: tokens, w ∈ words line.text := fun w hw => by
        rw [hwords]
        exact List.mem_cons_of_mem _ hw
      refine ⟨?_, fun note hnote => ?_⟩
      · obtain ⟨-, hne, hblank⟩ := mem_words (hmem word List.mem_cons_self)
        exact ⟨by simpa using hne, by simpa using hblank⟩
      · obtain ⟨token, htoken, hread⟩ :=
          Outcome.exists_of_mem_mapM hnotes (SortedMap.mem_of_mem_ofList hnote)
        obtain ⟨-, -, hblank⟩ := mem_words (hmem token (List.mem_cons_of_mem _ htoken))
        obtain ⟨rfl, hkey⟩ := readNote_eq_ok hread
        obtain ⟨hfirst, -, hlast⟩ : hasBlank note.1.toList = false ∧ isBlank '=' = false ∧
            hasBlank note.2.toList = false := by
          simpa [hasBlank, or_imp, forall_and] using hblank
        exact ⟨hfirst, hkey, hlast⟩
    · cases h
  · cases h

/-! ### One event -/

theorem readPeers_eq_ok {target : String} {parameter : List Char} {peers : NameSet}
    (h : readPeers target parameter = .ok peers) (hfield : IsField parameter) :
    (Fault.partition peers).WellFormed target := by
  unfold readPeers at h
  dsimp only at h
  split at h
  · cases h
  · next hne =>
    split at h
    · cases h
    · next hown =>
      obtain rfl := Except.ok.inj h
      refine ⟨NameSet.toList_ne_nil_iff.2 (by simpa using hne), fun peer hpeer => ?_⟩
      have hself : peer ≠ target := fun heq => hown (NameSet.mem_toList_iff.1 (heq ▸ hpeer))
      obtain ⟨s, hs, rfl⟩ := List.mem_map.1 (NameSet.mem_of_mem_ofList hpeer)
      obtain ⟨hs, hne⟩ := List.mem_filter.1 hs
      obtain ⟨piece, hpiece, rfl⟩ := List.mem_map.1 hs
      obtain ⟨hsub, hcomma⟩ := mem_splitOn hpiece
      rw [String.toList_ofList]
      exact ⟨hfield.of_subset ⟨by simpa using hne, trim_trim piece⟩ fun c hc =>
        hsub (mem_of_mem_trim hc), fun hc => hcomma (mem_of_mem_trim hc), hself⟩

theorem withoutParameter?_eq_some {kind target : String} {fault : Fault}
    (h : withoutParameter? kind = some fault) : fault.WellFormed target := by
  unfold withoutParameter? at h
  split at h <;> cases h <;> trivial

theorem withParameter?_eq_some {kind target : String} {parameter : List Char} {fault : Fault}
    (h : withParameter? kind target parameter = some (.ok fault)) (hfield : IsField parameter) :
    fault.WellFormed target := by
  unfold withParameter? at h
  split at h
  · split at h
    · obtain rfl := Except.ok.inj (Option.some.inj h)
      trivial
    · cases h
  · obtain ⟨peers, hpeers, rfl⟩ := Outcome.map_eq_ok.1 (Option.some.inj h)
    exact readPeers_eq_ok hpeers hfield
  · split at h
    · next damage hdamage =>
      obtain rfl := Except.ok.inj (Option.some.inj h)
      obtain ⟨hsolid, hsub⟩ := Corruption.path_of_parse hdamage
      exact hfield.of_subset hsolid hsub
    · cases h
  · cases h

theorem readFault_eq_ok {number : Nat} {kind target : String} {parameter : List Char}
    {fault : Fault} (h : readFault number kind target parameter = .ok fault)
    (hfield : parameter ≠ [] → IsField parameter) : fault.WellFormed target := by
  unfold readFault at h
  split at h
  · next simple hsimple =>
    split at h
    · obtain rfl := Except.ok.inj h
      exact withoutParameter?_eq_some hsimple
    · cases h
  · split at h
    · cases h
    · next hne =>
      split at h
      · next result hresult =>
        obtain rfl := Outcome.mapError_eq_ok.1 h
        exact withParameter?_eq_some hresult (hfield hne)
      · cases h

theorem readFields_eq_ok {number : Nat} {checkpoint target kind parameter : List Char} {e : Event}
    (h : readFields number checkpoint target kind parameter = .ok e)
    (hfield : ∀ s ∈ [checkpoint, target, parameter], s ≠ [] → IsField s)
    (hhead : checkpoint ≠ [] → checkpoint.head? ≠ some '#') : e.WellFormed := by
  unfold readFields at h
  split at h
  · cases h
  · next hcheckpoint =>
    obtain ⟨hne, hword⟩ := not_or.1 hcheckpoint
    split at h
    · cases h
    · next htarget =>
      obtain ⟨fault, hfault, h⟩ := Outcome.bind_eq_ok.1 h
      obtain rfl := Except.ok.inj h
      refine ⟨?_, ?_, ?_, ?_, readFault_eq_ok hfault (hfield parameter (by simp))⟩
      · simpa using hfield checkpoint (by simp) hne
      · simpa using hword
      · simpa using hhead hne
      · simpa using hfield target (by simp) htarget

/-- An event that is read from a line which is no comment is well formed. -/
theorem readEvent_eq_ok {line : Line} {e : Event} (h : readEvent line = .ok e) (hline : line.Clean)
    (hcomment : isComment line.text = false) : e.WellFormed := by
  have hfield : ∀ s ∈ fields line.text, s ≠ [] → IsField s := fun s hs =>
    isField_of_mem_fields hline.newline hs
  have hhead : ∀ first rest, fields line.text = first :: rest → first ≠ [] →
      first.head? ≠ some '#' := fun first rest hcons hne => by
    have hstart : ∀ c ∈ line.text.head?, isBlank c = false :=
      (trim_eq_self_iff.1 hline.trimmed).head
    rw [head?_of_fields hstart hcons hne]
    simpa [isComment] using hcomment
  unfold readEvent at h
  split at h
  · next checkpoint target kind hcons =>
    refine readFields_eq_ok h (fun s hs hne => ?_) (hhead _ _ hcons)
    rw [fields, hcons] at hfield
    simp only [List.mem_cons, List.not_mem_nil, or_false] at hs
    rcases hs with rfl | rfl | rfl
    · exact hfield s (by simp) hne
    · exact hfield s (by simp) hne
    · exact absurd rfl hne
  · next checkpoint target kind parameter hcons =>
    refine readFields_eq_ok h (fun s hs hne => hfield s ?_ hne) (hhead _ _ hcons)
    rw [fields, hcons]
    simp only [List.mem_cons, List.not_mem_nil, or_false] at hs ⊢
    tauto
  · cases h

/-! ### The loop over the event lines -/

/-- What reading a further line can do: the line ends the plan, it is passed over, or it holds a new
event. -/
theorem readEvents_cons {seen : List (Checkpoint × String)} {count : Nat} {line : Line}
    {rest : List Line} {events : List (Nat × Event)}
    (h : readEvents seen count (line :: rest) = .ok events) :
    events = [] ∨ readEvents seen count rest = .ok events ∨
      ∃ e more, events = (line.number, e) :: more ∧ isComment line.text = false ∧
        readEvent line = .ok e ∧ e.key ∉ seen ∧ count < maxEvents ∧
        readEvents (e.key :: seen) (count + 1) rest = .ok more := by
  unfold readEvents at h
  split at h
  · split at h
    · exact .inr (.inl h)
    · exact .inl (Except.ok.inj h).symm
  · split at h
    · exact .inr (.inl h)
    · next hcomment =>
      split at h
      · cases h
      · next e he =>
        split at h
        · cases h
        · next hseen =>
          split at h
          · cases h
          · next hcount =>
            split at h
            · cases h
            · next more hmore =>
              exact .inr (.inr ⟨e, more, (Except.ok.inj h).symm, by simpa using hcomment, he,
                hseen, by omega, hmore⟩)

/-- The events that are read differ from the seen ones and from each other, the limit has room for
them, and each is well formed. -/
theorem readEvents_spec {seen : List (Checkpoint × String)} {count : Nat} {ls : List Line}
    {events : List (Nat × Event)} (h : readEvents seen count ls = .ok events)
    (hls : ∀ line ∈ ls, line.Clean) (hcount : count ≤ maxEvents) :
    (events.map (·.2.key)).Nodup ∧ (∀ x ∈ events, x.2.key ∉ seen) ∧
      count + events.length ≤ maxEvents ∧ ∀ x ∈ events, x.2.WellFormed := by
  induction ls generalizing seen count events with
  | nil =>
      obtain rfl := Except.ok.inj h
      simpa using hcount
  | cons line rest ih =>
      have hrest : ∀ l ∈ rest, l.Clean := fun l hl => hls l (List.mem_cons_of_mem line hl)
      rcases readEvents_cons h with rfl | h | ⟨e, more, rfl, hcomment, he, hseen, hlt, hmore⟩
      · simpa using hcount
      · exact ih h hrest hcount
      · obtain ⟨hnodup, hnew, hlen, hwell⟩ := ih hmore hrest hlt
        have hself : ∀ x ∈ more, x.2.key ≠ e.key := fun x hx heq =>
          hnew x hx (heq ▸ List.mem_cons_self)
        refine ⟨?_, ?_, by rw [List.length_cons]; omega, ?_⟩
        · rw [List.map_cons, List.nodup_cons]
          refine ⟨fun hmem => ?_, hnodup⟩
          obtain ⟨x, hx, heq⟩ := List.mem_map.1 hmem
          exact hself x hx heq
        · refine List.forall_mem_cons.2 ⟨hseen, fun x hx hmem => ?_⟩
          exact hnew x hx (List.mem_cons_of_mem _ hmem)
        · exact List.forall_mem_cons.2
            ⟨readEvent_eq_ok he (hls line List.mem_cons_self) hcomment, hwell⟩

/-! ### The order of numbered checkpoints -/

theorem firstDescent?_eq_none_iff {l : List (Nat × UInt64)} :
    firstDescent? l = none ↔ (l.map (·.2)).IsChain (· ≤ ·) := by
  induction l with
  | nil => simp [firstDescent?]
  | cons x rest ih =>
      cases rest with
      | nil => simp [firstDescent?]
      | cons y more =>
          rw [firstDescent?, List.map_cons, List.map_cons, List.isChain_cons_cons, ← List.map_cons,
            ← ih]
          split
          · next hlt => simp [UInt64.not_le.2 hlt]
          · next hlt => simp [UInt64.not_lt.1 hlt]

/-- The number of an event's checkpoint, with the line of the event. -/
def number? (x : Nat × Event) : Option (Nat × UInt64) :=
  (x.2.checkpoint.number?).map (x.1, ·)

theorem disorder?_eq (events : List (Nat × Event)) :
    disorder? events = (events.mapM number?).bind firstDescent? := by
  unfold disorder?
  split
  · next numbers heq =>
    have hnumbers : events.mapM number? = some numbers := heq
    rw [hnumbers, Option.bind_some]
  · next heq =>
    have hnone : events.mapM number? = none := heq
    rw [hnone, Option.bind_none]

theorem map_snd_mapM_number? (events : List (Nat × Event)) :
    (events.mapM number?).map (List.map Prod.snd) =
      (events.map (·.2)).mapM (·.checkpoint.number?) := by
  induction events with
  | nil => rfl
  | cons x rest ih =>
      rw [List.mapM_cons, List.map_cons, List.mapM_cons, ← ih, number?]
      cases x.2.checkpoint.number? with
      | none => rfl
      | some n =>
          cases rest.mapM number? with
          | none => rfl
          | some numbers => rfl

/-- The lines of the events have no part in whether they are in order. -/
theorem disorder?_eq_none_iff {events : List (Nat × Event)} :
    disorder? events = none ↔ Ordered (events.map (·.2)) := by
  unfold Ordered
  rw [disorder?_eq, ← map_snd_mapM_number?]
  cases events.mapM number? with
  | none => simp
  | some numbers =>
      simp only [Option.map_some, Option.some.injEq, forall_eq', Option.bind_some]
      rw [firstDescent?_eq_none_iff, List.isChain_iff_pairwise]

/-! ### Whole texts -/

/-- What a plan is read from: a header, a reference and event lines, all of them lines of the text
that say something. -/
theorem parse_eq_ok {s : List Char} {p : Plan} (h : parse s = .ok p) :
    ∃ header reference ls events, header ∈ numberedLines s ∧ reference ∈ numberedLines s ∧
      isSkippable reference.text = false ∧ ls ⊆ numberedLines s ∧
      readHeader header = .ok (p.id, p.metadata) ∧
      readReference reference.text = .ok p.invariant ∧ readEvents [] 0 ls = .ok events ∧
      events ≠ [] ∧ disorder? events = none ∧ p.events = events.map (·.2) := by
  unfold parse at h
  split at h
  · cases h
  · next header rest hheader =>
    split at h
    · cases h
    · next id metadata hid =>
      split at h
      · cases h
      · next reference ls hreference =>
        split at h
        · cases h
        · next invariant hinvariant =>
          split at h
          · cases h
          · cases h
          · next events hne hevents =>
            split at h
            · cases h
            · next hdisorder =>
              obtain rfl := Except.ok.inj h
              obtain ⟨-, hmem, hsub⟩ := nextLine?_eq_some hheader
              obtain ⟨hskip, hmem', hsub'⟩ := nextLine?_eq_some hreference
              exact ⟨header, reference, ls, events, hmem, hsub hmem', hskip,
                List.Subset.trans hsub' hsub, hid, hinvariant, hevents, hne, hdisorder, rfl⟩

theorem wellFormed_of_parse {s : List Char} {p : Plan} (h : parse s = .ok p) : p.WellFormed := by
  obtain ⟨header, reference, ls, events, -, -, -, hls, hheader, -, hevents, hne, horder, heq⟩ :=
    parse_eq_ok h
  obtain ⟨hid, hmetadata⟩ := readHeader_eq_ok hheader
  obtain ⟨hnodup, -, hlen, hwell⟩ := readEvents_spec hevents
    (fun line hline => clean_of_mem_numberedLines (hls hline)) (Nat.zero_le _)
  have hpos := List.length_pos_iff.2 hne
  refine ⟨hid, hmetadata, ?_, ?_, ?_, ?_, ?_⟩
  · rw [heq, List.length_map]
    exact hpos
  · simpa [heq] using hlen
  · rw [heq, List.map_map]
    exact hnodup
  · rw [heq]
    exact disorder?_eq_none_iff.1 horder
  · rw [heq]
    exact List.forall_mem_map.2 hwell

/-- **Every plan that is read from a text is well formed.** -/
theorem wellFormed_of_ofText {s : String} {p : Plan} (h : ofText s = .ok p) : p.WellFormed :=
  wellFormed_of_parse h

/-- A plan with two peers and a path with a colon, for instance. -/
theorem wellFormed_mixed :
    (⟨"p", ⟨"rows", .constant, "n 3"⟩, [⟨"1", "a", .partition (.ofList ["b", "c"])⟩,
      ⟨"2", "a", .corrupt (.flip "x:y" 0 3)⟩], .ofList [("k", "v")]⟩ : Plan).WellFormed :=
  wellFormed_of_ofText (s := "faultline-plan p k=v\nrows: const n 3\n# c | d | kill\n" ++
      "1 | a | partition | c, b\n2|a|corrupt| flip: x:y :0: 3\n\nnotes") (by decide +kernel)

end Plan

end FaultDrill
