import FaultDrill.Plan.Basic
import FaultDrill.Proofs.Duration.RoundTrip
import FaultDrill.Proofs.Plan.Reference
import FaultDrill.Proofs.Plan.WellFormed

/-!
# FaultDrill.Proofs.Plan.RoundTrip

**The text of an accepted plan is read as that plan, and notes may follow it** (`ofText_text`). The
proof takes a plan apart as its text does. The parameter of a well-formed fault is a field and is
read as the fault's own (`readFault_parameter`), an event line is cut into its fields again
(`readEvent_line`), and the header into its words (`readHeader_headerLine`). The lines of the text
are known whatever follows the last of them (`numberedLines_text`), and the loop over the event
lines reads one event from each until the text or an empty line ends them (`readEvents_lines`).
-/

namespace FaultDrill

open FaultDrill.Text

/-! ### Parameters of faults -/

theorem isField_write (n : Nat) : IsField (Decimal.write n) where
  solid := ⟨Decimal.write_ne_nil n, Decimal.trim_write n⟩
  bar := Decimal.not_mem_write (by decide)
  newline := Decimal.not_mem_write (by decide)

theorem isField_of_decide {s : List Char} (h : (s ≠ [] ∧ trim s = s) ∧ '|' ∉ s ∧ '\n' ∉ s) :
    IsField s :=
  ⟨⟨h.1.1, h.1.2⟩, h.2.1, h.2.2⟩

theorem Corruption.isField_text {c : Corruption} (h : IsField c.path.toList) :
    IsField c.text.toList := by
  have hcolon : '|' ∉ [':'] ∧ '\n' ∉ [':'] := by decide
  cases c with
  | truncate path n =>
      have hrest := IsField.append (a := path.toList) h hcolon (isField_write n.toNat)
      have hall := (isField_of_decide (s := "truncate".toList) (by decide)).append hcolon hrest
      rw [toList_truncate]
      simpa using hall
  | flip path m n =>
      have hrest := (IsField.append (a := path.toList) h hcolon (isField_write m.toNat)).append
        hcolon (isField_write n.toNat)
      have hall := (isField_of_decide (s := "flip".toList) (by decide)).append hcolon hrest
      rw [toList_flip]
      simpa using hall
  | zero path m n =>
      have hrest := (IsField.append (a := path.toList) h hcolon (isField_write m.toNat)).append
        hcolon (isField_write n.toNat)
      have hall := (isField_of_decide (s := "zero".toList) (by decide)).append hcolon hrest
      rw [toList_zero]
      simpa using hall

theorem Duration.isField_text (d : Duration) : IsField d.text.toList := by
  obtain ⟨hsolid, hchars⟩ := d.text_chars
  refine ⟨hsolid, fun h => ?_, fun h => ?_⟩
  · exact absurd (hchars _ h) (by decide)
  · exact absurd (hchars _ h) (by decide)

theorem toList_joined (names : List String) :
    (joined "," names).toList = [','].intercalate (names.map String.toList) :=
  String.toList_intercalate

namespace Fault

/-- The parameter of a fault can stand in a field of its own. -/
theorem isField_parameter {f : Fault} {target s : String} (h : f.WellFormed target)
    (hs : f.parameter? = some s) : IsField s.toList := by
  cases f with
  | kill => cases hs
  | pause => cases hs
  | resume => cases hs
  | delay d => exact Option.some.inj hs ▸ d.isField_text
  | corrupt damage => exact Option.some.inj hs ▸ Corruption.isField_text h
  | partition peers =>
      obtain ⟨hne, hpeers⟩ := h
      rw [← Option.some.inj hs, toList_joined]
      cases hlist : peers.toList with
      | nil => exact absurd hlist hne
      | cons first more =>
          rw [hlist] at hpeers
          rw [List.map_cons]
          refine isField_intercalate ?_
          rw [← List.map_cons]
          exact List.forall_mem_map.2 fun peer hpeer => (hpeers peer hpeer).1

end Fault

namespace Plan

/-- Peers that are joined with commas are the same peers when they are cut again. -/
theorem readPeers_joined {target : String} {peers : NameSet}
    (h : (Fault.partition peers).WellFormed target) :
    readPeers target (joined "," peers.toList).toList = .ok peers := by
  obtain ⟨hne, hpeers⟩ := h
  have hcomma : ∀ s ∈ peers.toList.map String.toList, ',' ∉ s :=
    List.forall_mem_map.2 fun peer hpeer => (hpeers peer hpeer).2.1
  have hsolid : ∀ s ∈ peers.toList.map String.toList, IsSolid s :=
    List.forall_mem_map.2 fun peer hpeer => (hpeers peer hpeer).1.solid
  have hcut : (joined "," peers.toList).toList.splitOn ',' = peers.toList.map String.toList := by
    rw [toList_joined]
    exact List.splitOn_intercalate ',' hcomma (by simpa using hne)
  have htrim : (peers.toList.map String.toList).map trim = peers.toList.map String.toList :=
    List.map_congr_left (fun s hs => (hsolid s hs).trimmed) |>.trans (List.map_id _)
  have hfilter : (peers.toList.map String.toList).filter (!·.isEmpty) =
      peers.toList.map String.toList :=
    List.filter_eq_self.2 fun s hs => by simpa using (hsolid s hs).ne_nil
  have hset : NameSet.ofList ((peers.toList.map String.toList).map String.ofList) = peers := by
    rw [List.map_map]
    simp [Function.comp_def]
  have hempty : peers.isEmpty = false := NameSet.toList_ne_nil_iff.1 hne
  have hown : peers.contains target = false := by
    rw [← Bool.not_eq_true, ← NameSet.mem_toList_iff]
    exact fun hmem => (hpeers target hmem).2.2 rfl
  unfold readPeers
  simp only [hcut, htrim, hfilter, hset, hempty, hown]
  rfl

theorem readFault_of_withParameter? {number : Nat} {kind target : String} {parameter : List Char}
    {f : Fault} (hkind : withoutParameter? kind = none) (hne : parameter ≠ [])
    (h : withParameter? kind target parameter = some (.ok f)) :
    readFault number kind target parameter = .ok f := by
  unfold readFault
  rw [hkind]
  dsimp only
  rw [if_neg hne, h]
  rfl

/-- A fault that may strike a target is read from its kind and its parameter. -/
theorem readFault_parameter {target : String} {f : Fault} (h : f.WellFormed target)
    (number : Nat) :
    readFault number f.kind target ((f.parameter?.map String.toList).getD []) = .ok f := by
  have hfield : ∀ s, f.parameter? = some s → s.toList ≠ [] := fun s hs =>
    (f.isField_parameter h hs).solid.ne_nil
  cases f with
  | kill => rfl
  | pause => rfl
  | resume => rfl
  | delay d =>
      have hread : withParameter? "delay" target d.text.toList = some (.ok (.delay d)) := by
        simp [withParameter?, d.parse_text]
      exact readFault_of_withParameter? rfl (hfield d.text rfl) hread
  | partition peers =>
      have hread : withParameter? "partition" target (joined "," peers.toList).toList =
          some (.ok (.partition peers)) := by
        simp [withParameter?, readPeers_joined h, Functor.map, Except.map]
      exact readFault_of_withParameter? rfl (hfield (joined "," peers.toList) rfl) hread
  | corrupt damage =>
      have hread : withParameter? "corrupt" target damage.text.toList =
          some (.ok (.corrupt damage)) := by
        simp [withParameter?, Corruption.parse_text (IsField.solid h)]
      exact readFault_of_withParameter? rfl (hfield damage.text rfl) hread

/-! ### Event lines -/

/-- The kinds are words in small letters. -/
theorem kind_chars (f : Fault) :
    IsField f.kind.toList ∧ String.ofList (lower f.kind.toList) = f.kind := by
  have hall : ∀ kind ∈ ["kill", "pause", "resume", "delay", "partition", "corrupt"],
      ((kind.toList ≠ [] ∧ trim kind.toList = kind.toList) ∧ '|' ∉ kind.toList ∧
        '\n' ∉ kind.toList) ∧ String.ofList (lower kind.toList) = kind := by
    decide
  exact (hall f.kind (by cases f <;> simp [Fault.kind])).imp_left isField_of_decide

theorem toList_line (e : Event) : e.line.toList = e.checkpoint.toList ++ ' ' :: '|' :: ' ' ::
    (e.target.toList ++ ' ' :: '|' :: ' ' :: e.fault.fields.toList) := by
  simp [Event.line]

theorem toList_fields_none {f : Fault} (h : f.parameter? = none) :
    f.fields.toList = f.kind.toList := by
  rw [Fault.fields, h]

theorem toList_fields_some {f : Fault} {s : String} (h : f.parameter? = some s) :
    f.fields.toList = f.kind.toList ++ ' ' :: '|' :: ' ' :: s.toList := by
  rw [Fault.fields, h]
  simp

theorem readFields_self {e : Event} (h : e.WellFormed) (number : Nat) :
    readFields number e.checkpoint.toList e.target.toList e.fault.kind.toList
      ((e.fault.parameter?.map String.toList).getD []) = .ok e := by
  have hcheckpoint : ¬ (e.checkpoint.toList = [] ∨ hasBlank e.checkpoint.toList = true) :=
    not_or.2 ⟨h.checkpoint.solid.ne_nil, by rw [h.word]; decide⟩
  unfold readFields
  rw [if_neg hcheckpoint, if_neg h.target.solid.ne_nil, (kind_chars e.fault).2,
    String.ofList_toList]
  simp only [readFault_parameter h.fault, bind, Except.bind, pure, Except.pure,
    String.ofList_toList]

/-- The line of an event is read as the event. -/
theorem readEvent_line {e : Event} (h : e.WellFormed) {line : Line}
    (hline : line.text = e.line.toList) : readEvent line = .ok e := by
  have hself := readFields_self h line.number
  have hfields : fields line.text =
      e.checkpoint.toList :: e.target.toList :: fields e.fault.fields.toList := by
    rw [hline, toList_line, fields_append h.checkpoint, fields_append h.target]
  unfold readEvent
  rw [show (line.text.splitOn '|').map trim = fields line.text from rfl, hfields]
  cases hparameter : e.fault.parameter? with
  | none =>
      rw [hparameter] at hself
      rw [toList_fields_none hparameter, fields_eq_singleton (kind_chars e.fault).1]
      exact hself
  | some s =>
      rw [hparameter] at hself
      rw [toList_fields_some hparameter, fields_append (kind_chars e.fault).1,
        fields_eq_singleton (e.fault.isField_parameter h.fault hparameter)]
      exact hself

/-- What can stand in a line of a plan's text before the notes: it is not blank, no comment, and
reading it does not cut it. -/
structure IsLine (s : List Char) : Prop where
  solid : IsSolid s
  newline : '\n' ∉ s
  noComment : s.head? ≠ some '#'

theorem IsLine.isSkippable {s : List Char} (h : IsLine s) : isSkippable s = false := by
  unfold Plan.isSkippable isComment
  simp [h.solid.ne_nil, h.noComment]

theorem isLine_line {e : Event} (h : e.WellFormed) : IsLine e.line.toList := by
  have hfields : IsSolid e.fault.fields.toList ∧ '\n' ∉ e.fault.fields.toList := by
    have hkind := (kind_chars e.fault).1
    cases hparameter : e.fault.parameter? with
    | none => rw [toList_fields_none hparameter]; exact ⟨hkind.solid, hkind.newline⟩
    | some s =>
        have hs := e.fault.isField_parameter h.fault hparameter
        rw [toList_fields_some hparameter]
        exact ⟨by simpa using hkind.solid.append [' ', '|', ' '] hs.solid,
          by simp [hkind.newline, hs.newline]⟩
  have hrest := h.target.solid.append [' ', '|', ' '] hfields.1
  rw [toList_line]
  refine ⟨by simpa using h.checkpoint.solid.append [' ', '|', ' '] hrest, ?_, ?_⟩
  · simp [h.checkpoint.newline, h.target.newline, hfields.2]
  · rw [List.head?_append_of_ne_nil _ h.checkpoint.solid.ne_nil]
    exact h.noComment

/-! ### The header and the reference -/

/-- The words of the header line after the first. -/
def headerTokens (p : Plan) : List (List Char) :=
  p.id.toList :: p.metadata.toList.map fun note => note.1.toList ++ '=' :: note.2.toList

theorem toList_headerLine (p : Plan) :
    p.headerLine.toList = headerWord.toList ++ p.headerTokens.flatMap (' ' :: ·) := by
  have hfold : ∀ (notes : List (String × String)) (start : String),
      (notes.foldl (fun line note => s!"{line} {note.1}={note.2}") start).toList =
        start.toList ++
          (notes.map fun note => note.1.toList ++ '=' :: note.2.toList).flatMap (' ' :: ·) := by
    intro notes
    induction notes with
    | nil => intro start; simp
    | cons note rest ih => intro start; rw [List.foldl_cons, ih]; simp
  have hline : p.headerLine = p.metadata.toList.foldl
      (fun line note => s!"{line} {note.1}={note.2}") (headerWord ++ " " ++ p.id) := rfl
  unfold headerTokens
  rw [hline, hfold]
  simp

theorem WellFormed.headerTokens {p : Plan} (h : p.WellFormed) :
    ∀ token ∈ p.headerTokens, token ≠ [] ∧ hasBlank token = false := by
  refine List.forall_mem_cons.2 ⟨⟨h.id.ne_nil, h.id.word⟩, List.forall_mem_map.2 fun note hnote => ?_⟩
  obtain ⟨hkey, -, hvalue⟩ := h.metadata note hnote
  refine ⟨by simp, ?_⟩
  simp only [hasBlank, List.any_append, List.any_cons, Bool.or_eq_false_iff] at hkey hvalue ⊢
  exact ⟨hkey, by decide, hvalue⟩

theorem readNote_note {note : String × String} (h : '=' ∉ note.1.toList) (number : Nat) :
    readNote number (note.1.toList ++ '=' :: note.2.toList) = .ok note := by
  unfold readNote
  rw [cut?_append h]
  simp

/-- The header line is read as the identifier and the notes. -/
theorem readHeader_headerLine {p : Plan} (h : p.WellFormed) {line : Line}
    (hline : line.text = p.headerLine.toList) : readHeader line = .ok (p.id, p.metadata) := by
  have hwords : words line.text = headerWord.toList :: p.headerTokens := by
    rw [hline, toList_headerLine]
    exact words_flatMap_space (by decide) (by decide) h.headerTokens
  have hnotes : (p.metadata.toList.map fun note => note.1.toList ++ '=' :: note.2.toList).mapM
      (readNote line.number) = .ok p.metadata.toList :=
    Outcome.mapM_map_eq_ok fun note hnote => readNote_note (h.metadata note hnote).2.1 line.number
  unfold readHeader
  rw [hwords, Plan.headerTokens]
  dsimp only
  rw [if_pos String.ofList_toList]
  simp [hnotes, bind, Except.bind, pure, Except.pure]

theorem isSolid_words {w : List Char} {more : List (List Char)}
    (h : ∀ v ∈ w :: more, v ≠ [] ∧ hasBlank v = false) :
    IsSolid (w ++ more.flatMap (' ' :: ·)) := by
  have hw : IsSolid w := ⟨(h w List.mem_cons_self).1, trim_of_hasBlank (h w List.mem_cons_self).2⟩
  induction more generalizing w with
  | nil => simpa using hw
  | cons v rest ih =>
      have hv := h v (by simp)
      have hrest := ih (fun u hu => h u (List.mem_cons_of_mem w hu))
        ⟨hv.1, trim_of_hasBlank hv.2⟩
      simpa using hw.append [' '] hrest

theorem isLine_headerLine {p : Plan} (h : p.WellFormed) : IsLine p.headerLine.toList := by
  have hnew : ∀ token ∈ p.headerTokens, '\n' ∉ token := fun token htoken hmem => by
    have hblank := (h.headerTokens token htoken).2
    rw [hasBlank, List.any_eq_false] at hblank
    exact hblank '\n' hmem (by decide)
  rw [toList_headerLine]
  refine ⟨isSolid_words (List.forall_mem_cons.2 ⟨by decide, h.headerTokens⟩), ?_, ?_⟩
  · rw [List.mem_append, List.mem_flatMap]
    rintro (hmem | ⟨token, htoken, hmem⟩)
    · exact absurd hmem (by decide)
    · exact hnew token htoken (by simpa using hmem)
  · rw [List.head?_append_of_ne_nil _ (by decide)]
    decide

/-- The text of a reference that was read can stand for its line. -/
theorem isLine_reference {line : Line} {r : Reference} (hline : line.Clean)
    (hskip : isSkippable line.text = false) (h : Reference.parse line.text = .ok r) :
    IsLine (trim r.text.toList) ∧ '\n' ∉ r.text.toList := by
  obtain ⟨hnew, hhead, hne⟩ := Reference.text_of_parse h hline.newline
  have hcomment : line.text.head? ≠ some '#' := by
    simp only [isSkippable, isComment, Bool.or_eq_false_iff, beq_eq_false_iff_ne] at hskip
    exact hskip.2
  rw [hline.trimmed] at hhead hne
  have hblank : ∀ c ∈ r.text.toList.head?, isBlank c = false := by
    rw [hhead]
    exact (trim_eq_self_iff.1 hline.trimmed).head
  have htrim : trim r.text.toList ≠ [] := by
    obtain ⟨c, rest, htext⟩ := List.exists_cons_of_ne_nil hne
    have hc : r.text.toList.head? = some c := by rw [hhead, htext]; rfl
    exact trim_ne_nil (List.mem_of_mem_head? hc) (hblank c hc)
  refine ⟨⟨⟨htrim, trim_trim _⟩, fun hmem => hnew (mem_of_mem_trim hmem), ?_⟩, hnew⟩
  rw [head?_trim hblank htrim, hhead]
  exact hcomment

/-! ### All lines -/

theorem map_text_numberedLines (s : List Char) :
    (numberedLines s).map Line.text = (lines s).map trim := by
  have hnumbered : numberedLines s = (lines s).zipIdx.map fun x => ⟨x.2 + 1, trim x.1⟩ := rfl
  have hcomp : (Line.text ∘ fun x : List Char × Nat => (⟨x.2 + 1, trim x.1⟩ : Line)) =
      trim ∘ Prod.fst := rfl
  rw [hnumbered, List.map_map, hcomp, ← List.map_map, List.zipIdx_map_fst]

theorem toList_text (p : Plan) :
    p.text.toList = (p.textLines.map String.toList).flatMap (· ++ ['\n']) := by
  unfold text
  rw [String.toList_join, List.flatMap_map, List.flatMap_map]
  exact List.flatMap_congr fun line _ => by simp

/-- The lines of a plan's text, whatever follows the last of them. -/
theorem numberedLines_text {p : Plan} (h : ∀ line ∈ p.textLines, '\n' ∉ line.toList)
    (rest : List Char) : (numberedLines (p.text.toList ++ rest)).map Line.text =
      (p.textLines.map fun line => trim line.toList) ++ (lines rest).map trim := by
  have htrim : (p.textLines.map fun line => trim (dropReturn line.toList)) =
      p.textLines.map fun line => trim line.toList :=
    List.map_congr_left fun line _ => trim_dropReturn line.toList
  rw [map_text_numberedLines, toList_text, lines_flatMap (List.forall_mem_map.2 h), List.map_append,
    List.map_map, List.map_map, ← htrim]
  rfl

/-- The loop reads one event from each line until the text or an empty line ends them. -/
theorem readEvents_lines {es : List Event} {seen : List (Checkpoint × String)} {count : Nat}
    {ls : List Line} {tail : List (List Char)} (hwell : ∀ e ∈ es, e.WellFormed)
    (hdistinct : (es.map Event.key).Nodup) (hnew : ∀ e ∈ es, e.key ∉ seen)
    (hlen : count + es.length ≤ maxEvents) (hpos : 0 < count + es.length)
    (hls : ls.map Line.text = es.map (·.line.toList) ++ tail) (htail : ∀ t ∈ tail.head?, t = []) :
    ∃ events, readEvents seen count ls = .ok events ∧ events.map (·.2) = es := by
  induction es generalizing seen count ls with
  | nil =>
      refine ⟨[], ?_, rfl⟩
      cases ls with
      | nil => rfl
      | cons line rest =>
          have htexts : line.text :: rest.map Line.text = tail := hls
          have hempty : line.text = [] := htail _ (by rw [← htexts]; rfl)
          unfold readEvents
          rw [if_pos hempty, if_neg (by simpa using hpos.ne')]
  | cons e more ih =>
      cases ls with
      | nil => simp at hls
      | cons line rest =>
          obtain ⟨hline, hrest⟩ : line.text = e.line.toList ∧
              rest.map Line.text = more.map (·.line.toList) ++ tail := List.cons_eq_cons.1 hls
          have he := hwell e List.mem_cons_self
          have hread := readEvent_line he hline
          obtain ⟨hself, hnodup⟩ := List.nodup_cons.1 hdistinct
          rw [List.length_cons] at hlen
          have hnew' : ∀ x ∈ more, x.key ∉ e.key :: seen := fun x hx hmem => by
            rcases List.mem_cons.1 hmem with heq | hmem
            · exact hself (heq ▸ List.mem_map_of_mem hx)
            · exact hnew x (List.mem_cons_of_mem e hx) hmem
          obtain ⟨events, hevents, hmap⟩ : ∃ events,
              readEvents (e.key :: seen) (count + 1) rest = .ok events ∧ events.map (·.2) = more :=
            ih (fun x hx => hwell x (List.mem_cons_of_mem e hx)) hnodup hnew' (by omega) (by omega)
              hrest
          refine ⟨(line.number, e) :: events, ?_, by rw [List.map_cons, hmap]⟩
          have hstart := isLine_line he
          rw [← hline] at hstart
          have hcomment : isComment line.text = false := by
            simpa [isComment] using hstart.noComment
          have hkey := hnew e List.mem_cons_self
          unfold Event.key at hkey hevents
          have hcount : ¬ maxEvents ≤ count := by omega
          unfold readEvents
          rw [if_neg hstart.solid.ne_nil, hcomment, hread]
          simp only [if_neg hkey, if_neg hcount, hevents]
          rfl

/-! ### Whole texts -/

theorem nextLine?_cons {line : Line} (h : isSkippable line.text = false) (rest : List Line) :
    nextLine? (line :: rest) = some (line, rest) := by
  unfold nextLine?
  rw [List.dropWhile_cons_of_neg (by simpa using h)]

/-- A text whose lines are those of a well-formed plan is read as the plan. -/
theorem parse_eq_self {p : Plan} (h : p.WellFormed) {s : List Char} {tail : List (List Char)}
    (hlines : (numberedLines s).map Line.text =
      p.headerLine.toList :: trim p.invariant.text.toList :: p.events.map (·.line.toList) ++ tail)
    (htail : ∀ t ∈ tail.head?, t = []) (hreference : IsLine (trim p.invariant.text.toList))
    (hr : Reference.parse p.invariant.text.toList = .ok p.invariant) : parse s = .ok p := by
  obtain ⟨header, ls, hnumbered, hheader, hls⟩ := List.map_eq_cons_iff.1 hlines
  obtain ⟨reference, rest, rfl, hline, hrest⟩ := List.map_eq_cons_iff.1 hls
  obtain ⟨events, hevents, hmap⟩ : ∃ events, readEvents [] 0 rest = .ok events ∧
      events.map (·.2) = p.events :=
    readEvents_lines h.events h.distinct (fun _ _ => List.not_mem_nil) (by simpa using h.bounded)
      (by have := h.nonempty; omega) hrest htail
  have hskip : isSkippable header.text = false := hheader ▸ (isLine_headerLine h).isSkippable
  have hskip' : isSkippable reference.text = false := hline ▸ hreference.isSkippable
  have hread : readReference reference.text = .ok p.invariant := by
    rw [hline]
    exact Outcome.mapError_eq_ok.2 ((Reference.parse_trim _).trans hr)
  have horder : disorder? events = none := disorder?_eq_none_iff.2 (hmap ▸ h.ordered)
  unfold parse
  rw [hnumbered, nextLine?_cons hskip]
  cases events with
  | nil =>
      have hpos := h.nonempty
      rw [← hmap] at hpos
      exact absurd hpos (by decide)
  | cons first more =>
      simp only [readHeader_headerLine h hheader, nextLine?_cons hskip', hread, hevents, horder,
        hmap]

/-- The text of a well-formed plan is read as the plan, and so is the text with notes that an empty
line sets off. -/
theorem WellFormed.parse_text_append {p : Plan} (hwell : p.WellFormed)
    (hline : IsLine (trim p.invariant.text.toList) ∧ '\n' ∉ p.invariant.text.toList)
    (hr : Reference.parse p.invariant.text.toList = .ok p.invariant) (rest : List Char)
    (hrest : rest.head? = none ∨ rest.head? = some '\n') : parse (p.text.toList ++ rest) = .ok p := by
  have hlines : ∀ line ∈ p.textLines, '\n' ∉ line.toList :=
    List.forall_mem_cons.2 ⟨(isLine_headerLine hwell).newline, List.forall_mem_cons.2 ⟨hline.2,
      List.forall_mem_map.2 fun e he => (isLine_line (hwell.events e he)).newline⟩⟩
  have htail : ∀ t ∈ ((lines rest).map trim).head?, t = [] := by
    cases rest with
    | nil => simp
    | cons c notes =>
        obtain rfl : c = '\n' := by simpa using hrest
        have hlines : lines ('\n' :: notes) = [] :: lines notes :=
          lines_cons (l := []) List.not_mem_nil notes
        simp [hlines]
  have htrim : p.events.map (fun e => trim e.line.toList) = p.events.map (·.line.toList) :=
    List.map_congr_left fun e he => (isLine_line (hwell.events e he)).solid.trimmed
  refine parse_eq_self hwell ?_ htail hline.1 hr
  rw [numberedLines_text hlines, textLines, List.map_cons, List.map_cons, List.map_map,
    (isLine_headerLine hwell).solid.trimmed]
  exact congrArg (fun texts => _ :: _ :: texts ++ _) htrim

/-- The reference of a plan that was read can stand in a line. -/
theorem isLine_invariant {s : List Char} {p : Plan} (h : parse s = .ok p) :
    IsLine (trim p.invariant.text.toList) ∧ '\n' ∉ p.invariant.text.toList := by
  obtain ⟨header, reference, ls, events, -, hmem, hskip, -, -, hread, -⟩ := parse_eq_ok h
  exact isLine_reference (clean_of_mem_numberedLines hmem) hskip (Outcome.mapError_eq_ok.1 hread)

/-- The text of a plan that can be read is read as the plan, also with notes after it. -/
theorem parse_text_append {s : List Char} {p : Plan} (h : parse s = .ok p)
    (hr : Reference.parse p.invariant.text.toList = .ok p.invariant) (rest : List Char)
    (hrest : rest.head? = none ∨ rest.head? = some '\n') : parse (p.text.toList ++ rest) = .ok p :=
  (wellFormed_of_parse h).parse_text_append (isLine_invariant h) hr rest hrest

/-- **The text of an accepted plan is read as the plan, whatever notes follow it after an empty
line**, provided that the plan's reference can be read back. -/
theorem ofText_text {s : String} {p : Plan} (h : ofText s = .ok p)
    (hr : Reference.parse p.invariant.text.toList = .ok p.invariant) (notes : String) :
    ofText p.text = .ok p ∧ ofText (p.text ++ "\n" ++ notes) = .ok p := by
  have halone := parse_text_append h hr [] (.inl rfl)
  have hnotes := parse_text_append h hr ('\n' :: notes.toList) (.inr rfl)
  rw [List.append_nil] at halone
  refine ⟨halone, ?_⟩
  have htext : (p.text ++ "\n" ++ notes).toList = p.text.toList ++ '\n' :: notes.toList := by simp
  unfold ofText
  rw [htext]
  exact hnotes

/-- A plan with a delay, two peers, a path with a colon and notes in its header, for instance. -/
theorem ofText_text_mixed :
    let p : Plan := ⟨"p", ⟨"rows", .constant, "n 3"⟩, [⟨"1", "a", .delay (.ofMillis 1500)⟩,
      ⟨"1", "b", .partition (.ofList ["a", "c"])⟩, ⟨"2", "a", .corrupt (.flip "x:1" 0 3)⟩],
      .ofList [("k", "v"), ("z", "")]⟩
    ofText p.text = .ok p ∧ ofText (p.text ++ "\n" ++ "1 | a | kill") = .ok p :=
  ofText_text (s := "# plan\nfaultline-plan p z= k=v\n\nrows: const n 3\n" ++
      "1 | a | delay | 1s 500ms\n1|b|Partition|c, a,\n2 | a | corrupt | flip: x:1 :0:3")
    (by decide +kernel) (by decide +kernel) "1 | a | kill"

end Plan

end FaultDrill
