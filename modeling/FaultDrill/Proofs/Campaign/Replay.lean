import FaultDrill.Campaign.Recorder
import FaultDrill.Plan.Parser
import FaultDrill.Proofs.Files.Tree
import FaultDrill.Proofs.Plan.RoundTrip
import FaultDrill.Proofs.Text.Utf8

/-!
# FaultDrill.Proofs.Campaign.Replay

**The record of a violation is a plan that can be run again, if it is not too large**
(`Recorder.record_replayable`). A record is the text of a plan, an empty line, and notes, and is read
as the plan whatever the notes say (`Recorder.ofText_violationText`). The plan is one that was read,
with its own reference or with one of a list, and either can stand in a line
(`Plan.isLine_checkedPlan`). What has been written is found again (`FileTree.find_write`) and is text
(`readBounded_of_find`), unless a device has taken it.

The writer knows no limit and the reader does. So a record with more notes than fit in a plan file is
refused, although everything in it is well formed (`Recorder.longLine_not_replayable`).
-/

namespace FaultDrill

open FaultDrill.Text

/-! ### The plan of a record -/

/-- A reference of a list that was read can stand in a line. -/
theorem Reference.isLine_of_mem_list {origin s : String} {references : List Reference}
    (h : listOfText origin s = .ok references) {r : Reference} (hr : r ∈ references) :
    Plan.IsLine (trim r.text.toList) ∧ '\n' ∉ r.text.toList := by
  unfold listOfText at h
  obtain ⟨read, hread, h⟩ := Outcome.bind_eq_ok.1 h
  have hmem : r ∈ read := by
    cases read with
    | nil => cases h
    | cons first more => exact Except.ok.inj h ▸ hr
  obtain ⟨text, htext, hparse⟩ := Outcome.exists_of_mem_mapM hread hmem
  obtain ⟨hline, hskip⟩ := List.mem_filter.1 htext
  obtain ⟨raw, hraw, rfl⟩ := List.mem_map.1 hline
  have hclean : Plan.Line.Clean ⟨0, trim raw⟩ :=
    ⟨trim_trim raw, fun hnew => newline_not_mem_of_mem_lines hraw (mem_of_mem_trim hnew)⟩
  exact Plan.isLine_reference hclean (by simpa using hskip) (Outcome.mapError_eq_ok.1 hparse)

/-- Nothing that makes a plan well formed depends on its reference. -/
theorem Plan.WellFormed.withInvariant {p : Plan} (h : p.WellFormed) (r : Reference) :
    (p.withInvariant r).WellFormed :=
  ⟨h.id, h.metadata, h.nonempty, h.bounded, h.distinct, h.ordered, h.events⟩

namespace Recorder

theorem wellFormed_checkedPlan {p : Plan} (h : p.WellFormed) (reference : Option Reference) :
    (checkedPlan p reference).WellFormed := by
  cases reference with
  | none => exact h
  | some r => exact h.withInvariant r

/-- The reference that was checked comes from the plan or from a list, and can stand in a line. -/
theorem isLine_checkedPlan {s : String} {p : Plan} (h : Plan.ofText s = .ok p)
    {reference : Option Reference} (hlist : ∀ chosen ∈ reference, ∃ origin text references,
      Reference.listOfText origin text = .ok references ∧ chosen ∈ references) :
    Plan.IsLine (trim (checkedPlan p reference).invariant.text.toList) ∧
      '\n' ∉ (checkedPlan p reference).invariant.text.toList := by
  cases reference with
  | none => exact Plan.isLine_invariant h
  | some chosen =>
      obtain ⟨origin, text, references, hread, hmem⟩ := hlist chosen rfl
      exact Reference.isLine_of_mem_list hread hmem

/-- The text of a record is read as the plan with the invariant that was checked, whatever was
observed. -/
theorem ofText_violationText {p : Plan} (hwell : p.WellFormed)
    (hline : Plan.IsLine (trim p.invariant.text.toList) ∧ '\n' ∉ p.invariant.text.toList)
    (hr : Reference.parse p.invariant.text.toList = .ok p.invariant) (r : TrialResult) :
    Plan.ofText (violationText p r) = .ok p := by
  have htext : (violationText p r).toList = p.text.toList ++ '\n' :: (notes r).toList := by
    simp [violationText]
  unfold Plan.ofText
  rw [htext]
  exact hwell.parse_text_append hline hr _ (.inr rfl)

end Recorder

/-! ### Reading a file of a known text -/

/-- A file with a text is read unless it is too large. -/
theorem readBounded_of_find {files : FileTree} {path text : String}
    (h : files.find path = .ok (.file (Utf8.encode text))) :
    readBounded files path =
      if text.utf8ByteSize ≤ Plan.maxFileSize then .ok text
      else .error (.tooLarge text.utf8ByteSize Plan.maxFileSize) := by
  have hsize : files.sizeOf path = .ok text.utf8ByteSize := by
    unfold FileTree.sizeOf
    rw [h]
    exact congrArg Except.ok (Utf8.length_encode text)
  have hread : files.readText path = .ok text := by
    unfold FileTree.readText FileTree.read
    rw [h]
    simp [bind, Except.bind, pure, Except.pure, Utf8.decode?_encode]
  unfold readBounded
  rw [hsize, hread]
  by_cases hle : text.utf8ByteSize ≤ Plan.maxFileSize
  · rw [if_pos hle]
    simp [Except.mapError, bind, Except.bind, Nat.not_lt.2 hle]
  · rw [if_neg hle]
    simp [Except.mapError, bind, Except.bind, throw, throwThe, MonadExceptOf.throw,
      Nat.not_le.1 hle]

/-- A plan is read from a file that is not too large. -/
theorem Plan.load_of_find {files : FileTree} {path text : String}
    (h : files.find path = .ok (.file (Utf8.encode text))) :
    Plan.load files path =
      if text.utf8ByteSize ≤ Plan.maxFileSize then Plan.ofText text
      else .error (.tooLarge text.utf8ByteSize Plan.maxFileSize) := by
  unfold Plan.load
  rw [readBounded_of_find h]
  split <;> simp only [bind, Except.bind]

namespace Recorder

/-! ### Records -/

/-- Only a violation of a plan has a record. Its path is made of the plan that was checked and the id
of the trial, and the text of both has been written there. -/
theorem record_eq_some {rec : Recorder} {r : TrialResult} {plan : Option Plan}
    {reference : Option Reference} {files files' : FileTree} {path : String}
    (h : rec.record r plan reference files = (some path, files')) :
    r.outcome.isViolation = true ∧ ∃ (dir : String) (p : Plan) (tree : FileTree),
      rec.violationsDir = some dir ∧ plan = some p ∧
      path = Path.join dir (violationName (checkedPlan p reference) r.id) ∧
      tree.write path (Utf8.encode (violationText (checkedPlan p reference) r)) = .ok files' := by
  unfold record at h
  dsimp only at h
  split at h
  · next dir p hviolation hdir =>
    unfold recordViolation at h
    split at h
    · cases h
    · next tree _ =>
      dsimp only at h
      split at h
      · next hwrite =>
        obtain ⟨hpath, rfl⟩ := Prod.mk.inj h
        obtain rfl := Option.some.inj hpath
        exact ⟨hviolation, dir, p, tree, hdir, rfl, rfl, hwrite⟩
      · cases h
  · cases h

/-- **The record of a violation is read as the plan with the invariant that was checked, if it is
not larger than a plan may be; otherwise it is refused for its size.** The plan is one that was read
from a file, the reference its own or one of an accepted list. What is written to a device is not
kept. -/
theorem record_replayable {rec : Recorder} {r : TrialResult} {p : Plan}
    {reference : Option Reference} {files₀ files files' : FileTree} {path₀ path : String}
    (hplan : Plan.load files₀ path₀ = .ok p)
    (hlist : ∀ chosen ∈ reference, ∃ origin text references,
      Reference.listOfText origin text = .ok references ∧ chosen ∈ references)
    (hr : Reference.parse (checkedPlan p reference).invariant.text.toList =
      .ok (checkedPlan p reference).invariant)
    (hrecord : rec.record r (some p) reference files = (some path, files')) :
    let size := (violationText (checkedPlan p reference) r).utf8ByteSize
    (∃ d, files'.find path = .ok (.device d)) ∨
      Plan.load files' path =
        if size ≤ Plan.maxFileSize then .ok (checkedPlan p reference)
        else .error (.tooLarge size Plan.maxFileSize) := by
  obtain ⟨-, -, _, tree, -, ⟨⟩, -, hwrite⟩ := record_eq_some hrecord
  obtain ⟨source, -, hsource⟩ := Outcome.bind_eq_ok.1 hplan
  have htext := ofText_violationText
    (wellFormed_checkedPlan (Plan.wellFormed_of_parse hsource) reference)
    (isLine_checkedPlan hsource hlist) hr r
  rcases FileTree.find_write hwrite with hfile | ⟨rfl, d, hdevice⟩
  · right
    rw [Plan.load_of_find hfile, htext]
  · exact .inl ⟨d, hdevice⟩

/-- A plan in a file, and the plan that is read from it. -/
def pausePlanFiles : FileTree :=
  FileTree.empty.put ["plan"]
    (Utf8.encode "faultline-plan drill\nsurvives\n1 | leader | pause\n")

@[inherit_doc pausePlanFiles]
def pausePlan : Plan where
  id := "drill"
  invariant := .named "survives"
  events := [⟨"1", "leader", .pause⟩]
  metadata := .empty

/-- A reference that stands in a list. -/
def rowsReference : Reference :=
  ⟨"rows", .constant, "count 100"⟩

/-- The result of a trial of that plan in which the driver has written some lines. -/
def violationWith (outputTail : List String) : TrialResult where
  id := ⟨List.replicate 32 '0', by decide, by decide⟩
  invariant := "survives"
  planId := "drill"
  outcome := .violation "driver output contains 'VIOLATION'"
  diagnostics := { outputTail }
  cleanupWarning := none
  startedAtMs := 0
  durationMs := 0

/-- What is left of that result in an empty tree. -/
def recordOf (outputTail : List String) (reference : Option Reference) : Option String × FileTree :=
  record { violationsDir := some "violations" } (violationWith outputTail) (some pausePlan)
    reference .empty

/-- Whether something has been written, and to a file. -/
def isKept : Option String × FileTree → Bool
  | (some path, files) => files.isFile path
  | (none, _) => false

theorem exists_of_isKept {w : Option String × FileTree} (h : isKept w = true) :
    ∃ path files', w = (some path, files') ∧ ∀ d, files'.find path ≠ .ok (.device d) := by
  obtain ⟨_ | path, files'⟩ := w
  · cases h
  · refine ⟨path, files', rfl, fun d hdevice => ?_⟩
    change files'.isFile path = true at h
    unfold FileTree.isFile at h
    rw [hdevice] at h
    cases h

/-- With a reference of a list, and with an output that has an event line and a header in it. -/
theorem record_replayable_listed : ∃ path files',
    recordOf ["1 | follower | kill", "", "faultline-plan other"] (some rowsReference) =
      (some path, files') ∧
    Plan.load files' path = .ok (pausePlan.withInvariant rowsReference) := by
  have hlist : ∀ r ∈ some rowsReference, ∃ origin text references,
      Reference.listOfText origin text = .ok references ∧ r ∈ references := fun r hr =>
    ⟨"list", "# list\nrows: constant  count 100\nsurvives\n", [rowsReference, .named "survives"],
      by decide +kernel, Option.some.inj hr ▸ List.mem_cons_self⟩
  have hsmall : (violationText (pausePlan.withInvariant rowsReference)
      (violationWith ["1 | follower | kill", "", "faultline-plan other"])).utf8ByteSize ≤
        Plan.maxFileSize := by
    decide +kernel
  obtain ⟨path, files', hrecord, hkept⟩ : ∃ path files',
      recordOf ["1 | follower | kill", "", "faultline-plan other"] (some rowsReference) =
        (some path, files') ∧ ∀ d, files'.find path ≠ .ok (.device d) :=
    exists_of_isKept (by decide +kernel)
  have hplan : Plan.load pausePlanFiles "/plan" = .ok pausePlan := by decide +kernel
  have hload := record_replayable hplan hlist (by decide +kernel) hrecord
  refine ⟨path, files', hrecord, (hload.resolve_left fun ⟨d, hd⟩ => hkept d hd).trans ?_⟩
  exact if_pos hsmall

/-! ### Records that are too large -/

/-- A record is larger than any line in it. -/
theorem length_lt_size {p : Plan} {r : TrialResult} {line : String}
    (h : line ∈ r.diagnostics.outputTail) :
    line.toList.length < (violationText p r).utf8ByteSize := by
  obtain ⟨before, after, htail⟩ := List.append_of_mem h
  refine Nat.lt_of_lt_of_le ?_ (Utf8.length_le_utf8ByteSize _)
  simp only [violationText, notes, htail, String.toList_append, String.toList_join,
    List.map_append, List.map_cons, List.flatMap_append, List.flatMap_cons, List.length_append]
  have hend : 0 < "\n".toList.length := by decide
  omega

/-- As many characters as a plan file may have bytes. -/
def longLine : String :=
  String.ofList (List.replicate Plan.maxFileSize 'x')

/-- One long line of output, and the record is refused. -/
theorem longLine_not_replayable :
    Plan.load pausePlanFiles "/plan" = .ok pausePlan ∧
    Reference.parse pausePlan.invariant.text.toList = .ok pausePlan.invariant ∧
    ∃ path files', recordOf [longLine] none = (some path, files') ∧
      ∃ size, Plan.maxFileSize < size ∧
        Plan.load files' path = .error (.tooLarge size Plan.maxFileSize) := by
  have hlarge : Plan.maxFileSize <
      (violationText pausePlan (violationWith [longLine])).utf8ByteSize := by
    have hmem : longLine ∈ (violationWith [longLine]).diagnostics.outputTail := List.mem_cons_self
    have hlong := length_lt_size (p := pausePlan) hmem
    rwa [longLine, String.toList_ofList, List.length_replicate] at hlong
  obtain ⟨path, files', hrecord, hkept⟩ : ∃ path files', recordOf [longLine] none =
      (some path, files') ∧ ∀ d, files'.find path ≠ .ok (.device d) :=
    exists_of_isKept (by decide +kernel)
  obtain ⟨-, -, _, tree, -, ⟨⟩, -, hwrite⟩ := record_eq_some hrecord
  have hfile := (FileTree.find_write hwrite).resolve_right fun ⟨htree, d, hdevice⟩ =>
    hkept d (htree ▸ hdevice)
  refine ⟨by decide +kernel, by decide +kernel, path, files', hrecord, _, hlarge, ?_⟩
  exact (Plan.load_of_find hfile).trans (if_neg (Nat.not_le.2 hlarge))

end Recorder

end FaultDrill
