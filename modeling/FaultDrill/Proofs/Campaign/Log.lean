import FaultDrill.Proofs.Campaign.Replay
import FaultDrill.Proofs.Trial.ResultCodec
import Mathlib.Data.List.Forall2

/-!
# FaultDrill.Proofs.Campaign.Log

**The log of a recorder is read back as the results that it has recorded, line by line**
(`Recorder.Fills.lines_decode`). A result takes up one line, whatever texts it holds, since its JSON
value is written without a line feed; and this value is read back as the result, but for the delays
of its events, which keep their whole milliseconds only (`TrialResult.ofText?_compact`). So it is
enough that the bytes of the log are those of the lines, one after the other: an append leaves what
was there and puts its own bytes at the end (`FileTree.find_append`).

Between two records the files may change in any way that leaves the log as it is. The record of a
violation in a file of its own is such a change (`Recorder.Fills.record`).
-/

namespace FaultDrill

open FaultDrill.Text

/-- The result that a text tells. -/
def TrialResult.ofText? (s : String) : Option TrialResult := do
  TrialResult.ofJson? (← Json.read? s)

/-- A result is read from its own line. -/
theorem TrialResult.ofText?_compact {r : TrialResult} (hcode : r.diagnostics.CodeFits) :
    TrialResult.ofText? r.toJson.compact = some r.inMillis := by
  unfold TrialResult.ofText?
  rw [Json.read?_compact (TrialResult.kept_toJson hcode)]
  exact TrialResult.ofJson?_toJson hcode

namespace Recorder

/-- The text of a log with some results. -/
def logText (rs : List TrialResult) : String :=
  String.join (rs.map logLine)

theorem logText_concat (rs : List TrialResult) (r : TrialResult) :
    logText (rs ++ [r]) = logText rs ++ logLine r := by
  simp [logText, String.join_append]

/-- How a log comes to hold some results: it is empty at first, and each of them has been recorded
in its turn, with an append that has succeeded. -/
inductive Fills (rec : Recorder) (path : String) : List TrialResult → FileTree → Prop
  | start {files : FileTree}
      (hempty : files.find path = .ok (.file []) ∨ files.find path = .error .notFound) :
      Fills rec path [] files
  | log {rs : List TrialResult} {files : FileTree} (r : TrialResult) (h : Fills rec path rs files)
      (happend : (files.append path (Utf8.encode (logLine r))).isOk = true) :
      Fills rec path (rs ++ [r]) (rec.log r files)
  /-- Something else has changed. -/
  | meanwhile {rs : List TrialResult} {files files' : FileTree} (h : Fills rec path rs files)
      (hsame : files'.find path = files.find path) : Fills rec path rs files'

namespace Fills

variable {rec : Recorder} {path : String} {rs : List TrialResult} {files : FileTree}

/-- A result that is recorded takes its place in the log, when the record of a violation is kept
elsewhere. -/
theorem record {r : TrialResult} (plan : Option Plan) (reference : Option Reference)
    (h : rec.Fills path rs files)
    (happend : (files.append path (Utf8.encode (logLine r))).isOk = true)
    (helsewhere : (rec.record r plan reference files).2.find path = (rec.log r files).find path) :
    rec.Fills path (rs ++ [r]) (rec.record r plan reference files).2 :=
  (h.log r happend).meanwhile helsewhere

/-- The bytes of a log: there is no file as long as nothing has been recorded. -/
theorem find_eq (hlog : rec.resultLog = some path) (h : rec.Fills path rs files) :
    files.find path = .ok (.file (Utf8.encode (logText rs))) ∨
      files.find path = .error .notFound ∧ rs = [] := by
  induction h with
  | start hempty =>
      refine hempty.imp (fun hfile => hfile.trans ?_) fun hmissing => ⟨hmissing, rfl⟩
      simp [logText, Utf8.encode_empty]
  | @log rs files r h happend ih =>
      left
      -- where there is no file yet, nothing has been recorded
      have hold : files.find path = .ok (.file (Utf8.encode (logText rs))) ∨
          files.find path = .error .notFound ∧ Utf8.encode (logText rs) = [] :=
        ih.imp_right fun ⟨hmissing, hnil⟩ => ⟨hmissing, by rw [hnil]; exact Utf8.encode_empty⟩
      unfold Recorder.log
      simp only [hlog]
      split
      · next files' hok =>
        rw [FileTree.find_append hold hok, logText_concat, Utf8.encode_append]
      · next herror =>
        rw [herror] at happend
        cases happend
  | meanwhile h hsame ih => rwa [hsame]

/-- **The log is made up of one line for each result, in order, and the line is read as the result
with its delays in whole milliseconds.** -/
theorem lines_decode (hlog : rec.resultLog = some path) (h : rec.Fills path rs files)
    (hcode : ∀ r ∈ rs, r.diagnostics.CodeFits) : ∃ lines : List String,
      (files.readText path = .ok (String.join (lines.map (· ++ "\n"))) ∨
        files.find path = .error .notFound ∧ rs = []) ∧
      List.Forall₂ (fun r line => '\n' ∉ line.toList ∧
        TrialResult.ofText? line = some r.inMillis) rs lines := by
  refine ⟨rs.map fun r => r.toJson.compact, ?_, ?_⟩
  · refine (h.find_eq hlog).imp_left fun hfile => ?_
    have htext : (rs.map fun r => r.toJson.compact).map (· ++ "\n") = rs.map logLine :=
      List.map_map
    unfold FileTree.readText FileTree.read
    rw [hfile, htext]
    simp [bind, Except.bind, pure, Except.pure, Utf8.decode?_encode, logText]
  · rw [List.forall₂_map_right_iff, List.forall₂_same]
    exact fun r hr =>
      ⟨Json.newline_not_mem_compact r.toJson, TrialResult.ofText?_compact (hcode r hr)⟩

/-- A violation with line feeds and quotes in its texts and half a millisecond in a delay. -/
def quotedViolation : TrialResult :=
  { violationWith ["first\nsecond", "\"\\"] with
    outcome := .violation "driver output contains 'VIOLATION': \"VIOLATION\"\n"
    diagnostics := {
      eventsFired := [⟨"1", "leader", .delay ⟨1500000, by decide⟩⟩]
      driverExitCode := some (-1)
      outputTail := ["first\nsecond", "\"\\"]
      state := .ofList [("leader.\n", "\"\"")] }
    cleanupWarning := some "cleanup: \"busy\"\n" }

/-- A pass with a delay of more milliseconds than sixty-four bits hold. -/
def longPass : TrialResult :=
  { violationWith [] with
    outcome := .pass
    diagnostics := { eventsSkipped := [⟨"2", "leader", .delay (.ofSecs 18446744073709551615)⟩] } }

/-- A recorder that keeps a log only. -/
def logOnly : Recorder where
  resultLog := some "log"

/-- The files after both have been recorded, where there is no plan for the second. -/
def bothRecorded : FileTree :=
  (logOnly.record longPass none none
    (logOnly.record quotedViolation (some pausePlan) none .empty).2).2

/-- Both results, from an empty tree. -/
theorem lines_decode_both : ∃ lines : List String,
    bothRecorded.readText "log" = .ok (String.join (lines.map (· ++ "\n"))) ∧
    List.Forall₂ (fun r line => '\n' ∉ line.toList ∧
      TrialResult.ofText? line = some r.inMillis) [quotedViolation, longPass] lines := by
  have hempty : logOnly.Fills "log" [] .empty := .start (.inr (by decide +kernel))
  have hfirst := hempty.record (some pausePlan) none (r := quotedViolation) (by decide +kernel) rfl
  have hboth : logOnly.Fills "log" [quotedViolation, longPass] bothRecorded :=
    hfirst.record none none (by decide +kernel) rfl
  obtain ⟨lines, htext, hlines⟩ := lines_decode rfl hboth (by decide)
  have hsome : ¬ (bothRecorded.find "log" = .error .notFound ∧
      [quotedViolation, longPass] = []) := fun hnone => by cases hnone.2
  exact ⟨lines, htext.resolve_right hsome, hlines⟩

end Fills

end Recorder

end FaultDrill
