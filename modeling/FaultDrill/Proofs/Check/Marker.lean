import FaultDrill.Proofs.Check.Verdict
import FaultDrill.Proofs.Trial.Capture

/-!
# FaultDrill.Proofs.Check.Marker

**A marker in the output is never missed because too few lines are kept** (`Check.verdict_marker`).
Three places have to agree on it. The marker that a check looks for is one of those that are watched
for (`Check.mem_watchedMarkers`). Of a watched marker the first line is kept, however many come after
it (`Capture.get?_hits_pushAll`). And the search of an observation looks at the line that was kept
before it looks at the last lines, in which a marker without such a line does not occur
(`lineWith?_capture`). So what it finds is the first line with the marker among all of them.
-/

namespace FaultDrill

open FaultDrill.Text

/-- An observation of what a driver has written. -/
def Observation.withOutput (o : Observation) (c : Capture) : Observation :=
  { o with outputTail := c.tail, markerHits := c.hits }

/-- A watched marker is looked for in all lines, although only the last ones are kept. -/
theorem lineWith?_capture {watched : List String} {marker : String} (h : marker ∈ watched)
    (o : Observation) (limit : Nat) (lines : List String) :
    (o.withOutput ((Capture.new limit watched).pushAll lines)).lineWith? marker =
      lines.find? (contains · marker) := by
  unfold Observation.lineWith? Observation.withOutput
  simp only [Capture.get?_hits_pushAll h, Capture.tail_pushAll]
  cases hfind : lines.find? (contains · marker) with
  | some line => rfl
  | none =>
      -- what is in no line at all is in none of the last ones
      have hall := List.find?_eq_none.1 hfind
      exact List.find?_eq_none.2 fun line hline => hall line (List.mem_of_mem_drop hline)

namespace Check

/-- The marker that a check looks for is watched for. -/
theorem mem_watchedMarkers {s : CheckSettings} {r : Reference} {marker : String}
    (h : resolve s r = .ok (.outputMarker marker)) : marker ∈ watchedMarkers s r := by
  unfold watchedMarkers
  rw [h]
  simp only [watchedMarker?]
  by_cases heq : marker = s.failureMarker
  · rw [if_pos heq]
    exact List.mem_cons_self
  · rw [if_neg heq]
    exact List.mem_cons_of_mem _ List.mem_cons_self

/-- The verdict on an output: what is found first in it decides. -/
theorem evaluate_withOutput {s : CheckSettings} {r : Reference} {marker : String}
    (h : resolve s r = .ok (.outputMarker marker)) (ask : Probe → ProbeAnswer) (o : Observation)
    (limit : Nat) (lines : List String) :
    evaluate ask (o.withOutput ((Capture.new limit (watchedMarkers s r)).pushAll lines))
        (.outputMarker marker) =
      match lines.find? (contains · marker) with
      | some line => .violation s!"driver output contains '{marker}': {line}"
      | none =>
        if o.exitedNormally then .pass
        else .inconclusive "driver did not exit normally and printed no failure marker" := by
  simp only [evaluate, lineWith?_capture (mem_watchedMarkers h)]
  rfl

/-- **A marker is never missed because too few lines are kept.** Whatever else has been observed,
the verdict is a violation just if some line has the marker in it, and then it quotes the first such
line. The lines that are kept are always the last ones. -/
theorem verdict_marker {s : CheckSettings} {r : Reference} {marker : String}
    (hresolve : resolve s r = .ok (.outputMarker marker)) (ask : Probe → ProbeAnswer)
    (o : Observation) (limit : Nat) (lines : List String) :
    let capture := (Capture.new limit (watchedMarkers s r)).pushAll lines
    ∃ v, verdict s ask r (o.withOutput capture) = .ok v ∧
      ((∃ evidence, v = .violation evidence) ↔ ∃ line ∈ lines, marker.toList <:+: line.toList) ∧
      (∀ before line after, lines = before ++ line :: after →
        (∀ earlier ∈ before, ¬ marker.toList <:+: earlier.toList) →
        marker.toList <:+: line.toList →
        v = .violation s!"driver output contains '{marker}': {line}") ∧
      capture.tail = lines.drop (lines.length - max 1 limit) := by
  have hverdict : verdict s ask r
      (o.withOutput ((Capture.new limit (watchedMarkers s r)).pushAll lines)) =
      .ok (evaluate ask (o.withOutput ((Capture.new limit (watchedMarkers s r)).pushAll lines))
        (.outputMarker marker)) := by
    unfold verdict
    rw [hresolve]
    rfl
  refine ⟨_, hverdict, ?_, ?_, Capture.tail_pushAll limit _ lines⟩
  · rw [evaluate_withOutput hresolve]
    cases hfind : lines.find? (contains · marker) with
    | some line =>
        have hline : contains line marker = true := by
          simpa using List.find?_some hfind
        exact iff_of_true ⟨_, rfl⟩
          ⟨line, List.mem_of_find?_eq_some hfind, contains_iff.1 hline⟩
    | none =>
        refine iff_of_false ?_ fun ⟨line, hline, hmarker⟩ => ?_
        · rintro ⟨evidence, h⟩
          by_cases hended : o.exitedNormally = true <;> simp [hended] at h
        · exact List.find?_eq_none.1 hfind line hline (contains_iff.2 hmarker)
  · rintro before line after rfl hbefore hline
    have hfind : (before ++ line :: after).find? (contains · marker) = some line := by
      refine List.find?_eq_some_iff_append.2 ⟨contains_iff.2 hline, before, after, rfl, ?_⟩
      intro earlier hearlier
      simpa using fun h => hbefore earlier hearlier (contains_iff.1 h)
    rw [evaluate_withOutput hresolve, hfind]

/-- A marker of its own, in the second of five lines of which one is kept. -/
theorem verdict_marker_early :
    verdict {} (fun _ => .expired) ⟨"quiet", .outputMarker, " PANIC at "⟩
      (Observation.withOutput {} ((Capture.new 0 ["test has failed", "PANIC at"]).pushAll
        ["start", "[1] PANIC at 7", "[2] PANIC at 9", "test has failed", "end"])) =
      .ok (.violation "driver output contains 'PANIC at': [1] PANIC at 7") := by
  have hresolve : resolve {} ⟨"quiet", .outputMarker, " PANIC at "⟩ =
      .ok (.outputMarker "PANIC at") := by decide +kernel
  have hwatched : watchedMarkers {} ⟨"quiet", .outputMarker, " PANIC at "⟩ =
      ["test has failed", "PANIC at"] := by decide +kernel
  obtain ⟨v, hv, -, hquoted, -⟩ := verdict_marker hresolve (fun _ => .expired) {} 0
    ["start", "[1] PANIC at 7", "[2] PANIC at 9", "test has failed", "end"]
  rw [hwatched] at hv
  rw [hv, hquoted ["start"] "[1] PANIC at 7" _ rfl (by decide) (by decide)]
  rfl

end Check

end FaultDrill
