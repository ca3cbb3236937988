import FaultDrill.Proofs.Check.Marker
import FaultDrill.Proofs.Text.Utf8
import Mathlib.Data.List.Forall2

/-!
# FaultDrill.Proofs.Trial.Output

What a capture gets to see of the bytes that a driver writes. A stream has one way to be cut into
lines (`Cut`), and this is how it is cut (`cut_iff`). **Of each stream all lines are captured up to
the first one that is no text, once and in order** (`Capture.reads_output`), and the lines of the two
streams are mixed in some way that keeps the order of both (`Interleaved`).

After a line that is no text nothing is captured, whatever the lines say: one byte before a marker of
failure lets an invariant pass that the next line reports as broken
(`Capture.marker_after_byte`).
-/

namespace FaultDrill

open FaultDrill.Text

/-! ### Streams as lines -/

/-- How the bytes of a stream are cut into lines. A line feed ends a line, also if a carriage return
comes before it, and what follows the last line feed is a line if it is not empty. -/
inductive Cut : Bytes → List Bytes → Prop
  | nil : Cut [] []
  | last {line : Bytes} (hne : line ≠ []) (hfree : 10 ∉ line) : Cut line [line]
  | ended {line rest : Bytes} {lines : List Bytes} (hfree : 10 ∉ line)
      (hreturn : line.getLast? ≠ some 13) (h : Cut rest lines) :
      Cut (line ++ 10 :: rest) (line :: lines)
  | returned {line rest : Bytes} {lines : List Bytes} (hfree : 10 ∉ line) (h : Cut rest lines) :
      Cut (line ++ 13 :: 10 :: rest) (line :: lines)

/-- A line without the carriage return that stood before its line feed. -/
def withoutReturn (line : Bytes) : Bytes :=
  match line.reverse with
  | 13 :: rest => rest.reverse
  | _ => line

theorem withoutReturn_concat (line : Bytes) : withoutReturn (line ++ [13]) = line := by
  simp [withoutReturn]

theorem withoutReturn_of_ne {line : Bytes} (h : line.getLast? ≠ some 13) :
    withoutReturn line = line := by
  unfold withoutReturn
  split
  · next rest hreverse =>
    rw [← List.head?_reverse, hreverse] at h
    exact absurd rfl h
  · rfl

/-- A line that is ended by a line feed is cut off first. -/
theorem streamLines_cons {line : Bytes} (h : 10 ∉ line) (rest : Bytes) :
    streamLines (line ++ 10 :: rest) = withoutReturn line :: streamLines rest := by
  have hsplit : (line ++ 10 :: rest).splitOn 10 = line :: rest.splitOn 10 :=
    List.splitOn_append_cons_self_of_not_mem h rest
  unfold streamLines
  rw [hsplit]
  cases hs : rest.splitOn 10 with
  | nil => exact absurd hs (List.splitOn_ne_nil _ _)
  | cons first more =>
      simp only [List.dropLast_cons_cons, List.map_cons, List.getLast?_cons_cons]
      split <;> rfl

theorem streamLines_of_free {line : Bytes} (hne : line ≠ []) (h : 10 ∉ line) :
    streamLines line = [line] := by
  unfold streamLines
  rw [List.splitOn_eq_singleton h]
  cases line with
  | nil => exact absurd rfl hne
  | cons b rest => rfl

theorem streamLines_of_cut {bytes : Bytes} {lines : List Bytes} (h : Cut bytes lines) :
    streamLines bytes = lines := by
  induction h with
  | nil => rfl
  | last hne hfree => exact streamLines_of_free hne hfree
  | ended hfree hreturn _ ih =>
      rw [streamLines_cons hfree, withoutReturn_of_ne hreturn, ih]
  | @returned line rest lines hfree _ ih =>
      -- the line that is cut off ends with the carriage return, and loses it
      have hfree' : 10 ∉ line ++ [13] := by simpa using hfree
      have hcons := streamLines_cons hfree' rest
      rwa [withoutReturn_concat, ih, List.append_assoc] at hcons

/-- Every stream is cut in some way. -/
theorem exists_cut (bytes : Bytes) : ∃ lines, Cut bytes lines := by
  induction hlength : bytes.length using Nat.strong_induction_on generalizing bytes with
  | _ n ih =>
    by_cases hfeed : 10 ∈ bytes
    · obtain ⟨line, rest, rfl, hfree⟩ := List.eq_append_cons_of_mem hfeed
      rw [List.length_append, List.length_cons] at hlength
      -- the rest is shorter, and the line may lose a carriage return
      obtain ⟨lines, hlines⟩ := ih rest.length (by omega) rest rfl
      by_cases hreturn : line.getLast? = some 13
      · obtain ⟨content, rfl⟩ := List.getLast?_eq_some_iff.1 hreturn
        have hfree' : 10 ∉ content := fun hmem => hfree (List.mem_append_left _ hmem)
        refine ⟨content :: lines, ?_⟩
        rw [List.append_assoc]
        exact .returned hfree' hlines
      · exact ⟨line :: lines, .ended hfree hreturn hlines⟩
    · by_cases hempty : bytes = []
      · exact ⟨[], hempty ▸ .nil⟩
      · exact ⟨[bytes], .last hempty hfeed⟩

/-- A stream is cut in one way. -/
theorem cut_iff {bytes : Bytes} {lines : List Bytes} :
    Cut bytes lines ↔ streamLines bytes = lines := by
  refine ⟨streamLines_of_cut, ?_⟩
  rintro rfl
  obtain ⟨lines, hlines⟩ := exists_cut bytes
  rwa [streamLines_of_cut hlines]

/-! ### What a reader gets -/

/-- What a reader gets of a stream: its lines in order, up to the first one that is no text. -/
def ReadFrom (bytes : Bytes) (texts : List String) : Prop :=
  ∃ read rest : List Bytes, Cut bytes (read ++ rest) ∧
    List.Forall₂ (fun line text => Utf8.decode? line = some text) read texts ∧
    ∀ line ∈ rest.head?, Utf8.decode? line = none

/-- The texts at the head of a list of lines, up to the first one that is no text. -/
theorem exists_texts (lines : List Bytes) : ∃ read rest, lines = read ++ rest ∧
    List.Forall₂ (fun line text => Utf8.decode? line = some text) read
      (((lines.map Utf8.decode?).takeWhile (·.isSome)).filterMap id) ∧
    ∀ line ∈ rest.head?, Utf8.decode? line = none := by
  induction lines with
  | nil => exact ⟨[], [], rfl, .nil, nofun⟩
  | cons line lines ih =>
      cases htext : Utf8.decode? line with
      | none =>
          refine ⟨[], line :: lines, rfl, ?_, ?_⟩
          · simp [htext]
          · simpa using htext
      | some text =>
          obtain ⟨read, rest, rfl, htexts, hrest⟩ := ih
          refine ⟨line :: read, rest, rfl, ?_, hrest⟩
          simpa [htext] using htexts

theorem readFrom_readableLines (bytes : Bytes) : ReadFrom bytes (readableLines bytes) := by
  obtain ⟨read, rest, hlines, htexts, hrest⟩ := exists_texts (streamLines bytes)
  exact ⟨read, rest, cut_iff.2 hlines, htexts, hrest⟩

/-- A reader gets all lines of a stream in which every line is a text. -/
theorem ReadFrom.all {bytes : Bytes} {texts : List String} (h : ReadFrom bytes texts)
    (hall : ∀ line ∈ streamLines bytes, ∃ text, Utf8.decode? line = some text) :
    List.Forall₂ (fun line text => Utf8.decode? line = some text) (streamLines bytes) texts := by
  obtain ⟨read, rest, hcut, htexts, hrest⟩ := h
  rw [cut_iff.1 hcut] at hall ⊢
  cases rest with
  | nil => rwa [List.append_nil]
  | cons line rest =>
      -- the reader has stopped at a line, which is a text as all others
      obtain ⟨text, htext⟩ := hall line (by simp)
      rw [hrest line rfl] at htext
      cases htext

/-! ### Two streams -/

/-- A list in which two others are mixed, with the order of both kept. -/
inductive Interleaved {α : Type} : List α → List α → List α → Prop
  | nil : Interleaved [] [] []
  | left {out err mixed : List α} (a : α) (h : Interleaved out err mixed) :
      Interleaved (a :: out) err (a :: mixed)
  | right {out err mixed : List α} (a : α) (h : Interleaved out err mixed) :
      Interleaved out (a :: err) (a :: mixed)

namespace Interleaved

variable {α : Type} {out err mixed : List α}

theorem append_left (more : List α) (h : Interleaved out err mixed) :
    Interleaved (more ++ out) err (more ++ mixed) := by
  induction more with
  | nil => exact h
  | cons a more ih => exact ih.left a

theorem append_right (more : List α) (h : Interleaved out err mixed) :
    Interleaved out (more ++ err) (more ++ mixed) := by
  induction more with
  | nil => exact h
  | cons a more ih => exact ih.right a

theorem length_eq (h : Interleaved out err mixed) : mixed.length = out.length + err.length := by
  induction h with
  | nil => rfl
  | left a _ ih => simp only [List.length_cons, ih]; omega
  | right a _ ih => simp only [List.length_cons, ih]; omega

end Interleaved

theorem interleaved_mergeLines (out err : List String) (chunks : List (Stream × Bytes)) :
    Interleaved out err (mergeLines out err chunks) := by
  induction chunks generalizing out err with
  | nil => simpa [mergeLines] using (Interleaved.nil.append_right err).append_left out
  | cons chunk rest ih =>
      obtain ⟨stream, bytes⟩ := chunk
      cases stream with
      | stdout =>
          have h := (ih (out.drop (bytes.count 10)) err).append_left (out.take (bytes.count 10))
          rwa [List.take_append_drop] at h
      | stderr =>
          have h := (ih out (err.drop (bytes.count 10))).append_right (err.take (bytes.count 10))
          rwa [List.take_append_drop] at h

namespace Capture

/-- **Of each stream all lines are captured up to the first one that is no text, once and in
order**, and so all of them if every line is a text. -/
theorem reads_output (c : Capture) (chunks : List (Stream × Bytes)) :
    ∃ texts : Stream → List String,
      (∀ s, ReadFrom (streamBytes s chunks) (texts s)) ∧
      (∀ s, (∀ line ∈ streamLines (streamBytes s chunks), ∃ text, Utf8.decode? line = some text) →
        List.Forall₂ (fun line text => Utf8.decode? line = some text)
          (streamLines (streamBytes s chunks)) (texts s)) ∧
      Interleaved (texts .stdout) (texts .stderr) (outputLines chunks) ∧
      (c.pushAll (outputLines chunks)).total =
        c.total + (texts .stdout).length + (texts .stderr).length := by
  have hmixed := interleaved_mergeLines (readableLines (streamBytes .stdout chunks))
    (readableLines (streamBytes .stderr chunks)) chunks
  refine ⟨fun s => readableLines (streamBytes s chunks), fun s => readFrom_readableLines _,
    fun s hall => (readFrom_readableLines _).all hall, hmixed, ?_⟩
  rw [total_pushAll, Nat.add_assoc]
  exact congrArg (c.total + ·) hmixed.length_eq

/-- A byte that is no text, and a marker in the line after it. -/
def byteThenMarker : List (Stream × Bytes) :=
  [(.stdout, 0xFF :: 0x0A :: Utf8.encode "test has failed\n")]

/-- The driver has written a line with the marker, and the invariant passes. -/
theorem marker_after_byte :
    (∃ line ∈ streamLines (streamBytes .stdout byteThenMarker),
      Utf8.decode? line = some "test has failed") ∧
    Check.verdict {} (fun _ => .expired) (.named "survives")
      (Observation.withOutput { exitCode := some 0 }
        ((new 200 (Check.watchedMarkers {} (.named "survives"))).pushAll
          (outputLines byteThenMarker))) = .ok .pass := by
  refine ⟨⟨Utf8.encode "test has failed", ?_, Utf8.decode?_encode _⟩, ?_⟩
  · decide +kernel
  · decide +kernel

end Capture

end FaultDrill
