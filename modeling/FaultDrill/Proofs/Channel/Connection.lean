import FaultDrill.Channel.Connection
import FaultDrill.Proofs.Text.Pieces
import FaultDrill.Proofs.Text.Utf8
import Mathlib.Data.List.Infix

/-!
# FaultDrill.Proofs.Channel.Connection

**What becomes of the lines of a text** (`converse_text`). As long as no line is too long, each line
that is not blank is answered in its turn. With the first one that is too long the conversation
ends: it is refused as too long if one of its characters ends just behind the limit, and otherwise
the bytes that were taken are no text, and nothing is said at all.

Lines are cut in the bytes before anything is decoded, so the proof first brings the two views
together: a line feed is one byte that belongs to no other character, so that what is taken is the
first line of the text or the beginning of its bytes (`takeLine_first`).
-/

namespace FaultDrill.Connection

open FaultDrill.Text

/-! ### Lines and their bytes -/

/-- A character before the first line. -/
def consFirst (c : Char) : List (List Char) → List (List Char)
  | [] => [[c]]
  | line :: lines => (c :: line) :: lines

/-- The lines of a text, each with its line feed; the last one may have none. -/
def linesOf : List Char → List (List Char)
  | [] => []
  | c :: rest => if c = '\n' then [c] :: linesOf rest else consFirst c (linesOf rest)

/-- `line` can be the first line where `rest` follows. -/
inductive FirstLine : List Char → List Char → Prop
  | ended {body : List Char} (hbody : '\n' ∉ body) (rest : List Char) :
      FirstLine (body ++ ['\n']) rest
  | last {line : List Char} (hne : line ≠ []) (hline : '\n' ∉ line) : FirstLine line []

theorem FirstLine.ne_nil {line rest : List Char} (h : FirstLine line rest) : line ≠ [] := by
  cases h with
  | ended => simp
  | last hne => exact hne

theorem exists_firstLine {s : List Char} (hs : s ≠ []) :
    ∃ line rest, s = line ++ rest ∧ FirstLine line rest := by
  cases hcut : cut? '\n' s with
  | none => exact ⟨s, [], (List.append_nil s).symm, .last hs (cut?_eq_none_iff.1 hcut)⟩
  | some parts =>
      obtain ⟨body, rest⟩ := parts
      obtain ⟨rfl, hbody⟩ := cut?_eq_some hcut
      exact ⟨body ++ ['\n'], rest, by simp, .ended hbody rest⟩

theorem linesOf_append {line rest : List Char} (h : FirstLine line rest) :
    linesOf (line ++ rest) = line :: linesOf rest := by
  cases h with
  | @ended body hbody rest =>
      rw [List.append_assoc, List.singleton_append]
      induction body with
      | nil => rfl
      | cons c body ih =>
          rw [List.cons_append, linesOf, if_neg (List.ne_of_not_mem_cons hbody).symm,
            ih (List.not_mem_of_not_mem_cons hbody)]
          rfl
  | last hne hline =>
      rw [List.append_nil]
      show linesOf line = [line]
      induction line with
      | nil => exact absurd rfl hne
      | cons c line ih =>
          rw [linesOf, if_neg (List.ne_of_not_mem_cons hline).symm]
          cases line with
          | nil => rfl
          | cons d more =>
              rw [ih (by simp) (List.not_mem_of_not_mem_cons hline)]
              rfl

/-- A text as it is sent. -/
def bytes (s : List Char) : Bytes :=
  Utf8.encode (String.ofList s)

@[simp] theorem bytes_nil : bytes [] = [] :=
  Utf8.encode_empty

theorem bytes_append (s t : List Char) : bytes (s ++ t) = bytes s ++ bytes t := by
  unfold bytes
  rw [String.ofList_append, Utf8.encode_append]

theorem bytes_newline : bytes ['\n'] = [10] := by
  decide +kernel

theorem bytes_ne_nil {s : List Char} (h : s ≠ []) : bytes s ≠ [] := by
  intro hnil
  have hprefix : bytes s <+: bytes [] := by rw [hnil]; exact List.nil_prefix
  exact h (List.prefix_nil.1 (Utf8.prefix_of_encode hprefix))

theorem decode?_bytes (s : List Char) : Utf8.decode? (bytes s) = some (String.ofList s) :=
  Utf8.decode?_encode _

/-! ### Taking a line -/

@[simp] theorem takeLine_nil (n : Nat) : takeLine n [] = ([], []) := by
  cases n <;> rfl

theorem takeLine_append_of_not_mem {a : Bytes} (ha : 10 ∉ a) (n : Nat) (rest : Bytes) :
    takeLine n (a ++ rest) =
      if n ≤ a.length then (a.take n, a.drop n ++ rest)
      else (a ++ (takeLine (n - a.length) rest).1, (takeLine (n - a.length) rest).2) := by
  induction a generalizing n with
  | nil => cases n <;> rfl
  | cons b a ih =>
      cases n with
      | zero => rfl
      | succ n =>
          rw [List.cons_append, takeLine, if_neg (List.ne_of_not_mem_cons ha).symm,
            ih (List.not_mem_of_not_mem_cons ha)]
          by_cases hn : n ≤ a.length
          · simp [hn]
          · simp [hn]

theorem takeLine_first {line rest : List Char} (h : FirstLine line rest) (limit : Nat) :
    takeLine (limit + 1) (bytes line ++ bytes rest) =
      if (bytes line).length ≤ limit then (bytes line, bytes rest)
      else ((bytes line).take (limit + 1), (bytes line).drop (limit + 1) ++ bytes rest) := by
  cases h with
  | @ended body hbody rest =>
      have hfree : 10 ∉ bytes body := Utf8.newline_not_mem_encode hbody
      rw [bytes_append, bytes_newline, List.append_assoc, takeLine_append_of_not_mem hfree,
        List.length_append, List.length_singleton]
      by_cases hlong : limit + 1 ≤ (bytes body).length
      · rw [if_pos hlong, if_neg (by omega), List.take_append_of_le_length hlong,
          List.drop_append_of_le_length hlong, List.append_assoc]
      · obtain ⟨n, hn⟩ : ∃ n, limit + 1 - (bytes body).length = n + 1 :=
          ⟨limit - (bytes body).length, by omega⟩
        rw [if_neg hlong, hn, List.singleton_append, takeLine, if_pos rfl]
        by_cases hfits : (bytes body).length + 1 ≤ limit
        · rw [if_pos hfits]
        · -- the line feed is just the byte that is too many
          have hlength : (bytes body ++ [10]).length ≤ limit + 1 := by
            rw [List.length_append, List.length_singleton]
            omega
          rw [if_neg hfits, List.take_of_length_le hlength, List.drop_eq_nil_of_le hlength,
            List.nil_append]
  | last hne hline =>
      have hfree : 10 ∉ bytes line := Utf8.newline_not_mem_encode hline
      rw [takeLine_append_of_not_mem hfree]
      by_cases hfits : (bytes line).length ≤ limit
      · rw [if_neg (by omega), if_pos hfits]
        simp
      · rw [if_pos (by omega), if_neg hfits]

/-! ### The conversation -/

/-- What is in a conversation is what its lines say. -/
theorem mem_converse {limit : Nat} {input : Bytes} {e : Exchange}
    (h : e ∈ (converse limit input).1) :
    IsTrimmed e.line.toList ∧ e.reading = Command.parse e.line.toList := by
  fun_induction converse limit input with
  | case1 => cases h
  | case2 => cases h
  | case3 => cases h
  | case4 b rest taken text htext hlimit line others ending hothers hempty ih =>
      rw [hothers] at ih
      exact ih h
  | case5 b rest taken text htext hlimit line others ending hothers hempty ih =>
      rw [hothers] at ih
      rcases List.mem_cons.1 h with rfl | h
      · dsimp only
        rw [String.toList_ofList]
        exact ⟨isTrimmed_trim text.toList, rfl⟩
      · exact ih h

/-- Whether a line is not too long. -/
def fits (limit : Nat) (line : List Char) : Bool :=
  (bytes line).length ≤ limit

/-- Whether a character of a text ends after so many bytes. -/
def isBoundary (n : Nat) (s : List Char) : Bool :=
  s.inits.any fun front => (bytes front).length == n

/-- What is said to a line, unless it is blank. -/
def exchange? (line : List Char) : Option Exchange :=
  if (trim line).isEmpty then none
  else some ⟨String.ofList (trim line), Command.parse (trim line)⟩

/-- How a conversation ends with the first line that is too long. -/
def endingOf (limit : Nat) : Option (List Char) → Ending
  | none => .finished
  | some line => if isBoundary (limit + 1) line then .lineTooLong else .noText

theorem converse_of_fits {limit : Nat} {line rest : List Char} (h : FirstLine line rest)
    (hfits : (bytes line).length ≤ limit) :
    converse limit (bytes line ++ bytes rest) =
      ((exchange? line).toList ++ (converse limit (bytes rest)).1,
        (converse limit (bytes rest)).2) := by
  obtain ⟨b, more, hmore⟩ := List.exists_cons_of_ne_nil (bytes_ne_nil h.ne_nil)
  rw [hmore, List.cons_append, converse, ← List.cons_append, ← hmore, takeLine_first h,
    if_pos hfits]
  simp only [decode?_bytes, if_neg (Nat.not_lt.2 hfits), String.toList_ofList]
  unfold exchange?
  split <;> rfl

theorem isSome_decode?_take_bytes {n : Nat} {line : List Char} (hn : n ≤ (bytes line).length) :
    (Utf8.decode? ((bytes line).take n)).isSome = isBoundary n line := by
  unfold isBoundary
  rw [Bool.eq_iff_iff, bytes, Utf8.isSome_decode?_take hn, List.any_eq_true]
  simp only [List.mem_inits, beq_iff_eq]
  rfl

theorem converse_of_long {limit : Nat} {line rest : List Char} (h : FirstLine line rest)
    (hlong : limit < (bytes line).length) :
    converse limit (bytes line ++ bytes rest) = ([], endingOf limit (some line)) := by
  obtain ⟨b, more, hmore⟩ := List.exists_cons_of_ne_nil (bytes_ne_nil h.ne_nil)
  have htaken : ((bytes line).take (limit + 1)).length = limit + 1 := by
    rw [List.length_take, Nat.min_eq_left hlong]
  have hboundary := isSome_decode?_take_bytes hlong
  rw [hmore, List.cons_append, converse, ← List.cons_append, ← hmore, takeLine_first h,
    if_neg (Nat.not_le.2 hlong)]
  unfold endingOf
  cases hread : Utf8.decode? ((bytes line).take (limit + 1)) with
  | none =>
      rw [hread] at hboundary
      simp [← hboundary]
  | some text =>
      rw [hread] at hboundary
      simp [← hboundary, htaken]

theorem converse_bytes (limit : Nat) (s : List Char) :
    converse limit (bytes s) =
      (((linesOf s).takeWhile (fits limit)).filterMap exchange?,
        endingOf limit ((linesOf s).find? (!fits limit ·))) := by
  induction hn : s.length using Nat.strongRecOn generalizing s with
  | ind n ih =>
      by_cases hs : s = []
      · subst hs
        rw [bytes_nil, converse]
        rfl
      obtain ⟨line, rest, rfl, hfirst⟩ := exists_firstLine hs
      have hlength : rest.length < n := by
        have hpos := List.length_pos_iff.2 hfirst.ne_nil
        rw [List.length_append] at hn
        omega
      rw [bytes_append, linesOf_append hfirst]
      by_cases hfits : fits limit line = true
      · rw [converse_of_fits hfirst (of_decide_eq_true hfits), ih rest.length hlength rest rfl,
          List.takeWhile_cons_of_pos hfits, List.find?_cons_of_neg (by simp [hfits]),
          List.filterMap_cons]
        cases exchange? line <;> rfl
      · have hlong : limit < (bytes line).length := by simpa [fits] using hfits
        rw [converse_of_long hfirst hlong, List.takeWhile_cons_of_neg hfits,
          List.find?_cons_of_pos (by simpa using hfits)]
        rfl

theorem reply?_endingOf (limit : Nat) (tooLong : Option (List Char)) :
    (endingOf limit tooLong).reply?.toList =
      if tooLong.any (isBoundary (limit + 1)) then ["error line too long"] else [] := by
  cases tooLong with
  | none => rfl
  | some line =>
      unfold endingOf
      cases h : isBoundary (limit + 1) line <;> simp [h, Ending.reply?]

/-- **What becomes of the lines of a text.** The lines before the first one that is too long are
answered in order, unless they are blank, and nothing else is; that one is refused exactly if a
character ends just behind the limit. -/
theorem converse_text (limit : Nat) (text : String) :
    let lines := linesOf text.toList
    let answered := (lines.takeWhile (fits limit)).filterMap exchange?
    let tooLong := lines.find? (!fits limit ·)
    converse limit (Utf8.encode text) = (answered, endingOf limit tooLong) ∧
    replies limit (Utf8.encode text) = answered.map Exchange.reply ++
      if tooLong.any (isBoundary (limit + 1)) then ["error line too long"] else [] := by
  have hconverse := converse_bytes limit text.toList
  rw [bytes, String.ofList_toList] at hconverse
  refine ⟨hconverse, ?_⟩
  unfold replies
  rw [hconverse, ← reply?_endingOf]

/-- A line that is too long is not refused if the limit falls inside a character. -/
theorem tooLong_unanswered :
    let text := "checkpoint " ++ String.ofList (List.replicate 53 'x') ++ "é\n"
    (linesOf text.toList).find? (!fits 64 ·) = some text.toList ∧
      replies 64 (Utf8.encode text) = [] := by
  decide +kernel

end FaultDrill.Connection
