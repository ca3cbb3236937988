import FaultDrill.Plan.Corruption
import Mathlib.Data.List.Basic

/-!
# FaultDrill.Proofs.Plan.Window

What a corruption does to the bytes of a file, place by place. A window that starts inside the file
is changed from its start to its end and nowhere else (`window_eq_mapIdx`), so changing it twice is
one change by both functions (`window_again`). A window is computed with words of sixty-four bits:
its end may lie beyond the greatest word, and a slice of the bytes has to lie within them. With a
sum that stops at the greatest word no step is out of range (`applyWords?_eq`).
-/

namespace FaultDrill.Corruption

variable {mark : UInt8 → UInt8} {offset count : UInt64} {bytes out : Bytes}

/-! ### Place by place -/

/-- Where a window ends: as many places after its start as it is long, and with the file at the
latest. -/
def windowEnd (offset count : UInt64) (size : Nat) : Nat :=
  min (offset.toNat + count.toNat) size

theorem window_eq_error (h : bytes.length ≤ offset.toNat) :
    window mark offset count bytes = .error ⟨offset, bytes.length⟩ :=
  if_neg (Nat.not_lt.mpr h)

theorem window_eq_mapIdx (h : offset.toNat < bytes.length) :
    window mark offset count bytes = .ok (bytes.mapIdx fun i b =>
      if offset.toNat ≤ i ∧ i < windowEnd offset count bytes.length then mark b else b) := by
  have hstart : min offset.toNat bytes.length = offset.toNat := Nat.min_eq_left (Nat.le_of_lt h)
  unfold window windowEnd
  rw [if_pos h]
  refine congrArg Except.ok (List.ext_getElem? fun i => ?_)
  simp only [List.getElem?_append, List.getElem?_mapIdx, List.getElem?_map, List.getElem?_take,
    List.getElem?_drop, List.length_take, List.length_map, List.length_drop, hstart]
  -- a place lies before the window, inside, or behind
  rcases Nat.lt_or_ge i offset.toNat with hbefore | hstarted
  · grind
  · rcases Nat.lt_or_ge i (min (offset.toNat + count.toNat) bytes.length) with hinside | hbehind
    · have hplace : offset.toNat + (i - offset.toNat) = i := Nat.add_sub_cancel' hstarted
      rw [if_neg (by omega), if_pos (by omega), if_pos (by omega), hplace]
      simp only [hstarted, hinside, and_self, if_true]
    · rw [if_neg (by omega), if_neg (by omega)]
      simp only [Nat.not_lt.mpr hbehind, and_false, if_false]
      grind

/-- A window that can be changed starts inside the file. -/
theorem lt_of_window (h : window mark offset count bytes = .ok out) :
    offset.toNat < bytes.length := by
  rw [← Nat.not_le]
  intro hle
  rw [window_eq_error hle] at h
  cases h

theorem eq_mapIdx_of_window (h : window mark offset count bytes = .ok out) :
    out = bytes.mapIdx fun i b =>
      if offset.toNat ≤ i ∧ i < windowEnd offset count bytes.length then mark b else b := by
  rw [window_eq_mapIdx (lt_of_window h)] at h
  exact (Except.ok.inj h).symm

/-- A window that is changed once more is changed by both functions at once. -/
theorem window_again (h : window mark offset count bytes = .ok out) (again : UInt8 → UInt8) :
    window again offset count out = window (again ∘ mark) offset count bytes := by
  have hlt := lt_of_window h
  obtain rfl := eq_mapIdx_of_window h
  rw [window_eq_mapIdx hlt, window_eq_mapIdx (by rwa [List.length_mapIdx]), List.length_mapIdx,
    List.mapIdx_mapIdx]
  refine congrArg (fun f => Except.ok (bytes.mapIdx f)) (funext₂ fun i b => ?_)
  dsimp only [Function.comp_apply]
  split
  · rfl
  · rfl

/-- A window is left alone by a function that leaves each byte alone. -/
theorem window_id (h : offset.toNat < bytes.length) : window id offset count bytes = .ok bytes := by
  unfold window
  rw [if_pos h]
  dsimp only
  rw [List.map_id, List.take_append_drop, List.take_append_drop]

/-- What comes of changing the bytes of a window: nothing just if it starts beyond the end of the
file; otherwise as many bytes as there were, changed inside the window and the same outside. -/
structure Marks (mark : UInt8 → UInt8) (offset count : UInt64) (bytes : Bytes)
    (result : Except BeyondEnd Bytes) : Prop where
  refused : (∃ e, result = .error e) ↔ bytes.length ≤ offset.toNat
  length : ∀ out, result = .ok out → out.length = bytes.length
  inside : ∀ out, result = .ok out → ∀ i, offset.toNat ≤ i →
    i < windowEnd offset count bytes.length → out[i]? = bytes[i]?.map mark
  outside : ∀ out, result = .ok out → ∀ i,
    i < offset.toNat ∨ windowEnd offset count bytes.length ≤ i → out[i]? = bytes[i]?

theorem window_marks (mark : UInt8 → UInt8) (offset count : UInt64) (bytes : Bytes) :
    Marks mark offset count bytes (window mark offset count bytes) where
  refused := by
    constructor
    · rintro ⟨e, he⟩
      rw [← Nat.not_lt]
      intro hlt
      rw [window_eq_mapIdx hlt] at he
      cases he
    · exact fun hle => ⟨_, window_eq_error hle⟩
  length out h := by rw [eq_mapIdx_of_window h, List.length_mapIdx]
  inside out h i hstarted hinside := by
    rw [eq_mapIdx_of_window h, List.getElem?_mapIdx]
    simp only [hstarted, hinside, and_self, if_true]
  outside out h i houtside := by
    have hnot : ¬(offset.toNat ≤ i ∧ i < windowEnd offset count bytes.length) := by omega
    rw [eq_mapIdx_of_window h, List.getElem?_mapIdx]
    simp only [hnot, if_false, Option.map_id']

/-! ### With words of sixty-four bits -/

/-- The sum of two words, or the greatest word if the sum is greater. -/
def saturated (a b : UInt64) : UInt64 :=
  if a.toNat + b.toNat < UInt64.size then a + b else -1

theorem toNat_saturated (a b : UInt64) :
    (saturated a b).toNat = min (a.toNat + b.toNat) (UInt64.size - 1) := by
  unfold saturated
  split
  next hlt =>
    rw [UInt64.toNat_add, Nat.mod_eq_of_lt hlt, Nat.min_eq_left (by omega)]
  next hge =>
    rw [Nat.min_eq_right (by omega)]
    rfl

theorem toNat_min (a b : UInt64) : (min a b).toNat = min a.toNat b.toNat := by
  show (if a ≤ b then a else b).toNat = _
  split
  next hle => exact (Nat.min_eq_left (UInt64.le_iff_toNat_le.mp hle)).symm
  next hnot =>
    rw [UInt64.le_iff_toNat_le] at hnot
    exact (Nat.min_eq_right (Nat.le_of_not_le hnot)).symm

/-- Where a window ends, as a word. -/
def windowStop (offset count size : UInt64) : UInt64 :=
  min (saturated offset count) size

theorem toNat_windowStop (offset count size : UInt64) :
    (windowStop offset count size).toNat = windowEnd offset count size.toNat := by
  have hsize := size.toNat_lt
  rw [windowStop, toNat_min, toNat_saturated, windowEnd]
  simp only [UInt64.size]
  omega

/-- The bytes with those of a slice changed. There is no answer if the slice does not lie within
them. -/
def changeSlice? (mark : UInt8 → UInt8) (start stop : UInt64) (bytes : Bytes) : Option Bytes :=
  if start ≤ stop ∧ stop.toNat ≤ bytes.length then
    some (bytes.take start.toNat ++
      (((bytes.drop start.toNat).take (stop.toNat - start.toNat)).map mark ++
        bytes.drop stop.toNat))
  else none

/-- The change of a window, computed with words. -/
def windowWords? (mark : UInt8 → UInt8) (offset count : UInt64) (bytes : Bytes) :
    Option (Except BeyondEnd Bytes) :=
  let size := UInt64.ofNat bytes.length
  if size ≤ offset then some (.error ⟨offset, bytes.length⟩)
  else (changeSlice? mark offset (windowStop offset count size) bytes).map .ok

/-- The bytes of a file after the damage, computed with words. -/
def applyWords? : Corruption → Bytes → Option (Except BeyondEnd Bytes)
  | .truncate _ length, bytes => some (.ok (bytes.take length.toNat))
  | .flip _ offset count, bytes => windowWords? (~~~ ·) offset count bytes
  | .zero _ offset length, bytes => windowWords? (fun _ => 0) offset length bytes

theorem windowWords?_eq (hsize : bytes.length < UInt64.size) :
    windowWords? mark offset count bytes = some (window mark offset count bytes) := by
  have hword : (UInt64.ofNat bytes.length).toNat = bytes.length := UInt64.toNat_ofNat_of_lt' hsize
  unfold windowWords?
  dsimp only
  split
  next hle =>
    rw [UInt64.le_iff_toNat_le, hword] at hle
    rw [window_eq_error hle]
  next hlt =>
    rw [UInt64.le_iff_toNat_le, hword, Nat.not_le] at hlt
    have hstop : (windowStop offset count (UInt64.ofNat bytes.length)).toNat =
        windowEnd offset count bytes.length := by rw [toNat_windowStop, hword]
    have hslice : offset ≤ windowStop offset count (UInt64.ofNat bytes.length) ∧
        windowEnd offset count bytes.length ≤ bytes.length := by
      rw [UInt64.le_iff_toNat_le, hstop, windowEnd]
      omega
    have hinside : (bytes.drop offset.toNat).take
          (windowEnd offset count bytes.length - offset.toNat) =
        (bytes.drop offset.toNat).take count.toNat := by
      rw [List.take_eq_take_iff, List.length_drop, windowEnd]
      omega
    have hbehind : bytes.drop (windowEnd offset count bytes.length) =
        (bytes.drop offset.toNat).drop count.toNat := by
      rw [List.drop_drop, List.drop_eq_drop_iff, windowEnd]
      omega
    unfold window changeSlice?
    rw [if_pos hlt, hstop, if_pos hslice, hinside, hbehind]
    rfl

/-- No step is out of range on the bytes of a file, whose number is a word. -/
theorem applyWords?_eq (c : Corruption) (hsize : bytes.length < UInt64.size) :
    c.applyWords? bytes = some (c.apply bytes) := by
  cases c with
  | truncate path length => rfl
  | flip path offset count => exact windowWords?_eq hsize
  | zero path offset length => exact windowWords?_eq hsize

/-! ### The effect of a corruption -/

/-- **A corruption is exact and stays within the file.** Cutting a file off keeps as much of its
beginning as there is. A flip and a zeroing mark their window and nothing else, and are refused just
if it starts beyond the end. So a flip that is done twice restores the file, and a file that was cut
off or zeroed is left as it is when this is done again. For the bytes of a file, whose number is a
word, none of this leaves the range of words or the bytes. -/
theorem apply_exact (path : String) (offset count : UInt64) (bytes : Bytes) :
    (∃ kept, (truncate path count).apply bytes = .ok kept ∧ kept <+: bytes ∧
      kept.length = min count.toNat bytes.length) ∧
    Marks (~~~ ·) offset count bytes ((flip path offset count).apply bytes) ∧
    Marks (fun _ => 0) offset count bytes ((zero path offset count).apply bytes) ∧
    (∀ out, (flip path offset count).apply bytes = .ok out →
      (flip path offset count).apply out = .ok bytes) ∧
    (∀ out, (zero path offset count).apply bytes = .ok out →
      (zero path offset count).apply out = .ok out) ∧
    (∀ out, (truncate path count).apply bytes = .ok out →
      (truncate path count).apply out = .ok out) ∧
    (bytes.length < UInt64.size → ∀ c : Corruption, c.applyWords? bytes = some (c.apply bytes)) := by
  refine ⟨⟨_, rfl, List.take_prefix _ _, List.length_take⟩, window_marks _ _ _ _,
    window_marks _ _ _ _, ?_, ?_, ?_, fun hsize c => applyWords?_eq c hsize⟩
  · intro out h
    have hcancel : (fun b : UInt8 => ~~~b) ∘ (fun b => ~~~b) = id :=
      funext fun b => UInt8.not_not
    calc (flip path offset count).apply out
        = window ((~~~ ·) ∘ (~~~ ·)) offset count bytes := window_again h _
      _ = window id offset count bytes := by rw [hcancel]
      _ = .ok bytes := window_id (lt_of_window h)
  · intro out h
    calc (zero path offset count).apply out
        = window ((fun _ => 0) ∘ fun _ => 0) offset count bytes := window_again h _
      _ = .ok out := h
  · intro out h
    obtain rfl := Except.ok.inj h
    show Except.ok _ = _
    rw [List.take_take, Nat.min_self]

/-- The last of three bytes is flipped by a window that goes on to the greatest offset. -/
theorem apply_exact_lastByte : ([1, 2, 3] : Bytes).length < UInt64.size ∧
    (flip "wal" 2 18446744073709551615).applyWords? [1, 2, 3] = some (.ok [1, 2, 252]) ∧
    (flip "wal" 2 18446744073709551615).apply [1, 2, 252] = .ok [1, 2, 3] := by
  obtain ⟨-, -, -, hflip, -, -, hwords⟩ := apply_exact "wal" 2 18446744073709551615 [1, 2, 3]
  have hsize : ([1, 2, 3] : Bytes).length < UInt64.size := by decide
  have happly : (flip "wal" 2 18446744073709551615).apply [1, 2, 3] = .ok [1, 2, 252] := by decide
  exact ⟨hsize, (hwords hsize _).trans (congrArg some happly), hflip _ happly⟩

end FaultDrill.Corruption
