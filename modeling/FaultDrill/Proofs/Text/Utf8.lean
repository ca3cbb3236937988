import FaultDrill.Text.Utf8

/-!
# FaultDrill.Proofs.Text.Utf8

Texts as bytes. Strict decoding gives back the text whose UTF-8 form it is given (`decode?_encode`),
which has as many bytes as the text (`length_encode`), and at least one for each character
(`length_le_utf8ByteSize`), and it takes nothing else (`decode?_eq_some_iff`). In these bytes a line
feed is seen wherever it stands and nowhere else (`newline_not_mem_encode`), and the first of them
are a text if they end with a character (`isSome_decode?_take`). A text is cut at a place that is
counted in these bytes if a character ends there (`cutAt?_append`).
-/

namespace FaultDrill.Text.Utf8

theorem toList_loop (bytes : ByteArray) (i : Nat) (read : List UInt8) :
    ByteArray.toList.loop bytes i read = read.reverse ++ bytes.data.toList.drop i := by
  fun_induction ByteArray.toList.loop bytes i read with
  | case1 i read h ih =>
      have hi : i < bytes.data.toList.length := by simpa using h
      have hget : bytes.get! i = bytes.data.toList[i] := by
        have hsize : i < bytes.data.size := by simpa using hi
        show bytes.data[i]! = _
        rw [getElem!_pos bytes.data i hsize, Array.getElem_toList]
      rw [ih, List.drop_eq_getElem_cons hi, hget]
      simp
  | case2 i read h =>
      have hi : bytes.data.toList.length ≤ i := by simpa using h
      simp [List.drop_eq_nil_of_le hi]

theorem toList_eq (bytes : ByteArray) : bytes.toList = bytes.data.toList :=
  (toList_loop bytes 0 []).trans (by simp)

/-- The length of the UTF-8 form of a text. -/
theorem length_encode (s : String) : (encode s).length = s.utf8ByteSize := by
  rw [encode, toList_eq]
  rfl

@[simp] theorem encode_empty : encode "" = [] := by
  rw [encode, toList_eq]
  rfl

theorem encode_append (s s' : String) : encode (s ++ s') = encode s ++ encode s' := by
  simp [encode, toList_eq, String.toByteArray_append, ByteArray.data_append]

/-- A text is read from its UTF-8 form. -/
theorem decode?_encode (s : String) : decode? (encode s) = some s := by
  have hbytes : ByteArray.mk (encode s).toArray = s.toByteArray := by
    rw [encode, toList_eq]
    rfl
  unfold decode?
  rw [hbytes]
  unfold String.fromUTF8?
  rw [dif_pos s.isValidUTF8]
  rfl

theorem length_le_utf8ByteSize (s : String) : s.toList.length ≤ s.utf8ByteSize := by
  have hlist : ∀ chars : List Char, chars.length ≤ (String.ofList chars).utf8ByteSize := by
    intro chars
    induction chars with
    | nil => exact Nat.zero_le _
    | cons c rest ih =>
        have hcons : String.ofList (c :: rest) = String.singleton c ++ String.ofList rest := by
          rw [← String.toList_inj]
          simp
        have hpos := c.utf8Size_pos
        rw [hcons, String.utf8ByteSize_append, String.utf8ByteSize_singleton, List.length_cons]
        omega
  simpa using hlist s.toList

/-! ### Characters in the bytes -/

/-- The UTF-8 form of a text, character by character. -/
theorem encode_ofList (s : List Char) :
    encode (String.ofList s) = s.flatMap String.utf8EncodeChar := by
  rw [encode, toList_eq, String.toUTF8_eq_toByteArray, String.toByteArray_ofList, List.utf8Encode]
  simp

/-- Each byte of a longer form has its highest bit set. -/
theorem le_of_mem_utf8EncodeChar {c : Char} (hc : 127 < c.val.toNat) {b : UInt8}
    (h : b ∈ String.utf8EncodeChar c) : 128 ≤ b.toNat := by
  have hbyte : ∀ n, 128 ≤ n → n < 256 → 128 ≤ (UInt8.ofNat n).toNat := fun n hlow hhigh => by
    rwa [UInt8.toNat_ofNat_of_lt' hhigh]
  unfold String.utf8EncodeChar at h
  dsimp only at h
  rw [if_neg (by omega)] at h
  split at h
  · simp only [List.mem_cons, List.not_mem_nil, or_false] at h
    rcases h with rfl | rfl <;> exact hbyte _ (by omega) (by omega)
  · split at h
    · simp only [List.mem_cons, List.not_mem_nil, or_false] at h
      rcases h with rfl | rfl | rfl <;> exact hbyte _ (by omega) (by omega)
    · simp only [List.mem_cons, List.not_mem_nil, or_false] at h
      rcases h with rfl | rfl | rfl | rfl <;> exact hbyte _ (by omega) (by omega)

/-- The byte of a line feed belongs to no other character. -/
theorem newline_not_mem_encode {s : List Char} (h : '\n' ∉ s) : 10 ∉ encode (String.ofList s) := by
  rw [encode_ofList]
  intro hmem
  obtain ⟨c, hc, hten⟩ := List.mem_flatMap.1 hmem
  by_cases hsize : 127 < c.val.toNat
  · exact absurd (le_of_mem_utf8EncodeChar hsize hten) (by decide)
  · unfold String.utf8EncodeChar at hten
    dsimp only at hten
    rw [if_pos (by omega)] at hten
    have hval : 10 = c.val.toNat % 256 := congrArg UInt8.toNat (List.mem_singleton.1 hten)
    have heq : c = '\n' := Char.ext (UInt32.toNat_inj.1 (by show c.val.toNat = 10; omega))
    exact h (heq ▸ hc)

/-- Only what is the UTF-8 form of a text is decoded. -/
theorem decode?_eq_some_iff {bytes : Bytes} {s : String} :
    decode? bytes = some s ↔ bytes = encode s := by
  constructor
  · intro h
    unfold decode? String.fromUTF8? at h
    split at h
    · obtain rfl := Option.some.inj h
      rw [encode, toList_eq]
      rfl
    · cases h
  · rintro rfl
    exact decode?_encode s

/-- No character begins like another one. -/
theorem char_eq_of_append {c d : Char} {s t : Bytes}
    (h : String.utf8EncodeChar c ++ s = String.utf8EncodeChar d ++ t) : c = d := by
  have hread : ∀ (c : Char) (s : Bytes),
      (String.utf8EncodeChar c ++ s).toByteArray.utf8DecodeChar? 0 = some c := fun c s => by
    rw [List.toByteArray_append]
    exact ByteArray.utf8DecodeChar?_utf8EncodeChar_append
  have hc := hread c s
  rw [h, hread d t] at hc
  exact (Option.some.inj hc).symm

theorem prefix_of_encode {front s : List Char}
    (h : encode (String.ofList front) <+: encode (String.ofList s)) : front <+: s := by
  rw [encode_ofList, encode_ofList] at h
  induction front generalizing s with
  | nil => exact List.nil_prefix
  | cons c front ih =>
      obtain ⟨rest, hrest⟩ := h
      rw [List.flatMap_cons, List.append_assoc] at hrest
      cases s with
      | nil =>
          exact absurd (List.append_eq_nil_iff.1 hrest).1 String.utf8EncodeChar_ne_nil
      | cons d s =>
          rw [List.flatMap_cons] at hrest
          obtain rfl := char_eq_of_append hrest
          exact List.prefix_cons_inj c |>.2 (ih ⟨rest, List.append_cancel_left hrest⟩)

/-- Cut bytes are a text exactly if they are cut between two characters. -/
theorem isSome_decode?_take {s : List Char} {n : Nat} (hn : n ≤ (encode (String.ofList s)).length) :
    (decode? ((encode (String.ofList s)).take n)).isSome = true ↔
      ∃ front, front <+: s ∧ (encode (String.ofList front)).length = n := by
  rw [Option.isSome_iff_exists]
  constructor
  · rintro ⟨text, htext⟩
    rw [decode?_eq_some_iff] at htext
    refine ⟨text.toList, prefix_of_encode ?_, ?_⟩
    · rw [String.ofList_toList, ← htext]
      exact List.take_prefix n _
    · rw [String.ofList_toList, ← htext, List.length_take, Nat.min_eq_left hn]
  · rintro ⟨front, ⟨back, rfl⟩, hlength⟩
    refine ⟨String.ofList front, decode?_eq_some_iff.2 ?_⟩
    rw [String.ofList_append, encode_append, List.take_left' hlength]

/-! ### Places in the bytes -/

/-- The number of bytes of a text. -/
def size (s : List Char) : Nat :=
  (encode (String.ofList s)).length

@[simp] theorem size_nil : size [] = 0 := by
  rw [size, String.ofList_nil, encode_empty, List.length_nil]

@[simp] theorem size_append (s t : List Char) : size (s ++ t) = size s + size t := by
  rw [size, String.ofList_append, encode_append, List.length_append]
  rfl

@[simp] theorem size_cons (c : Char) (s : List Char) : size (c :: s) = c.utf8Size + size s := by
  rw [size, encode_ofList, List.flatMap_cons, List.length_append, String.length_utf8EncodeChar,
    ← encode_ofList]
  rfl

/-- The text before a place in the bytes and the text after it. There is neither if the place lies
outside the text or inside a character. -/
def cutAt? (place : Nat) (s : List Char) : Option (List Char × List Char) :=
  let bytes := encode (String.ofList s)
  if place ≤ bytes.length then do
    let before ← decode? (bytes.take place)
    let after ← decode? (bytes.drop place)
    return (before.toList, after.toList)
  else none

/-- A text can be cut where one of its parts ends. -/
theorem cutAt?_append (s t : List Char) : cutAt? (size s) (s ++ t) = some (s, t) := by
  unfold cutAt?
  rw [String.ofList_append, encode_append]
  simp [size, decode?_encode]

end FaultDrill.Text.Utf8
