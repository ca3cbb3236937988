/-!
# FaultDrill.Collections.SortedMap

Finite maps kept as a list in strictly ascending order of their keys. Two maps with the same
bindings are the same value, and going through a map visits the keys in their order. The main
statements are the two laws of look-up after insertion, `get?_insert_self` and
`get?_insert_of_ne`, and the same for `erase`.
-/

namespace FaultDrill

/-- Pairs are ordered by their first component, then by their second. -/
instance ordPair {α β : Type} [Ord α] [Ord β] : Ord (α × β) := lexOrd

/-- A finite map with its bindings in ascending order of the keys. -/
structure SortedMap (κ : Type) (α : Type) [Ord κ] where
  entries : List (κ × α)
  sorted : entries.Pairwise fun a b => compare a.1 b.1 = .lt := by simp

namespace SortedMap

variable {κ α β : Type} [Ord κ]

instance [DecidableEq κ] [DecidableEq α] : DecidableEq (SortedMap κ α) := fun a b =>
  if h : a.entries = b.entries then
    isTrue (by cases a; cases b; simp_all)
  else
    isFalse fun e => h (congrArg entries e)

@[ext] theorem ext {a b : SortedMap κ α} (h : a.entries = b.entries) : a = b := by
  cases a; cases b; simp_all

/-- The map without bindings. -/
def empty : SortedMap κ α where
  entries := []

instance : EmptyCollection (SortedMap κ α) := ⟨empty⟩

instance : Inhabited (SortedMap κ α) := ⟨empty⟩

/-! ### Lists of bindings -/

/-- Puts a binding in its place, in the place of one with the same key. -/
def insertInto (k : κ) (v : α) : List (κ × α) → List (κ × α)
  | [] => [(k, v)]
  | (k', v') :: rest =>
    match compare k k' with
    | .lt => (k, v) :: (k', v') :: rest
    | .eq => (k, v) :: rest
    | .gt => (k', v') :: insertInto k v rest

/-- The value bound to `k`. -/
def lookup (k : κ) : List (κ × α) → Option α
  | [] => none
  | (k', v) :: rest => if compare k k' = .eq then some v else lookup k rest

theorem mem_insertInto {k : κ} {v : α} {l : List (κ × α)} {x : κ × α}
    (h : x ∈ insertInto k v l) : x = (k, v) ∨ x ∈ l := by
  induction l with
  | nil => simpa [insertInto] using h
  | cons y rest ih =>
    obtain ⟨k', v'⟩ := y
    unfold insertInto at h
    split at h
    · simpa using h
    · simp only [List.mem_cons] at h ⊢
      exact h.imp_right .inr
    · simp only [List.mem_cons] at h ⊢
      rcases h with h | h
      · exact .inr (.inl h)
      · exact (ih h).imp_right .inr

theorem pairwise_insertInto [Std.TransOrd κ] (k : κ) (v : α) {l : List (κ × α)}
    (h : l.Pairwise fun a b => compare a.1 b.1 = .lt) :
    (insertInto k v l).Pairwise fun a b => compare a.1 b.1 = .lt := by
  induction l with
  | nil => simp [insertInto]
  | cons y rest ih =>
    obtain ⟨k', v'⟩ := y
    rw [List.pairwise_cons] at h
    unfold insertInto
    split
    · next hlt =>
      rw [List.pairwise_cons]
      refine ⟨fun x hx => ?_, List.pairwise_cons.2 h⟩
      rcases List.mem_cons.1 hx with rfl | hx
      · exact hlt
      · exact Std.TransCmp.lt_trans hlt (h.1 x hx)
    · next heq =>
      rw [List.pairwise_cons]
      exact ⟨fun x hx => Std.TransCmp.lt_of_eq_of_lt heq (h.1 x hx), h.2⟩
    · next hgt =>
      rw [List.pairwise_cons]
      refine ⟨fun x hx => ?_, ih h.2⟩
      rcases mem_insertInto hx with rfl | hx
      · exact Std.OrientedCmp.gt_iff_lt.1 hgt
      · exact h.1 x hx

/-! ### Operations -/

/-- Whether the map has no binding. -/
def isEmpty (m : SortedMap κ α) : Bool :=
  m.entries.isEmpty

/-- The keys in ascending order. -/
def keys (m : SortedMap κ α) : List κ :=
  m.entries.map Prod.fst

/-- The value bound to a key. -/
def get? (m : SortedMap κ α) (k : κ) : Option α :=
  lookup k m.entries

/-- Whether a key is bound. -/
def contains (m : SortedMap κ α) (k : κ) : Bool :=
  (m.get? k).isSome

/-- The map with `k` bound to `v`; an older binding of `k` is dropped. -/
def insert [Std.TransOrd κ] (m : SortedMap κ α) (k : κ) (v : α) : SortedMap κ α where
  entries := insertInto k v m.entries
  sorted := pairwise_insertInto k v m.sorted

/-- The map with `k` bound to `v`, unless `k` is bound already. -/
def insertIfNew [Std.TransOrd κ] (m : SortedMap κ α) (k : κ) (v : α) : SortedMap κ α :=
  if m.contains k then m else m.insert k v

/-- The map without a binding of `k`. -/
def erase (m : SortedMap κ α) (k : κ) : SortedMap κ α where
  entries := m.entries.filter fun e => compare k e.1 != .eq
  sorted := m.sorted.filter _

/-- The map of a list of bindings; of two with one key the later holds. -/
def ofList [Std.TransOrd κ] (l : List (κ × α)) : SortedMap κ α :=
  l.foldl (fun m e => m.insert e.1 e.2) empty

/-- The bindings in ascending order of the keys. -/
def toList (m : SortedMap κ α) : List (κ × α) :=
  m.entries

/-! ### Laws of look-up -/

@[simp] theorem get?_empty (k : κ) : (empty : SortedMap κ α).get? k = none := rfl

theorem lookup_filter_self (k : κ) (l : List (κ × α)) :
    lookup k (l.filter fun e => compare k e.1 != .eq) = none := by
  induction l with
  | nil => rfl
  | cons y rest ih =>
    by_cases h : compare k y.1 = .eq
    · simp [h, ih]
    · simp [h, lookup, ih]

/-- What has just been erased is not found. -/
theorem get?_erase_self (m : SortedMap κ α) (k : κ) : (m.erase k).get? k = none :=
  lookup_filter_self k m.entries

section Laws

variable [Std.TransOrd κ]

theorem lookup_insertInto_self (k : κ) (v : α) (l : List (κ × α)) :
    lookup k (insertInto k v l) = some v := by
  induction l with
  | nil => simp [insertInto, lookup, Std.ReflCmp.compare_self]
  | cons y rest ih =>
    obtain ⟨k', v'⟩ := y
    unfold insertInto
    split
    · simp [lookup, Std.ReflCmp.compare_self]
    · simp [lookup, Std.ReflCmp.compare_self]
    · next hgt => simp [lookup, hgt, ih]

theorem lookup_insertInto_of_ne {k k' : κ} (v : α) (l : List (κ × α)) (h : compare k' k ≠ .eq) :
    lookup k' (insertInto k v l) = lookup k' l := by
  induction l with
  | nil => simp [insertInto, lookup, h]
  | cons y rest ih =>
    obtain ⟨k'', v''⟩ := y
    unfold insertInto
    split
    · simp [lookup, h]
    · next heq =>
      have : compare k' k'' ≠ .eq := fun e =>
        h (Std.TransCmp.eq_trans e (Std.OrientedCmp.eq_symm heq))
      simp [lookup, h, this]
    · simp [lookup, ih]

/-- What has just been inserted is found. -/
theorem get?_insert_self (m : SortedMap κ α) (k : κ) (v : α) : (m.insert k v).get? k = some v :=
  lookup_insertInto_self k v m.entries

/-- An insertion changes no other key. -/
theorem get?_insert_of_ne (m : SortedMap κ α) {k k' : κ} (v : α) (h : compare k' k ≠ .eq) :
    (m.insert k v).get? k' = m.get? k' :=
  lookup_insertInto_of_ne v m.entries h

theorem lookup_filter_of_ne {k k' : κ} (l : List (κ × α)) (h : compare k' k ≠ .eq) :
    lookup k' (l.filter fun e => compare k e.1 != .eq) = lookup k' l := by
  induction l with
  | nil => rfl
  | cons y rest ih =>
    by_cases hk : compare k y.1 = .eq
    · have : compare k' y.1 ≠ .eq := fun e =>
        h (Std.TransCmp.eq_trans e (Std.OrientedCmp.eq_symm hk))
      simp [hk, lookup, this, ih]
    · simp [hk, lookup, ih]

/-- An erasure changes no other key. -/
theorem get?_erase_of_ne (m : SortedMap κ α) {k k' : κ} (h : compare k' k ≠ .eq) :
    (m.erase k).get? k' = m.get? k' :=
  lookup_filter_of_ne m.entries h

end Laws

end SortedMap

/-- A sorted set of strings: its members in strictly ascending order. -/
abbrev NameSet := SortedMap String Unit

namespace NameSet

/-- The set of the members of a list. -/
def ofList (names : List String) : NameSet :=
  SortedMap.ofList (names.map fun n => (n, ()))

/-- The members in ascending order. -/
def toList (s : NameSet) : List String :=
  SortedMap.keys s

end NameSet

end FaultDrill
