import FaultDrill.Collections.SortedMap

/-!
# FaultDrill.Proofs.Collections.SortedMap

Sorted maps as sets of bindings: look-up is membership (`get?_eq_some_iff`), a new key adds one
binding and leaves the others (`perm_insert`), and a map is built again from its own bindings
(`ofList_toList`).
-/

namespace FaultDrill

namespace SortedMap

variable {κ α : Type} [Ord κ]

/-! ### Look-up and membership -/

theorem lookup_eq_some_iff [Std.LawfulEqOrd κ] {k : κ} {v : α} {l : List (κ × α)}
    (h : l.Pairwise fun a b => compare a.1 b.1 = .lt) : lookup k l = some v ↔ (k, v) ∈ l := by
  induction l with
  | nil => simp [lookup]
  | cons x rest ih =>
      obtain ⟨k', v'⟩ := x
      rw [List.pairwise_cons] at h
      unfold lookup
      by_cases hk : compare k k' = .eq
      · obtain rfl := Std.LawfulEqOrd.eq_of_compare hk
        -- the key stands at the head, and the order keeps it from standing anywhere else
        have hrest : (k, v) ∉ rest := fun hmem => by
          have hlt := h.1 _ hmem
          rw [Std.ReflOrd.compare_self] at hlt
          cases hlt
        simp [hrest, eq_comm]
      · have hne : k ≠ k' := fun e => hk (e ▸ Std.ReflOrd.compare_self)
        simp [hk, hne, ih h.2]

/-- A value is found under a key exactly if the two are a binding of the map. -/
theorem get?_eq_some_iff [Std.LawfulEqOrd κ] {m : SortedMap κ α} {k : κ} {v : α} :
    m.get? k = some v ↔ (k, v) ∈ m.toList :=
  lookup_eq_some_iff m.sorted

theorem contains_iff [Std.LawfulEqOrd κ] {m : SortedMap κ α} {k : κ} :
    m.contains k = true ↔ ∃ v, (k, v) ∈ m.toList := by
  unfold contains
  rw [Option.isSome_iff_exists]
  exact exists_congr fun v => get?_eq_some_iff

theorem mem_keys_iff [Std.LawfulEqOrd κ] {m : SortedMap κ α} {k : κ} :
    k ∈ m.toList.map (·.1) ↔ m.contains k = true := by
  rw [contains_iff]
  exact ⟨fun h => by obtain ⟨x, hx, rfl⟩ := List.mem_map.1 h; exact ⟨x.2, hx⟩,
    fun ⟨v, h⟩ => List.mem_map_of_mem h⟩

/-- No key comes twice. -/
theorem nodup_keys [Std.ReflOrd κ] (m : SortedMap κ α) : (m.toList.map (·.1)).Nodup := by
  refine List.pairwise_map.2 (m.sorted.imp fun hlt heq => ?_)
  rw [heq, Std.ReflOrd.compare_self] at hlt
  cases hlt

/-- What is left after an erasure is all that has another key. -/
theorem mem_toList_erase [Std.LawfulEqOrd κ] {m : SortedMap κ α} {k : κ} {x : κ × α} :
    x ∈ (m.erase k).toList ↔ x ∈ m.toList ∧ x.1 ≠ k := by
  have hkey : (compare k x.1 != .eq) = true ↔ x.1 ≠ k := by
    rw [bne_iff_ne, ne_eq, Std.LawfulEqOrd.compare_eq_iff_eq, eq_comm]
  show x ∈ m.entries.filter _ ↔ _
  rw [List.mem_filter, hkey]
  rfl

/-! ### Insertion -/

theorem perm_insertInto [Std.LawfulEqOrd κ] {k : κ} (v : α) {l : List (κ × α)}
    (h : lookup k l = none) : (insertInto k v l).Perm ((k, v) :: l) := by
  induction l with
  | nil => exact .refl _
  | cons x rest ih =>
      obtain ⟨k', v'⟩ := x
      unfold lookup at h
      unfold insertInto
      split
      · exact .refl _
      · next heq => rw [if_pos heq] at h; cases h
      · next hgt =>
        rw [if_neg (by rw [hgt]; decide)] at h
        exact ((ih h).cons _).trans (.swap _ _ _)

/-- What is found in a map is found after a new key has come. -/
theorem get?_insert_of_new [Std.TransOrd κ] [Std.LawfulEqOrd κ] {m : SortedMap κ α} {k k' : κ}
    {v w : α} (hnew : m.contains k = false) (h : m.get? k' = some v) :
    (m.insert k w).get? k' = some v := by
  rw [get?_insert_of_ne m w, h]
  intro heq
  rw [contains, ← Std.LawfulEqOrd.eq_of_compare heq, h] at hnew
  cases hnew

theorem get?_insertIfNew [Std.TransOrd κ] [Std.LawfulEqOrd κ] {m : SortedMap κ α} {k k' : κ}
    {v : α} (w : α) (h : m.get? k' = some v) : (m.insertIfNew k w).get? k' = some v := by
  unfold insertIfNew
  split
  next => exact h
  next hnew => exact get?_insert_of_new (Bool.not_eq_true _ ▸ hnew) h

/-- What is found after a binding has been offered: the older one of the key, if it has one. -/
theorem get?_insertIfNew_or [Std.TransOrd κ] [Std.LawfulEqOrd κ] [DecidableEq κ]
    (m : SortedMap κ α) (k k' : κ) (w : α) :
    (m.insertIfNew k w).get? k' = (m.get? k').or (if k' = k then some w else none) := by
  unfold insertIfNew
  by_cases heq : k' = k
  · rw [if_pos heq, heq]
    by_cases hold : m.contains k = true
    · rw [if_pos hold]
      obtain ⟨v, hv⟩ := Option.isSome_iff_exists.1 hold
      rw [hv, Option.some_or]
    · rw [if_neg hold, get?_insert_self, Option.not_isSome_iff_eq_none.1 hold, Option.none_or]
  · have hne : compare k' k ≠ .eq := fun h => heq (Std.LawfulEqOrd.eq_of_compare h)
    rw [if_neg heq, Option.or_none]
    split
    · rfl
    · exact get?_insert_of_ne m w hne

theorem insertInto_of_forall_gt {k : κ} (v : α) {l : List (κ × α)}
    (h : ∀ x ∈ l, compare k x.1 = .gt) : insertInto k v l = l ++ [(k, v)] := by
  induction l with
  | nil => rfl
  | cons x rest ih =>
      obtain ⟨k', v'⟩ := x
      have hgt : compare k k' = .gt := h _ List.mem_cons_self
      unfold insertInto
      rw [hgt]
      exact congrArg _ (ih fun y hy => h y (List.mem_cons_of_mem _ hy))

section Trans

variable [Std.TransOrd κ]

/-- A new key adds its binding, and the others stay. -/
theorem perm_insert [Std.LawfulEqOrd κ] {m : SortedMap κ α} {k : κ} (v : α)
    (h : m.contains k = false) : (m.insert k v).toList.Perm ((k, v) :: m.toList) :=
  perm_insertInto v (by simpa [contains, get?] using h)

/-! ### Maps of lists -/

theorem entries_foldl_insert {l : List (κ × α)} {m : SortedMap κ α}
    (h : (m.entries ++ l).Pairwise fun a b => compare a.1 b.1 = .lt) :
    (l.foldl (fun m e => m.insert e.1 e.2) m).entries = m.entries ++ l := by
  induction l generalizing m with
  | nil => simp
  | cons x rest ih =>
      have hgt : ∀ y ∈ m.entries, compare x.1 y.1 = .gt := fun y hy =>
        Std.OrientedCmp.gt_iff_lt.2 ((List.pairwise_append.1 h).2.2 y hy x List.mem_cons_self)
      have hins : (m.insert x.1 x.2).entries = m.entries ++ [x] :=
        insertInto_of_forall_gt x.2 hgt
      rw [List.foldl_cons, ih (by simpa [hins] using h), hins]
      simp

/-- The map of a list that is in order already has just its bindings. -/
theorem toList_ofList {l : List (κ × α)} (h : l.Pairwise fun a b => compare a.1 b.1 = .lt) :
    (ofList l).toList = l :=
  entries_foldl_insert (m := .empty) h

/-- A map is the map of its own bindings. -/
@[simp] theorem ofList_toList (m : SortedMap κ α) : ofList m.toList = m :=
  ext (toList_ofList m.sorted)

theorem mem_foldl_insert {l : List (κ × α)} {m : SortedMap κ α} {x : κ × α}
    (h : x ∈ (l.foldl (fun m e => m.insert e.1 e.2) m).toList) : x ∈ m.toList ∨ x ∈ l := by
  induction l generalizing m with
  | nil => exact .inl h
  | cons y rest ih =>
      rcases ih h with h | h
      · rcases mem_insertInto h with rfl | h
        · exact .inr List.mem_cons_self
        · exact .inl h
      · exact .inr (List.mem_cons_of_mem y h)

/-- Every binding of the map of a list is one of the list. -/
theorem mem_of_mem_ofList {l : List (κ × α)} {x : κ × α} (h : x ∈ (ofList l).toList) : x ∈ l :=
  (mem_foldl_insert h).resolve_left (by simp [toList, empty])

end Trans

end SortedMap

/-! ### Sets of names -/

namespace NameSet

@[simp] theorem ofList_toList (s : NameSet) : ofList s.toList = s := by
  have hpairs : s.toList.map (fun n => (n, ())) = SortedMap.toList s := by
    unfold toList SortedMap.keys
    rw [List.map_map]
    exact List.map_id _
  unfold ofList
  rw [hpairs, SortedMap.ofList_toList]

theorem mem_of_mem_ofList {names : List String} {n : String} (h : n ∈ (ofList names).toList) :
    n ∈ names := by
  obtain ⟨x, hx, rfl⟩ := List.mem_map.1 h
  obtain ⟨name, hname, rfl⟩ := List.mem_map.1 (SortedMap.mem_of_mem_ofList hx)
  exact hname

theorem mem_toList_iff {s : NameSet} {n : String} : n ∈ s.toList ↔ s.contains n = true :=
  SortedMap.mem_keys_iff

theorem toList_ne_nil_iff {s : NameSet} : s.toList ≠ [] ↔ s.isEmpty = false := by
  simp [toList, SortedMap.keys, SortedMap.isEmpty]

end NameSet

end FaultDrill
