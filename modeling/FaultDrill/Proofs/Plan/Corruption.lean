import FaultDrill.Plan.Corruption
import FaultDrill.Proofs.Outcome
import FaultDrill.Proofs.Text.Decimal
import FaultDrill.Proofs.Text.Pieces

/-!
# FaultDrill.Proofs.Plan.Corruption

The text form of corruptions. The numbers are cut off from the right, where a written number holds no
colon; so a path is found again whatever colons and numbers it holds itself (`parse_text`). What is
read has a path with something in it and no blanks around it (`path_of_parse`), and such a
corruption is just what can be written and read (`round_trips`).
-/

namespace FaultDrill.Corruption

open FaultDrill.Text

/-! ### Reading what is written -/

theorem colon_not_mem_write (n : Nat) : ':' ∉ Decimal.write n :=
  Decimal.not_mem_write (by decide)

theorem readPath_eq {path : List Char} (h : IsSolid path) :
    readPath path = .ok (String.ofList path) := by
  unfold readPath
  rw [h.trimmed]
  exact if_neg h.ne_nil

theorem readNumber_write (n : UInt64) : readNumber (Decimal.write n.toNat) = .ok n := by
  simp [readNumber]

theorem readOne_write {path : List Char} (h : IsSolid path) (n : UInt64) :
    readOne (path ++ ':' :: Decimal.write n.toNat) = .ok (String.ofList path, n) := by
  unfold readOne
  simp only [cutLast?_append (colon_not_mem_write n.toNat) path, readPath_eq h, readNumber_write,
    bind, Except.bind, pure, Except.pure]

theorem readTwo_write {path : List Char} (h : IsSolid path) (m n : UInt64) :
    readTwo (path ++ ':' :: Decimal.write m.toNat ++ ':' :: Decimal.write n.toNat) =
      .ok (String.ofList path, m, n) := by
  unfold readTwo
  simp only [cutLast?_append (colon_not_mem_write n.toNat),
    cutLast?_append (colon_not_mem_write m.toNat) path, readPath_eq h, readNumber_write, bind,
    Except.bind, pure, Except.pure]

theorem parse_truncate (rest : List Char) :
    parse ("truncate".toList ++ ':' :: rest) = (readOne rest).map fun r => .truncate r.1 r.2 := by
  unfold parse
  rw [cut?_append (by decide)]
  rfl

theorem parse_flip (rest : List Char) :
    parse ("flip".toList ++ ':' :: rest) =
      match readTwo rest with
      | .ok r => .ok (.flip r.1 r.2.1 r.2.2)
      | .error _ => (readOne rest).map fun r => .flip r.1 r.2 1 := by
  unfold parse
  rw [cut?_append (by decide)]
  have hkind : String.ofList (trim "flip".toList) = "flip" := by decide
  simp only [hkind]
  cases readTwo rest with
  | ok r => rfl
  | error e => rfl

theorem parse_zero (rest : List Char) :
    parse ("zero".toList ++ ':' :: rest) =
      (readTwo rest).map fun r => .zero r.1 r.2.1 r.2.2 := by
  unfold parse
  rw [cut?_append (by decide)]
  rfl

theorem toList_truncate (path : String) (n : UInt64) : (truncate path n).text.toList =
    "truncate".toList ++ ':' :: (path.toList ++ ':' :: Decimal.write n.toNat) := by
  simp [text, Decimal.text]

theorem toList_flip (path : String) (m n : UInt64) : (flip path m n).text.toList =
    "flip".toList ++ ':' ::
      (path.toList ++ ':' :: Decimal.write m.toNat ++ ':' :: Decimal.write n.toNat) := by
  simp [text, Decimal.text]

theorem toList_zero (path : String) (m n : UInt64) : (zero path m n).text.toList =
    "zero".toList ++ ':' ::
      (path.toList ++ ':' :: Decimal.write m.toNat ++ ':' :: Decimal.write n.toNat) := by
  simp [text, Decimal.text]

/-- A corruption of a path that can be read is read as itself. -/
theorem parse_text {c : Corruption} (h : IsSolid c.path.toList) : parse c.text.toList = .ok c := by
  cases c with
  | truncate path n =>
      have hpath : IsSolid path.toList := h
      rw [toList_truncate, parse_truncate, readOne_write hpath]
      simp [Except.map]
  | flip path m n =>
      have hpath : IsSolid path.toList := h
      rw [toList_flip, parse_flip, readTwo_write hpath]
      simp
  | zero path m n =>
      have hpath : IsSolid path.toList := h
      rw [toList_zero, parse_zero, readTwo_write hpath]
      simp [Except.map]

/-! ### What can be read -/

theorem readPath_eq_ok {s : List Char} {path : String} (h : readPath s = .ok path) :
    IsSolid path.toList ∧ path.toList ⊆ s := by
  unfold readPath at h
  dsimp only at h
  split at h
  · cases h
  · next hne =>
    obtain rfl := Except.ok.inj h
    rw [String.toList_ofList]
    exact ⟨⟨hne, trim_trim s⟩, fun c hc => mem_of_mem_trim hc⟩

theorem readOne_eq_ok {s : List Char} {r : String × UInt64} (h : readOne s = .ok r) :
    IsSolid r.1.toList ∧ r.1.toList ⊆ s := by
  unfold readOne at h
  split at h
  · next front a hcut =>
    obtain ⟨path, hpath, h⟩ := Outcome.bind_eq_ok.1 h
    obtain ⟨n, -, h⟩ := Outcome.bind_eq_ok.1 h
    obtain rfl := Except.ok.inj h
    obtain ⟨hp, hsub⟩ := readPath_eq_ok hpath
    obtain ⟨rfl, -⟩ := cutLast?_eq_some hcut
    exact ⟨hp, fun c hc => List.mem_append_left _ (hsub hc)⟩
  · cases h

theorem readTwo_eq_ok {s : List Char} {r : String × UInt64 × UInt64} (h : readTwo s = .ok r) :
    IsSolid r.1.toList ∧ r.1.toList ⊆ s := by
  unfold readTwo at h
  split at h
  · next front b hcut =>
    split at h
    · next before a hcut' =>
      obtain ⟨path, hpath, h⟩ := Outcome.bind_eq_ok.1 h
      obtain ⟨m, -, h⟩ := Outcome.bind_eq_ok.1 h
      obtain ⟨n, -, h⟩ := Outcome.bind_eq_ok.1 h
      obtain rfl := Except.ok.inj h
      obtain ⟨hp, hsub⟩ := readPath_eq_ok hpath
      obtain ⟨rfl, -⟩ := cutLast?_eq_some hcut
      obtain ⟨rfl, -⟩ := cutLast?_eq_some hcut'
      exact ⟨hp, fun c hc => List.mem_append_left _ (List.mem_append_left _ (hsub hc))⟩
    · cases h
  · cases h

/-- A corruption that is read has a path with something in it and no blanks around it, and the path
stood in the text. -/
theorem path_of_parse {s : List Char} {c : Corruption} (h : parse s = .ok c) :
    IsSolid c.path.toList ∧ c.path.toList ⊆ s := by
  unfold parse at h
  split at h
  · cases h
  · next kind rest hcut =>
    obtain ⟨rfl, -⟩ := cut?_eq_some hcut
    have hrest : rest ⊆ kind ++ ':' :: rest := fun c hc =>
      List.mem_append_right _ (List.mem_cons_of_mem _ hc)
    split at h
    · obtain ⟨r, hr, h⟩ := Outcome.bind_eq_ok.1 h
      obtain rfl := Except.ok.inj h
      exact (readOne_eq_ok hr).imp_right fun hsub => List.Subset.trans hsub hrest
    · split at h
      · next hr =>
        obtain rfl := Except.ok.inj h
        exact (readTwo_eq_ok hr).imp_right fun hsub => List.Subset.trans hsub hrest
      · obtain ⟨r, hr, h⟩ := Outcome.bind_eq_ok.1 h
        obtain rfl := Except.ok.inj h
        exact (readOne_eq_ok hr).imp_right fun hsub => List.Subset.trans hsub hrest
    · obtain ⟨r, hr, h⟩ := Outcome.bind_eq_ok.1 h
      obtain rfl := Except.ok.inj h
      exact (readTwo_eq_ok hr).imp_right fun hsub => List.Subset.trans hsub hrest
    · cases h

/-- **Reading what is written gives it back just for a path with something in it and no blanks around
it**, whatever colons and numbers stand in the path. Only such corruptions are read from any text, so
what is read can be written and read again. -/
theorem round_trips :
    (∀ c : Corruption, parse c.text.toList = .ok c ↔ IsSolid c.path.toList) ∧
    ∀ (s : List Char) (c : Corruption), parse s = .ok c →
      IsSolid c.path.toList ∧ parse c.text.toList = .ok c := by
  refine ⟨fun c => ⟨fun h => (path_of_parse h).1, parse_text⟩, fun s c h => ?_⟩
  have hpath := (path_of_parse h).1
  exact ⟨hpath, parse_text hpath⟩

/-- A path with colons and numbers, which is read without the blanks around it. -/
theorem round_trips_colons :
    parse "flip: wal:1:2 :3:4".toList = .ok (flip "wal:1:2" 3 4) ∧
    parse (flip "wal:1:2" 3 4).text.toList = .ok (flip "wal:1:2" 3 4) := by
  have hread : parse "flip: wal:1:2 :3:4".toList = .ok (flip "wal:1:2" 3 4) := rfl
  exact ⟨hread, (round_trips.2 _ _ hread).2⟩

end FaultDrill.Corruption
