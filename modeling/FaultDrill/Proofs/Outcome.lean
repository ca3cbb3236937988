/-!
# FaultDrill.Proofs.Outcome

When a computation that may fail succeeds: exactly if each of its parts does. If it fails, then with
the error of one of them.
-/

namespace FaultDrill.Outcome

variable {ε ε' α β : Type}

theorem bind_eq_error {x : Except ε α} {f : α → Except ε β} {e : ε} :
    x >>= f = .error e ↔ x = .error e ∨ ∃ a, x = .ok a ∧ f a = .error e := by
  cases x with
  | error e => simp [bind, Except.bind]
  | ok a => simp [bind, Except.bind]

theorem mapError_eq_error {x : Except ε α} {f : ε → ε'} {e : ε'} :
    x.mapError f = .error e ↔ ∃ cause, x = .error cause ∧ f cause = e := by
  cases x with
  | error e' =>
      show Except.error (f e') = Except.error e ↔ _
      simp
  | ok a =>
      show Except.ok a = Except.error e ↔ _
      simp

theorem bind_eq_ok {x : Except ε α} {f : α → Except ε β} {b : β} :
    x >>= f = .ok b ↔ ∃ a, x = .ok a ∧ f a = .ok b := by
  cases x with
  | error e => simp [bind, Except.bind]
  | ok a => simp [bind, Except.bind]

theorem map_eq_ok {x : Except ε α} {f : α → β} {b : β} :
    f <$> x = .ok b ↔ ∃ a, x = .ok a ∧ f a = b := by
  cases x with
  | error e => simp [Functor.map, Except.map]
  | ok a => simp [Functor.map, Except.map]

theorem mapError_eq_ok {x : Except ε α} {f : ε → ε'} {a : α} :
    x.mapError f = .ok a ↔ x = .ok a := by
  cases x with
  | error e =>
      show Except.error (f e) = Except.ok a ↔ _
      simp
  | ok a' =>
      show Except.ok a' = Except.ok a ↔ _
      simp

/-! ### Lists -/

theorem exists_of_mem_mapM {f : α → Except ε β} {l : List α} {out : List β}
    (h : l.mapM f = .ok out) {b : β} (hb : b ∈ out) : ∃ a ∈ l, f a = .ok b := by
  induction l generalizing out with
  | nil => obtain rfl := Except.ok.inj h; cases hb
  | cons a rest ih =>
      rw [List.mapM_cons] at h
      obtain ⟨b', hb', h⟩ := bind_eq_ok.1 h
      obtain ⟨more, hmore, h⟩ := bind_eq_ok.1 h
      obtain rfl := Except.ok.inj h
      rcases List.mem_cons.1 hb with rfl | hb
      · exact ⟨a, List.mem_cons_self, hb'⟩
      · obtain ⟨a', ha', hf⟩ := ih hmore hb
        exact ⟨a', List.mem_cons_of_mem a ha', hf⟩

theorem exists_of_mapM_eq_error {f : α → Except ε β} {l : List α} {e : ε}
    (h : l.mapM f = .error e) : ∃ a ∈ l, f a = .error e := by
  induction l with
  | nil => cases h
  | cons a rest ih =>
      rw [List.mapM_cons, bind_eq_error] at h
      rcases h with h | ⟨b, -, h⟩
      · exact ⟨a, List.mem_cons_self, h⟩
      · rcases bind_eq_error.1 h with h | ⟨more, -, h⟩
        · obtain ⟨a', ha', hf⟩ := ih h
          exact ⟨a', List.mem_cons_of_mem a ha', hf⟩
        · cases h

theorem mapM_eq_ok_of_imp {f g : α → Except ε β} (hfg : ∀ a b, f a = .ok b → g a = .ok b)
    {l : List α} {out : List β} (h : l.mapM f = .ok out) : l.mapM g = .ok out := by
  induction l generalizing out with
  | nil => exact h
  | cons a rest ih =>
      rw [List.mapM_cons] at h ⊢
      obtain ⟨b, hb, h⟩ := bind_eq_ok.1 h
      obtain ⟨more, hmore, h⟩ := bind_eq_ok.1 h
      exact bind_eq_ok.2 ⟨b, hfg a b hb, bind_eq_ok.2 ⟨more, ih hmore, h⟩⟩

/-- What is read back one by one is read back as a list. -/
theorem mapM_map_eq_ok {f : α → Except ε β} {g : β → α} {out : List β}
    (h : ∀ b ∈ out, f (g b) = .ok b) : (out.map g).mapM f = .ok out := by
  induction out with
  | nil => rfl
  | cons b rest ih =>
      rw [List.map_cons, List.mapM_cons, h b List.mem_cons_self,
        ih fun b' hb' => h b' (List.mem_cons_of_mem b hb')]
      rfl

end FaultDrill.Outcome
