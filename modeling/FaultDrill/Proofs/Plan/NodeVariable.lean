import FaultDrill.Plan.Reference
import FaultDrill.Proofs.Text.Pieces
import FaultDrill.Proofs.Text.Utf8

/-!
# FaultDrill.Proofs.Plan.NodeVariable

**Which names belong to a node** (`nodeOfVariable?_spelled`). Such a name is a node, a separator and
a variable: the node is `nd` before a point, and `nd` or `nd-` with a number before a dash. The
separator ends the node, since no digit is one, so a name is read in one way only.

The node can also be found by places in the bytes of the name: the number ends where its first other
character starts, and the node ends as many bytes before the end of the name as the variable has,
and one more. However wide the characters of the name are, no such place lies outside the text or
inside a character (`nodeByPlaces?_eq`).
-/

namespace FaultDrill

open FaultDrill.Text

/-- One digit or more. -/
structure IsNumber (digits : List Char) : Prop where
  ne_nil : digits ≠ []
  digit : ∀ d ∈ digits, d.isDigit = true

/-- The nodes that names begin with, each by the separator that follows it. -/
inductive IsNode : Char → List Char → Prop
  | any : IsNode '.' ['n', 'd']
  | numbered {digits : List Char} (h : IsNumber digits) : IsNode '-' ('n' :: 'd' :: digits)
  | dashed {digits : List Char} (h : IsNumber digits) : IsNode '-' ('n' :: 'd' :: '-' :: digits)

/-! ### Names as characters -/

/-- The variable behind a dash. -/
def afterDash? : List Char → Option (List Char)
  | '-' :: c :: var => some (c :: var)
  | _ => none

theorem afterDash?_eq_some_iff {s var : List Char} :
    afterDash? s = some var ↔ var ≠ [] ∧ s = '-' :: var := by
  constructor
  · intro h
    unfold afterDash? at h
    split at h
    · obtain rfl := Option.some.inj h
      exact ⟨by simp, rfl⟩
    · cases h
  · rintro ⟨hne, rfl⟩
    obtain ⟨c, rest, rfl⟩ := List.exists_cons_of_ne_nil hne
    rfl

/-- The number that a text starts with, and the variable behind the dash that follows it. -/
def cutNumber? (s : List Char) : Option (List Char × List Char) :=
  if s.takeWhile Char.isDigit = [] then none
  else (afterDash? (s.dropWhile Char.isDigit)).map (s.takeWhile Char.isDigit, ·)

theorem cutNumber?_eq_some_iff {s digits var : List Char} :
    cutNumber? s = some (digits, var) ↔ IsNumber digits ∧ var ≠ [] ∧ s = digits ++ '-' :: var := by
  unfold cutNumber?
  constructor
  · intro h
    split at h
    · cases h
    · next hne =>
      obtain ⟨_, hvar, hparts⟩ := Option.map_eq_some_iff.1 h
      obtain ⟨rfl, rfl⟩ := Prod.mk.inj hparts
      obtain ⟨hvar, hbehind⟩ := afterDash?_eq_some_iff.1 hvar
      refine ⟨⟨hne, fun d hd => List.mem_takeWhile_imp hd⟩, hvar, ?_⟩
      rw [← hbehind, List.takeWhile_append_dropWhile]
  · rintro ⟨⟨hne, hdigits⟩, hvar, rfl⟩
    have hbehind : (digits ++ '-' :: var).dropWhile Char.isDigit = '-' :: var := by
      rw [List.dropWhile_append_of_pos hdigits]
      rfl
    have hnumber : (digits ++ '-' :: var).takeWhile Char.isDigit = digits := by
      rw [List.takeWhile_append_of_pos hdigits]
      exact List.append_nil digits
    rw [hnumber, hbehind, if_neg hne, afterDash?_eq_some_iff.2 ⟨hvar, rfl⟩]
    rfl

theorem map_cutNumber? (front s : List Char) :
    (cutNumber? s).map (fun (digits, var) => (front ++ digits, var)) =
      match s.takeWhile Char.isDigit, s.dropWhile Char.isDigit with
      | d :: number, '-' :: c :: var => some (front ++ d :: number, c :: var)
      | _, _ => none := by
  unfold cutNumber? afterDash?
  split
  · next hnil => rw [hnil]; rfl
  · next hne =>
    obtain ⟨d, number, hnumber⟩ := List.exists_cons_of_ne_nil hne
    rw [hnumber]
    split
    · next hdash => rw [hdash]; rfl
    · next hnone =>
      split
      · next heq => exact absurd heq (hnone _ _)
      · rfl

/-- What stands before the number of a name, if the name has one. -/
inductive Opening : (front rest : List Char) → Prop
  | dash (rest : List Char) : Opening ['n', 'd', '-'] rest
  | plain {rest : List Char} (hdot : ∀ var, rest ≠ '.' :: var)
      (hdash : ∀ after, rest ≠ '-' :: after) : Opening ['n', 'd'] rest

theorem name_cases (name : List Char) :
    (∀ rest, name ≠ 'n' :: 'd' :: rest) ∨ (∃ var, name = 'n' :: 'd' :: '.' :: var) ∨
      ∃ front rest, Opening front rest ∧ name = front ++ rest := by
  by_cases hname : ∃ rest, name = 'n' :: 'd' :: rest
  · obtain ⟨rest, rfl⟩ := hname
    by_cases hdot : ∃ var, rest = '.' :: var
    · obtain ⟨var, rfl⟩ := hdot
      exact .inr (.inl ⟨var, rfl⟩)
    · by_cases hdash : ∃ after, rest = '-' :: after
      · obtain ⟨after, rfl⟩ := hdash
        exact .inr (.inr ⟨_, after, .dash after, rfl⟩)
      · exact .inr (.inr ⟨_, rest, .plain (not_exists.1 hdot) (not_exists.1 hdash), rfl⟩)
  · exact .inl (not_exists.1 hname)

theorem nodeOfVariable?_eq_none {name : List Char} (h : ∀ rest, name ≠ 'n' :: 'd' :: rest) :
    nodeOfVariable? name = none := by
  rw [nodeOfVariable?]
  · exact fun var => h ('.' :: var)
  · exact h

theorem nodeOfVariable?_dot (var : List Char) :
    nodeOfVariable? ('n' :: 'd' :: '.' :: var) =
      if var.isEmpty then none else some (['n', 'd'], var) := rfl

theorem nodeOfVariable?_append {front rest : List Char} (h : Opening front rest) :
    nodeOfVariable? (front ++ rest) =
      (cutNumber? rest).map fun (digits, var) => (front ++ digits, var) := by
  rw [map_cutNumber?]
  cases h with
  | dash => rfl
  | plain hdot hdash =>
      rw [List.cons_append, List.cons_append, List.nil_append, nodeOfVariable?]
      · rfl
      · exact hdot
      · exact hdash

theorem Opening.isNode {front rest digits : List Char} (h : Opening front rest)
    (hdigits : IsNumber digits) : IsNode '-' (front ++ digits) := by
  cases h with
  | dash => exact .dashed hdigits
  | plain => exact .numbered hdigits

/-- A number starts with none of the separators. -/
theorem opening_number {digits : List Char} (h : IsNumber digits) (rest : List Char) :
    Opening ['n', 'd'] (digits ++ rest) := by
  obtain ⟨d, number, rfl⟩ := List.exists_cons_of_ne_nil h.ne_nil
  have hd := h.digit d List.mem_cons_self
  refine .plain (fun _ heq => ?_) fun _ heq => ?_
  · rw [(List.cons.inj heq).1] at hd
    cases hd
  · rw [(List.cons.inj heq).1] at hd
    cases hd

/-- A node and a variable are read from a name exactly if the name is the node, its separator and
the variable. -/
theorem nodeOfVariable?_eq_some_iff {name node var : List Char} :
    nodeOfVariable? name = some (node, var) ↔
      ∃ sep, IsNode sep node ∧ var ≠ [] ∧ name = node ++ sep :: var := by
  constructor
  · intro h
    rcases name_cases name with hname | ⟨after, rfl⟩ | ⟨front, rest, hopening, rfl⟩
    · rw [nodeOfVariable?_eq_none hname] at h
      cases h
    · rw [nodeOfVariable?_dot] at h
      split at h
      · cases h
      · next hne =>
        obtain ⟨rfl, rfl⟩ := Prod.mk.inj (Option.some.inj h)
        exact ⟨'.', .any, by simpa using hne, rfl⟩
    · rw [nodeOfVariable?_append hopening, Option.map_eq_some_iff] at h
      obtain ⟨⟨digits, after⟩, hcut, hparts⟩ := h
      obtain ⟨rfl, rfl⟩ := Prod.mk.inj hparts
      obtain ⟨hnumber, hvar, rfl⟩ := cutNumber?_eq_some_iff.1 hcut
      exact ⟨'-', hopening.isNode hnumber, hvar, (List.append_assoc _ _ _).symm⟩
  · rintro ⟨sep, hnode, hvar, rfl⟩
    have hread : ∀ front digits, IsNumber digits → Opening front (digits ++ '-' :: var) →
        nodeOfVariable? ((front ++ digits) ++ '-' :: var) = some (front ++ digits, var) := by
      intro front digits hnumber hopening
      rw [List.append_assoc, nodeOfVariable?_append hopening,
        cutNumber?_eq_some_iff.2 ⟨hnumber, hvar, rfl⟩]
      rfl
    cases hnode with
    | any => exact (nodeOfVariable?_dot var).trans (by simp [hvar])
    | numbered hnumber => exact hread ['n', 'd'] _ hnumber (opening_number hnumber _)
    | dashed hnumber => exact hread ['n', 'd', '-'] _ hnumber (.dash _)

/-! ### Names as bytes -/

/-- Where the first character that satisfies `p` starts in the bytes of a text. -/
def placeOf? (p : Char → Bool) : List Char → Option Nat
  | [] => none
  | c :: rest => if p c then some 0 else (placeOf? p rest).map (c.utf8Size + ·)

/-- A difference, unless it is negative. -/
def minus? (a b : Nat) : Option Nat :=
  if b ≤ a then some (a - b) else none

/-- The node and the variable of a name that ends with `behind`, where the number has ended. -/
def variableByPlaces? (name behind : List Char) : Option (Option (List Char × List Char)) :=
  match afterStart? ['-'] behind with
  | none => some none
  | some var =>
    if var.isEmpty then some none
    else do
      let place ← minus? (← minus? (Utf8.size name) (Utf8.size var)) 1
      let (node, _) ← Utf8.cutAt? place name
      return some (node, var)

/-- The node and the variable of a name that ends with `rest`, where the number starts. -/
def numberByPlaces? (name rest : List Char) : Option (Option (List Char × List Char)) :=
  match placeOf? (!Char.isDigit ·) rest with
  | none | some 0 => some none
  | some place => do
    let (_, behind) ← Utf8.cutAt? place rest
    variableByPlaces? name behind

/-- The node and the variable of a name, found by places in its bytes. There is no answer at all if
one of these places lies outside its text or inside a character. -/
def nodeByPlaces? (name : List Char) : Option (Option (List Char × List Char)) :=
  match afterStart? ['n', 'd'] name with
  | none => some none
  | some rest =>
    match afterStart? ['.'] rest with
    | some var => some (if var.isEmpty then none else some (['n', 'd'], var))
    | none => numberByPlaces? name ((afterStart? ['-'] rest).getD rest)

theorem placeOf?_eq_none {p : Char → Bool} {s : List Char} (h : ∀ c ∈ s, p c = false) :
    placeOf? p s = none := by
  induction s with
  | nil => rfl
  | cons c rest ih =>
      rw [placeOf?, h c List.mem_cons_self, ih fun d hd => h d (List.mem_cons_of_mem c hd)]
      rfl

theorem placeOf?_append {p : Char → Bool} {a : List Char} {c : Char} (ha : ∀ x ∈ a, p x = false)
    (hc : p c = true) (b : List Char) : placeOf? p (a ++ c :: b) = some (Utf8.size a) := by
  induction a with
  | nil => rw [List.nil_append, placeOf?, if_pos hc, Utf8.size_nil]
  | cons d a ih =>
      rw [List.cons_append, placeOf?, ha d List.mem_cons_self,
        ih fun x hx => ha x (List.mem_cons_of_mem d hx), Utf8.size_cons]
      rfl

theorem minus?_add (a b : Nat) : minus? (a + b) b = some a := by
  unfold minus?
  rw [if_pos (Nat.le_add_left b a), Nat.add_sub_cancel]

theorem afterStart?_eq_none {pat s : List Char} (h : ∀ rest, s ≠ pat ++ rest) :
    afterStart? pat s = none := by
  rw [Option.eq_none_iff_forall_ne_some]
  exact fun rest hrest => h rest (afterStart?_eq_some_iff.1 hrest)

/-- The place before the dash lies between two characters. -/
theorem variableByPlaces?_eq (node behind : List Char) :
    variableByPlaces? (node ++ behind) behind = some ((afterDash? behind).map (node, ·)) := by
  unfold variableByPlaces?
  by_cases hdash : ∃ var, behind = '-' :: var
  · obtain ⟨var, rfl⟩ := hdash
    have hstart : afterStart? ['-'] ('-' :: var) = some var := rfl
    rw [hstart]
    cases var with
    | nil => rfl
    | cons c var =>
        have hsize : Utf8.size (node ++ '-' :: c :: var) =
            Utf8.size node + 1 + Utf8.size (c :: var) := by
          rw [Utf8.size_append, Utf8.size_cons, Nat.add_assoc]
          rfl
        show (do
          let place ← minus? (← minus? (Utf8.size (node ++ '-' :: c :: var))
            (Utf8.size (c :: var))) 1
          let (node, _) ← Utf8.cutAt? place (node ++ '-' :: c :: var)
          return some (node, c :: var)) = _
        rw [hsize, minus?_add, Option.bind_eq_bind, Option.bind_some, minus?_add,
          Option.bind_some, Utf8.cutAt?_append]
        rfl
  · have hnone : afterDash? behind = none := by
      rw [Option.eq_none_iff_forall_ne_some]
      exact fun var hvar => hdash ⟨var, (afterDash?_eq_some_iff.1 hvar).2⟩
    rw [afterStart?_eq_none fun rest heq => hdash ⟨rest, heq⟩, hnone]
    rfl

/-- The place behind the number lies between two characters. -/
theorem numberByPlaces?_eq (front rest : List Char) :
    numberByPlaces? (front ++ rest) rest =
      some ((cutNumber? rest).map fun (digits, var) => (front ++ digits, var)) := by
  have hdigit : ∀ d ∈ rest.takeWhile Char.isDigit, (!d.isDigit) = false := fun d hd => by
    rw [List.mem_takeWhile_imp hd]
    rfl
  have hbehind := List.head?_dropWhile_not Char.isDigit rest
  have hsplit := List.takeWhile_append_dropWhile (p := Char.isDigit) (l := rest)
  unfold numberByPlaces? cutNumber?
  revert hdigit hbehind hsplit
  generalize rest.takeWhile Char.isDigit = digits
  generalize rest.dropWhile Char.isDigit = behind
  rintro hdigit hbehind rfl
  cases behind with
  | nil =>
      rw [List.append_nil, placeOf?_eq_none hdigit]
      simp [afterDash?]
  | cons c after =>
      have hplace := placeOf?_append hdigit (p := (!Char.isDigit ·)) (c := c)
        (by simpa using hbehind) after
      rw [hplace]
      cases digits with
      | nil => rw [Utf8.size_nil]; rfl
      | cons d number =>
          have hpos := d.utf8Size_pos
          obtain ⟨n, hn⟩ : ∃ n, Utf8.size (d :: number) = n + 1 :=
            ⟨Utf8.size (d :: number) - 1, by rw [Utf8.size_cons]; omega⟩
          have hcut := Utf8.cutAt?_append (d :: number) (c :: after)
          rw [hn] at hcut ⊢
          show (do
            let (_, behind) ← Utf8.cutAt? (n + 1) (d :: number ++ c :: after)
            variableByPlaces? (front ++ (d :: number ++ c :: after)) behind) = _
          rw [hcut, ← List.append_assoc, if_neg (by simp), Option.map_map]
          exact variableByPlaces?_eq (front ++ d :: number) (c :: after)

theorem nodeByPlaces?_eq (name : List Char) : nodeByPlaces? name = some (nodeOfVariable? name) := by
  unfold nodeByPlaces?
  rcases name_cases name with hname | ⟨after, rfl⟩ | ⟨front, rest, hopening, rfl⟩
  · rw [afterStart?_eq_none hname, nodeOfVariable?_eq_none hname]
  · rw [nodeOfVariable?_dot]
    rfl
  · rw [nodeOfVariable?_append hopening, ← numberByPlaces?_eq]
    cases hopening with
    | dash => rfl
    | plain hdot hdash =>
        have hstart : afterStart? ['n', 'd'] (['n', 'd'] ++ rest) = some rest := rfl
        rw [hstart]
        dsimp only
        rw [afterStart?_eq_none hdot, afterStart?_eq_none hdash]
        rfl

/-- **Which names belong to a node.** A name is read as a node and a variable exactly if it is the
node, its separator and the variable, one after the other, and the variable is not empty. Found by
places in the bytes they are the same, and all these places lie between two characters of their
text. -/
theorem nodeOfVariable?_spelled (name : List Char) :
    (∀ node var, nodeOfVariable? name = some (node, var) ↔
      ∃ sep, IsNode sep node ∧ var ≠ [] ∧ name = node ++ sep :: var) ∧
    nodeByPlaces? name = some (nodeOfVariable? name) :=
  ⟨fun _ _ => nodeOfVariable?_eq_some_iff, nodeByPlaces?_eq name⟩

example : nodeOfVariable? "nd-12-été".toList = some ("nd-12".toList, "été".toList) := by decide

example : ∀ name ∈ ["nd", "nd.", "nd3", "nd12-", "nd--1-x", "nd١-x"],
    nodeOfVariable? name.toList = none := by decide

end FaultDrill
