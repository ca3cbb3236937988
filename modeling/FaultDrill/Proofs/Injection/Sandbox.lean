import FaultDrill.Files.Path
import FaultDrill.Injection.Site

/-!
# FaultDrill.Proofs.Injection.Sandbox

A small site that is all in memory. It shows that what is asked of sites can be had, failures
included: each signal, each change of the network and each write answers as the next word of a
script says, and a write that does not succeed leaves half of its bytes behind.
-/

namespace FaultDrill

/-- What tells files apart: the components of their paths. -/
abbrev FileKey := List (Nat × String)

/-- A word of the script of a sandbox. -/
inductive Reply where
  | done
  | failed
  /-- The deadline comes first. -/
  | late
  deriving DecidableEq, Repr

/-- The state of a site in memory. -/
structure Sandbox where
  clock : Nat := 0
  /-- What the next operations come to. When the script is over, all succeed. -/
  replies : List Reply := []
  files : List (FileKey × Bytes) := []
  /-- The connections that are cut, once for each time. -/
  rules : List (Endpoint × Endpoint) := []
  deriving DecidableEq

namespace Sandbox

/-- What the next operation comes to. -/
def reply (s : Sandbox) : Reply :=
  s.replies.headD .done

/-- The sandbox after a reply. -/
def next (s : Sandbox) : Sandbox :=
  { s with replies := s.replies.tail }

/-- The content of a file. -/
def content (s : Sandbox) (key : FileKey) : Option Bytes :=
  s.files.lookup key

/-- The sandbox with a file. -/
def put (s : Sandbox) (key : FileKey) (bytes : Bytes) : Sandbox :=
  { s with files := (key, bytes) :: s.files }

/-- The answer of an operation that has come to a reply. -/
def answer {ε : Type} (failure : ε) : Reply → Option (Except ε Unit)
  | .done => some (.ok ())
  | .failed => some (.error failure)
  | .late => none

/-- An operation that changes the state if it succeeds. -/
def change (f : Sandbox → Sandbox) (s : Sandbox) : Option (Except InjectionError Unit) × Sandbox :=
  (answer (.actionFailed "sandbox" "operation" "as scripted") s.reply,
    if s.reply = .done then f s.next else s.next)

theorem change_of_ok {f : Sandbox → Sandbox} {s : Sandbox}
    (h : (change f s).1 = some (.ok ())) : (change f s).2 = f s.next := by
  unfold change at h ⊢
  cases hreply : s.reply with
  | done => rfl
  | failed => simp [hreply, answer] at h
  | late => simp [hreply, answer] at h

theorem change_of_not_ok {f : Sandbox → Sandbox} {s : Sandbox}
    (h : (change f s).1 ≠ some (.ok ())) : (change f s).2 = s.next := by
  unfold change at h ⊢
  cases hreply : s.reply with
  | done => simp [hreply, answer] at h
  | failed => rfl
  | late => rfl

/-- What neither a reply nor a change alters is not altered by trying the change. -/
theorem change_frame {φ : Type} {view : Sandbox → φ} {f : Sandbox → Sandbox}
    (hnext : ∀ s, view s.next = view s) (hf : ∀ s, view (f s) = view s) (s : Sandbox) :
    view (change f s).2 = view s := by
  by_cases hok : (change f s).1 = some (.ok ())
  · rw [change_of_ok hok]
    exact (hf s.next).trans (hnext s)
  · rw [change_of_not_ok hok]
    exact hnext s

/-- The sandbox after a write, which half happens if it does not succeed. -/
def written (path : String) (bytes : Bytes) (s : Sandbox) : Sandbox :=
  s.next.put (Path.components path)
    (if s.reply = .done then bytes else bytes.take (bytes.length / 2))

/-- What reading a file gives. -/
def found (path : String) (s : Sandbox) : Except FileError Bytes :=
  match s.content (Path.components path) with
  | some bytes => .ok bytes
  | none => .error .notFound

/-- The sandbox as a site. No process lives in it. -/
def site : Site Sandbox where
  now s := s.clock
  sleep n s := { s with clock := s.clock + n }
  signal _ _ _ := change id
  isAlive _ s := (false, s)
  block _ a b := change fun s => { s with rules := (a, b) :: s.rules }
  unblock _ a b := change fun s => { s with rules := s.rules.erase (a, b) }
  sizeBy _ path s := (some ((s.found path).map List.length), s)
  readBy _ path s := (some (s.found path), s)
  writeBy _ path bytes s := (answer .noSpace s.reply, s.written path bytes)
  read path s := (s.found path, s)
  write path bytes s :=
    (if s.reply = .done then .ok () else .error .noSpace, s.written path bytes)
  add_le_now_sleep _ _ := Nat.le_refl _
  now_le_now_isAlive _ _ := Nat.le_refl _

end Sandbox

end FaultDrill
