/-!
# FaultDrill.Machine.Shell.Pattern

Patterns of names: `*` stands for any characters, `?` for one, and brackets for one of a set. A
pattern is matched by following, for each of its items, everything that can be left of the text, so
that the time for it grows with the product of the two lengths only.
-/

namespace FaultDrill.Shell.Pattern

/-- What stands in the brackets of a pattern. -/
inductive Member where
  | range (first last : Char)
  /-- A class of characters by its name. -/
  | named (name : String)
  deriving DecidableEq, Repr

/-- An item of a pattern. -/
inductive Item where
  /-- Any number of characters. -/
  | any
  /-- One character. -/
  | one
  | literal (c : Char)
  | set (negated : Bool) (members : List Member)
  deriving DecidableEq, Repr

/-! ### Classes of characters -/

/-- Whether a character belongs to a class. -/
def inClass (name : String) (c : Char) : Bool :=
  match name with
  | "alpha" => c.isAlpha
  | "digit" => c.isDigit
  | "alnum" => c.isAlphanum
  | "upper" => c.isUpper
  | "lower" => c.isLower
  | "space" => [' ', '\t', '\n', '\x0b', '\x0c', '\r'].contains c
  | "blank" => c = ' ' || c = '\t'
  | "punct" => 32 < c.toNat && c.toNat < 127 && !c.isAlphanum
  | "print" => 32 ≤ c.toNat && c.toNat < 127
  | "graph" => 32 < c.toNat && c.toNat < 127
  | "cntrl" => c.toNat < 32 || c.toNat = 127
  | "xdigit" => c.isDigit || ('a' ≤ c && c ≤ 'f') || ('A' ≤ c && c ≤ 'F')
  | _ => false

/-- Whether a character is one that stands in brackets. -/
def Member.holds (c : Char) : Member → Bool
  | .range first last => first ≤ c && c ≤ last
  | .named name => inClass name c

/-- The name of a class up to its end, and what follows it. -/
def className? (s : List Char) : Option (String × List Char) :=
  let name := s.takeWhile Char.isAlpha
  match s.drop name.length with
  | ':' :: ']' :: rest => some (String.ofList name, rest)
  | _ => none

/-! ### Reading -/

/-- A character of a pattern, and whether it stands in quotation marks. -/
abbrev Mark := Char × Bool

/-- What stands in brackets up to the closing one, and what follows it. The flag says whether a
member has been read. -/
def readMembers : Nat → Bool → List Mark → Option (List Member × List Mark)
  | 0, _, _ | _, _, [] => none
  | fuel + 1, begun, (c, quoted) :: rest =>
    if c = ']' && !quoted && begun then some ([], rest)
    else
      let named : Option (String × List Char) := match c, quoted, rest with
        | '[', false, (':', false) :: inner => className? (inner.map Prod.fst)
        | _, _, _ => none
      match named with
      | some (name, after) => do
        let (members, rest) ← readMembers fuel true (rest.drop (rest.length - after.length))
        return (.named name :: members, rest)
      | none =>
        match rest with
        | ('-', false) :: (d, dQuoted) :: after =>
          if d = ']' && !dQuoted then do
            let (members, rest) ← readMembers fuel true rest
            return (.range c c :: members, rest)
          else do
            let (members, rest) ← readMembers fuel true after
            return (.range c d :: members, rest)
        | _ => do
          let (members, rest) ← readMembers fuel true rest
          return (.range c c :: members, rest)

/-- The items of a pattern. An opening bracket without a closing one stands for itself. -/
def read : Nat → List Mark → List Item
  | 0, _ | _, [] => []
  | fuel + 1, (c, quoted) :: rest =>
    if quoted then .literal c :: read fuel rest
    else
      match c with
      | '*' => .any :: read fuel rest
      | '?' => .one :: read fuel rest
      | '[' =>
        let (negated, inner) := match rest with
          | ('!', false) :: inner | ('^', false) :: inner => (true, inner)
          | inner => (false, inner)
        match readMembers (inner.length + 1) false inner with
        | some (members, after) => .set negated members :: read fuel after
        | none => .literal c :: read fuel rest
      | c => .literal c :: read fuel rest

/-- The pattern that characters spell. -/
def ofMarks (marks : List Mark) : List Item :=
  read (marks.length + 1) marks

/-- Whether characters spell more than a plain text. -/
def isSpecial (marks : List Mark) : Bool :=
  (ofMarks marks).any fun
    | .literal _ => false
    | _ => true

/-! ### Matching -/

/-- Whether an item can stand for a character. -/
def Item.holds (c : Char) : Item → Bool
  | .any | .one => true
  | .literal d => c = d
  | .set negated members => (members.any (·.holds c)) ≠ negated

/-- All that can be left of a text after characters have been taken from its start. -/
def tails : List Char → List (List Char)
  | [] => [[]]
  | c :: rest => (c :: rest) :: tails rest

/-- What an item can leave of the given rests of one text, which stand in descending length. -/
def Item.leave (rests : List (List Char)) : Item → List (List Char)
  | .any => (rests.head?.map tails).getD []
  | item => rests.filterMap fun
    | c :: rest => if item.holds c then some rest else none
    | [] => none

/-- What a pattern can leave of a text whose start it matches, in descending length. -/
def rests (pattern : List Item) (s : List Char) : List (List Char) :=
  pattern.foldl Item.leave [s]

/-- Whether a pattern matches a whole text. -/
def holds (pattern : List Item) (s : List Char) : Bool :=
  (rests pattern s).any List.isEmpty

/-- A text without what a pattern matches at its start, if it matches anything there. -/
def trimStart (longest : Bool) (pattern : List Item) (s : List Char) : List Char :=
  let all := rests pattern s
  ((if longest then all.getLast? else all.head?)).getD s

/-- A text without what a pattern matches at its end, if it matches anything there. -/
def trimEnd (longest : Bool) (pattern : List Item) (s : List Char) : List Char :=
  let ends := (tails s).filter (holds pattern)
  match (if longest then ends.head? else ends.getLast?) with
  | some e => s.take (s.length - e.length)
  | none => s

end FaultDrill.Shell.Pattern
