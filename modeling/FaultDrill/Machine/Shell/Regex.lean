import FaultDrill.Machine.Shell.Pattern
import FaultDrill.Text.Decimal

/-!
# FaultDrill.Machine.Shell.Regex

Regular expressions of tools, in the basic and in the extended form. Of the matches that start
earliest the longest one counts. All places where a match can end are followed at once, and of those
that end at one place only the first is kept, so the time does not grow with the number of ways.
-/

namespace FaultDrill.Shell

open FaultDrill.Text

/-- A regular expression. -/
inductive Regex where
  | empty
  | any
  | literal (c : Char)
  | oneOf (negated : Bool) (members : List Pattern.Member)
  /-- The start of the text. -/
  | start
  /-- The end of the text. -/
  | finish
  /-- The edge of a word: its start, its end, or either. -/
  | edge (atStart atEnd : Bool)
  /-- A place that is no edge of a word. -/
  | inside
  | group (number : Nat) (r : Regex)
  /-- The text of a group. -/
  | again (number : Nat)
  | both (first second : Regex)
  | either (first second : Regex)
  | repeated (r : Regex) (min : Nat) (max : Option Nat)
  deriving Inhabited

namespace Regex

/-! ### Reading -/

/-- Why a text is no regular expression. -/
inductive Fault where
  | openBracket
  | openGroup
  | closeGroup
  | openInterval
  | badInterval
  | nothingToRepeat
  | badReference
  | trailingBackslash
  deriving DecidableEq

/-- The wording of a fault. -/
def Fault.message : Fault → String
  | .openBracket => "Unmatched [, [^, [:, [., or [="
  | .openGroup => "Unmatched ( or \\("
  | .closeGroup => "Unmatched ) or \\)"
  | .openInterval => "Unmatched \\\x7b"
  | .badInterval => "Invalid content of \\\x7b\\\x7d"
  | .nothingToRepeat => "Invalid preceding regular expression"
  | .badReference => "Invalid back reference"
  | .trailingBackslash => "Trailing backslash"

/-- What a text consists of, in either form. -/
inductive Token where
  | plain (c : Char)
  | any
  | oneOf (negated : Bool) (members : List Pattern.Member)
  | star
  | plus
  | optional
  | interval (min : Nat) (max : Option Nat)
  | opening
  | closing
  | bar
  | caret
  | dollar
  | reference (n : Nat)
  | special (r : Regex)

/-- The characters of words. -/
def wordMembers : List Pattern.Member :=
  [.named "alnum", .range '_' '_']

/-- The interval at the start of a text up to the closing mark, and what follows it. -/
def interval? (closing s : List Char) : Option (Nat × Option Nat × List Char) :=
  let low := s.takeWhile Char.isDigit
  let after := s.drop low.length
  let (high, after) : Option Nat × List Char := match after with
    | ',' :: rest =>
      let digits := rest.takeWhile Char.isDigit
      (if digits.isEmpty then none else some (Decimal.value 0 digits), rest.drop digits.length)
    | rest => (some (Decimal.value 0 low), rest)
  if low.isEmpty && !(s.head? = some ',') then none
  else if closing.isPrefixOf after then
    some (Decimal.value 0 low, high, after.drop closing.length)
  else none

/-- The tokens of a text. The flag says whether it is in the extended form. -/
def tokens (extended : Bool) : Nat → List Char → Except Fault (List Token)
  | 0, _ | _, [] => .ok []
  | fuel + 1, c :: rest => do
    match c with
    | '[' =>
      let (negated, inner) := match rest with
        | '^' :: inner => (true, inner)
        | inner => (false, inner)
      match Pattern.readMembers (inner.length + 1) false (inner.map (·, false)) with
      | some (members, left) =>
        return .oneOf negated members :: (← tokens extended fuel (left.map (·.1)))
      | none => throw .openBracket
    | '.' => return .any :: (← tokens extended fuel rest)
    | '*' => return .star :: (← tokens extended fuel rest)
    | '^' => return .caret :: (← tokens extended fuel rest)
    | '$' => return .dollar :: (← tokens extended fuel rest)
    | '\\' =>
      match rest with
      | [] => throw .trailingBackslash
      | d :: after =>
        let meaning : Option Token :=
          if d.isDigit && d ≠ '0' then some (.reference (d.toNat - '0'.toNat))
          else
            match d with
            | 'w' => some (.oneOf false wordMembers)
            | 'W' => some (.oneOf true wordMembers)
            | 's' => some (.oneOf false [.named "space"])
            | 'S' => some (.oneOf true [.named "space"])
            | 'b' => some (.special (.edge true true))
            | 'B' => some (.special .inside)
            | '<' => some (.special (.edge true false))
            | '>' => some (.special (.edge false true))
            | 'n' => some (.plain '\n')
            | 't' => some (.plain '\t')
            | '(' => if extended then none else some .opening
            | ')' => if extended then none else some .closing
            | '|' => if extended then none else some .bar
            | '+' => if extended then none else some .plus
            | '?' => if extended then none else some .optional
            | _ => none
        if d = '\x7b' && !extended then
          match interval? ['\\', '\x7d'] after with
          | some (low, high, left) =>
            return .interval low high :: (← tokens extended fuel left)
          | none => throw .badInterval
        else return meaning.getD (.plain d) :: (← tokens extended fuel after)
    | _ =>
      if extended then
        match c with
        | '(' => return .opening :: (← tokens extended fuel rest)
        | ')' => return .closing :: (← tokens extended fuel rest)
        | '|' => return .bar :: (← tokens extended fuel rest)
        | '+' => return .plus :: (← tokens extended fuel rest)
        | '?' => return .optional :: (← tokens extended fuel rest)
        | '\x7b' =>
          match interval? ['\x7d'] rest with
          | some (low, high, left) =>
            return .interval low high :: (← tokens extended fuel left)
          | none => return .plain c :: (← tokens extended fuel rest)
        | _ => return .plain c :: (← tokens extended fuel rest)
      else return .plain c :: (← tokens extended fuel rest)

/-- How often a token says that what stands before it is repeated. -/
def Token.times? : Token → Option (Nat × Option Nat)
  | .star => some (0, none)
  | .plus => some (1, none)
  | .optional => some (0, some 1)
  | .interval low high => some (low, high)
  | _ => none

/-- The text of a token that stands where nothing can be repeated. -/
def Token.character : Token → Char
  | .plain c => c
  | .star => '*'
  | .plus => '+'
  | .optional => '?'
  | .interval .. => '\x7b'
  | .caret => '^'
  | .dollar => '$'
  | _ => '.'

/-- What is read of a regular expression: the tokens that are left, and the number of groups. -/
abbrev Reading := StateT (List Token × Nat) (Except Fault)

/-- Applies the repetitions that come next. -/
def readTimes (r : Regex) : Nat → Reading Regex
  | 0 => return r
  | fuel + 1 => do
    let (ts, groups) ← get
    match ts with
    | t :: rest =>
      match t.times? with
      | some (low, high) =>
        set (rest, groups)
        readTimes (.repeated r low high) fuel
      | none => return r
    | [] => return r

/-- Reads alternatives. The flag says whether they stand in a group. -/
def readChoice (extended grouped : Bool) : Nat → Regex → Bool → Reading Regex
  | 0, read, _ => return read
  | fuel + 1, read, atStart => do
    let (ts, groups) ← get
    let goOn := fun (r : Regex) => do
      let r ← readTimes r fuel
      readChoice extended grouped fuel (.both read r) false
    match ts with
    | [] => return read
    | t :: rest =>
      set (rest, groups)
      match t with
      | .closing =>
        if grouped then
          set (ts, groups)
          return read
        else if extended then goOn (.literal ')')
        else throw .closeGroup
      | .bar => return .either read (← readChoice extended grouped fuel .empty true)
      | .opening =>
        set (rest, groups + 1)
        let r ← readChoice extended true fuel .empty true
        match (← get).1 with
        | .closing :: left =>
          modify fun (_, n) => (left, n)
          let r ← readTimes (.group (groups + 1) r) fuel
          readChoice extended grouped fuel (.both read r) false
        | _ => throw .openGroup
      | .any => goOn .any
      | .oneOf negated members => goOn (.oneOf negated members)
      | .special r => goOn r
      | .reference n => if groups < n then throw .badReference else goOn (.again n)
      | .caret =>
        if extended then goOn .start
        else if atStart then readChoice extended grouped fuel (.both read .start) true
        else goOn (.literal '^')
      | .dollar =>
        let atEnd := match rest with
          | [] | .bar :: _ => true
          | .closing :: _ => grouped
          | _ => false
        if extended || atEnd then goOn .finish else goOn (.literal '$')
      | t =>
        -- a repetition with nothing before it
        if t.times?.isSome && extended && !(t matches .star) then throw .nothingToRepeat
        goOn (.literal t.character)

/-- The regular expression of a text. -/
def ofText (extended : Bool) (s : List Char) : Except Fault Regex := do
  let ts ← tokens extended (s.length + 1) s
  let (r, _) ← (readChoice extended false (4 * ts.length + 4) .empty true).run (ts, 0)
  return r

/-- The regular expression that stands for a text. -/
def ofLiteral (s : List Char) : Regex :=
  s.foldr (fun c r => .both (.literal c) r) .empty

/-! ### Matching -/

/-- A place in a text, with what groups have matched before it. -/
structure Place where
  before : Option Char
  rest : List Char
  groups : List (Nat × List Char) := []

/-- The places that differ in what is left of the text, each the first of its kind. -/
def distinct (places : List Place) : List Place :=
  places.foldl (fun kept p =>
    if kept.any fun q => q.rest.length = p.rest.length then kept else kept ++ [p]) []

/-- Whether a character belongs to a word. -/
def isWordChar (c : Option Char) : Bool :=
  (c.map fun c => c.isAlphanum || c = '_').getD false

/-- The place after a character that satisfies a condition. -/
def Place.step (p : Place) (holds : Char → Bool) : List Place :=
  match p.rest with
  | c :: rest => if holds c then [{ p with before := some c, rest := rest }] else []
  | [] => []

/-- Passes over a text. -/
def Place.skip (same : Char → Char → Bool) (p : Place) : List Char → List Place
  | [] => [p]
  | c :: text =>
    match p.rest with
    | d :: rest => if same c d then skip same { p with before := some d, rest := rest } text else []
    | [] => []

/-- The places that rounds of a step lead to, those of more rounds first. -/
def rounds (step : Place → List Place) (low : Nat) (high : Option Nat) :
    Nat → Nat → List Place → List Place
  | 0, _, _ => []
  | fuel + 1, count, places =>
    let here := if low ≤ count then places else []
    if places.isEmpty || high = some count then here
    else
      let next := distinct (places.flatMap fun p =>
        (step p).filter fun q => count < low || q.rest.length < p.rest.length)
      rounds step low high fuel (count + 1) next ++ here

/-- The places where a match can end, the preferred ones first. The flag says whether the case of
letters makes no difference. -/
def ends (folded : Bool) : Regex → Place → List Place
  | .empty, p => [p]
  | .any, p => p.step fun _ => true
  | .literal c, p => p.step fun d => c = d || folded && c.toLower = d.toLower
  | .oneOf negated members, p => p.step fun c =>
    let holds := fun c => members.any fun m => m.holds c
    (holds c || folded && (holds c.toLower || holds c.toUpper)) ≠ negated
  | .start, p => if p.before.isNone then [p] else []
  | .finish, p => if p.rest.isEmpty then [p] else []
  | .edge atStart atEnd, p =>
    let before := isWordChar p.before
    let after := isWordChar p.rest.head?
    if (atStart && !before && after) || (atEnd && before && !after) then [p] else []
  | .inside, p => if isWordChar p.before = isWordChar p.rest.head? then [p] else []
  | .group n r, p =>
    (ends folded r p).map fun q =>
      let text := p.rest.take (p.rest.length - q.rest.length)
      { q with groups := (n, text) :: q.groups.filter (·.1 ≠ n) }
  | .again n, p =>
    match p.groups.lookup n with
    | some text => p.skip (fun c d => c = d || folded && c.toLower = d.toLower) text
    | none => []
  | .both first second, p => distinct ((ends folded first p).flatMap (ends folded second))
  | .either first second, p => distinct (ends folded first p ++ ends folded second p)
  | .repeated r low high, p =>
    distinct (rounds (ends folded r) low high (p.rest.length + low + 2) 0 [p])

/-- A condition on a match, from the place where it starts and the place where it ends. -/
abbrev Condition := Place → Place → Bool

/-- The longest match at a place. -/
def longest? (folded : Bool) (ok : Condition) (r : Regex) (p : Place) : Option Place :=
  ((ends folded r p).filter (ok p)).foldl (fun best q => match best with
    | some b => if q.rest.length < b.rest.length then some q else some b
    | none => some q) none

/-- A match in a text. -/
structure Found where
  /-- What stands before it, from where the search has started. -/
  before : List Char
  text : List Char
  /-- Where it ends. -/
  after : Place

/-- The first match at a place or after it. -/
def search? (folded : Bool) (ok : Condition) (r : Regex) (passed : List Char) (last : Option Char) :
    List Char → Option Found
  | [] => (longest? folded ok r ⟨last, [], []⟩).map fun p => ⟨passed.reverse, [], p⟩
  | c :: rest =>
    match longest? folded ok r ⟨last, c :: rest, []⟩ with
    | some p => some ⟨passed.reverse, (c :: rest).take (rest.length + 1 - p.rest.length), p⟩
    | none => search? folded ok r (c :: passed) (some c) rest

/-- Any match will do. -/
def anywhere : Condition := fun _ _ => true

/-- The match is no part of a word. -/
def wholeWord : Condition := fun p q =>
  !isWordChar p.before && !isWordChar q.rest.head?

/-- The match is the whole text. -/
def wholeText : Condition := fun p q => p.before.isNone && q.rest.isEmpty

/-- A piece of a text in which matches have been found. -/
inductive Piece where
  | char (c : Char)
  | found (text : List Char) (groups : List (Nat × List Char))

/-- A text with all its matches that do not overlap. The flag says whether a match ends here:
another one of no characters is none then. -/
def pieces (folded : Bool) (ok : Condition) (r : Regex) :
    Nat → Option Char → Bool → List Char → List Piece
  | 0, _, _, s => s.map .char
  | fuel + 1, last, afterMatch, s =>
    let here := longest? folded ok r ⟨last, s, []⟩
    let found := match here with
      | some q => some (s.take (s.length - q.rest.length), q)
      | none => none
    match found, s with
    | some ([], q), _ =>
      let these := if afterMatch then [] else [Piece.found [] q.groups]
      match s with
      | [] => these
      | c :: rest => these ++ .char c :: pieces folded ok r fuel (some c) false rest
    | some (text, q), _ => .found text q.groups :: pieces folded ok r fuel q.before true q.rest
    | none, [] => []
    | none, c :: rest => .char c :: pieces folded ok r fuel (some c) false rest

/-- All matches of a text in their order. -/
def allMatches (folded : Bool) (ok : Condition) (r : Regex) (s : List Char) : List Piece :=
  pieces folded ok r (s.length + 1) none false s

end Regex

end FaultDrill.Shell
