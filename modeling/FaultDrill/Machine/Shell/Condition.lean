import FaultDrill.Machine.Shell.Number
import FaultDrill.Machine.Shell.State

/-!
# FaultDrill.Machine.Shell.Condition

The conditions of `test`: on texts, numbers and files. Which words are operators depends on the
words that follow them, and with few words a text is never taken for an operator that the number of
words rules out.
-/

namespace FaultDrill.Shell.Condition

/-- What a word can be, other than an operand. -/
inductive Kind where
  | unary
  | binary
  | negation
  | conjunction
  | disjunction
  | opening
  | closing
  deriving DecidableEq

/-- What a word is if it is an operator. -/
def kind? (s : String) : Option Kind :=
  if ["-r", "-w", "-x", "-e", "-f", "-d", "-c", "-b", "-p", "-u", "-g", "-k", "-s", "-t", "-z",
    "-n", "-h", "-O", "-G", "-L", "-S"].contains s then some .unary
  else if ["=", "!=", "<", ">", "-eq", "-ne", "-ge", "-gt", "-le", "-lt", "-nt", "-ot",
    "-ef"].contains s then some .binary
  else
    match s with
    | "!" => some .negation
    | "-a" => some .conjunction
    | "-o" => some .disjunction
    | "(" => some .opening
    | ")" => some .closing
    | _ => none

/-- The role of a word. -/
inductive Role where
  | none
  | operand
  | operator (k : Kind)
  deriving DecidableEq

/-- Whether a word that could be a unary operator is an operand, from the words after it. -/
def isOperand : List String → Bool
  | [] => true
  | [_] => false
  | next :: _ => kind? next = some .binary

/-- The role of the first of some words. -/
def role : List String → Role
  | [] => .none
  | w :: rest =>
    match kind? w with
    | none => .operand
    | some k =>
      if k = .unary && isOperand rest then .operand
      else if k = .opening && rest.isEmpty then .operand
      else .operator k

/-! ### Values -/

/-- Whether a condition on a file or a text holds. -/
def unary (s : State) (operator operand : String) : Except String Bool :=
  match operator with
  | "-z" => .ok (operand = "")
  | "-n" => .ok (operand ≠ "")
  | "-t" =>
    match Number.whole? operand with
    | some _ => .ok false
    | none => .error s!"Illegal number: {operand}"
  | _ =>
    .ok (match s.find operand, operator with
      | _, "-h" | _, "-L" => (s.findOwn operand matches .ok (.link _, _))
      | .error _, _ => false
      | .ok _, "-e" | .ok _, "-r" | .ok _, "-w" | .ok _, "-O" | .ok _, "-G" => true
      | .ok entry, "-f" => (entry matches .file _ | .program _)
      | .ok entry, "-d" => (entry matches .directory)
      | .ok entry, "-c" => (entry matches .device _)
      | .ok entry, "-s" =>
        match entry with
        | .file content => !content.isEmpty
        | .device _ => false
        | _ => true
      | .ok entry, "-x" =>
        match entry with
        | .directory => true
        | _ =>
          match s.files.place (s.pathOf operand) with
          | .ok place => s.files.mayRun place
          | .error _ => false
      | .ok _, _ => false)

/-- Whether a condition on two operands holds. -/
def binary (s : State) (first operator second : String) : Except String Bool :=
  let compare := fun (holds : Int → Int → Bool) =>
    match Number.whole? first, Number.whole? second with
    | none, _ => Except.error s!"Illegal number: {first}"
    | _, none => .error s!"Illegal number: {second}"
    | some a, some b => .ok (holds a b)
  match operator with
  | "=" => .ok (first = second)
  | "!=" => .ok (first ≠ second)
  | "<" => .ok (first < second)
  | ">" => .ok (second < first)
  | "-eq" => compare fun a b => a = b
  | "-ne" => compare fun a b => a ≠ b
  | "-lt" => compare fun a b => a < b
  | "-le" => compare fun a b => a ≤ b
  | "-gt" => compare fun a b => b < a
  | "-ge" => compare fun a b => b ≤ a
  | "-ef" =>
    .ok (match s.find first, s.find second with
      | .ok _, .ok _ =>
        match s.files.place (s.pathOf first), s.files.place (s.pathOf second) with
        | .ok a, .ok b => a = b
        | _, _ => false
      | _, _ => false)
  | _ => .ok false

/-- The wording of an error at a word. -/
def syntaxError (w message : String) : String :=
  if w = "" then message else s!"{w}: {message}"

/-! ### Evaluation -/

mutual

/-- A condition without other conditions around it. Gives what is left after its last word, with
that word first. -/
def primary (s : State) (fuel : Nat) (words : List String) : Except String (Bool × List String) :=
  match fuel with
  | 0 => .error "argument expected"
  | fuel + 1 =>
    match role words, words with
    | .none, _ | _, [] => .ok (false, words)
    | .operator .opening, _ :: rest =>
      if role rest = .operator .closing then .ok (false, rest)
      else do
        let (holds, left) ← disjunction s fuel rest
        if role (left.drop 1) = .operator .closing then return (holds, left.drop 1)
        else throw "closing paren expected"
    | .operator .unary, w :: rest =>
      match rest with
      | [] => .error (syntaxError w "argument expected")
      | operand :: _ => do return (← unary s w operand, rest)
    | _, w :: rest =>
      match role rest, rest with
      | .operator .binary, operator :: after =>
        match after with
        | [] => .error (syntaxError operator "argument expected")
        | second :: _ => do return (← binary s w operator second, after)
      | _, _ => .ok (w ≠ "", w :: rest)
  termination_by structural fuel

/-- A condition with any number of negations before it. -/
def negation (s : State) (fuel : Nat) (words : List String) : Except String (Bool × List String) :=
  match fuel with
  | 0 => .error "argument expected"
  | fuel + 1 =>
    if role words = .operator .negation then do
      let (holds, left) ←
        if (words.drop 1).isEmpty then pure (false, words) else negation s fuel (words.drop 1)
      return (!holds, left)
    else primary s fuel words
  termination_by structural fuel

/-- Conditions that must all hold. -/
def conjunction (s : State) (fuel : Nat) (words : List String) :
    Except String (Bool × List String) :=
  match fuel with
  | 0 => .error "argument expected"
  | fuel + 1 => do
    let (holds, left) ← negation s fuel words
    if role (left.drop 1) = .operator .conjunction then
      let (others, left) ← conjunction s fuel (left.drop 2)
      return (holds && others, left)
    else return (holds, left)
  termination_by structural fuel

/-- Conditions of which one must hold. -/
def disjunction (s : State) (fuel : Nat) (words : List String) :
    Except String (Bool × List String) :=
  match fuel with
  | 0 => .error "argument expected"
  | fuel + 1 => do
    let (holds, left) ← conjunction s fuel words
    if role (left.drop 1) = .operator .disjunction then
      let (others, left) ← disjunction s fuel (left.drop 2)
      return (holds || others, left)
    else return (holds, left)
  termination_by structural fuel

end

/-- Whether words spell a condition that holds. -/
def evaluate (s : State) (words : List String) : Except String Bool := do
  let (holds, left) ← disjunction s (4 * words.length + 8) words
  match left with
  | w :: _ :: _ => throw (syntaxError w "unexpected operator")
  | _ => return holds

/-- Whether the condition of words holds. Of three or four words, a negation at the start and
parentheses around them count before all else, unless the second of three is an operator. -/
def holds (s : State) (words : List String) : Except String Bool :=
  ofWords 3 words
where
  ofWords : Nat → List String → Except String Bool
    | _, [] => .ok false
    | 0, words => evaluate s words
    | fuel + 1, words => do
      let special := words.length = 4 ||
        words.length = 3 && (words[1]?.bind kind?) ≠ some .binary
      match special, words with
      | false, [a, operator, b] => binary s a operator b
      | true, "(" :: rest =>
        if rest.getLast? = some ")" then evaluate s rest.dropLast else evaluate s words
      | true, "!" :: rest => return !(← ofWords fuel rest)
      | _, words => evaluate s words

end FaultDrill.Shell.Condition
