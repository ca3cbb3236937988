import FaultDrill.Machine.Shell.Basic
import FaultDrill.Machine.Shell.Number

/-!
# FaultDrill.Machine.Shell.Arithmetic

The expressions of scripts: words of sixty-four bits with a sign, the usual operators with the usual
ranks, and names, which stand for the numbers that their values denote and can be given new ones.
What is not evaluated because of a condition must still be an expression.
-/

namespace FaultDrill.Shell.Arithmetic

/-- What an expression consists of. -/
inductive Token where
  | number (n : Int64)
  | name (s : String)
  | operator (s : String)
  /-- A character that has no meaning. -/
  | stray
  deriving DecidableEq

/-- Why an expression has no value. -/
inductive Fault where
  | divisionByZero
  | wantsPrimary
  | wantsEnd
  | wantsParenthesis
  | wantsColon
  | illegalNumber (s : String)
  | readOnly (name : String)
  deriving DecidableEq

/-- The wording of a fault. -/
def Fault.message (expression : String) : Fault → String
  | .divisionByZero => s!"arithmetic expression: division by zero: \"{expression}\""
  | .wantsPrimary => s!"arithmetic expression: expecting primary: \"{expression}\""
  | .wantsEnd => s!"arithmetic expression: expecting EOF: \"{expression}\""
  | .wantsParenthesis => s!"arithmetic expression: expecting ')': \"{expression}\""
  | .wantsColon => s!"arithmetic expression: expecting ':': \"{expression}\""
  | .illegalNumber s => s!"Illegal number: {s}"
  | .readOnly name => s!"{name}: is read only"

/-! ### Tokens -/

/-- The operators, longer ones before those that they start with. -/
def operators : List String :=
  ["<<=", ">>=", "<<", ">>", "<=", ">=", "==", "!=", "&&", "||", "+=", "-=", "*=", "/=", "%=", "&=",
    "|=", "^=", "=", "<", ">", "&", "|", "^", "!", "~", "?", ":", "(", ")", "*", "/", "%", "+", "-"]

/-- The tokens of an expression. -/
def tokens : Nat → List Char → List Token
  | 0, _ | _, [] => []
  | fuel + 1, c :: rest =>
    if c = ' ' || c = '\t' || c = '\n' then tokens fuel rest
    else if c.isDigit then
      let n := Number.scan true (c :: rest)
      .number (Int64.ofInt n.value) :: tokens fuel n.rest
    else if startsName c then
      .name (String.ofList ((c :: rest).takeWhile isNameChar)) ::
        tokens fuel (rest.dropWhile isNameChar)
    else
      match operators.find? fun o => o.toList.isPrefixOf (c :: rest) with
      | some o => .operator o :: tokens fuel ((c :: rest).drop o.length)
      | none => .stray :: tokens fuel rest

/-! ### Operators -/

/-- The number that a truth value is. -/
def ofBool (b : Bool) : Int64 :=
  if b then 1 else 0

/-- The rank of an operator between two numbers. Lower ranks bind closer. -/
def rank? : String → Option Nat
  | "*" | "/" | "%" => some 0
  | "+" | "-" => some 1
  | "<<" | ">>" => some 2
  | "<" | "<=" | ">" | ">=" => some 3
  | "==" | "!=" => some 4
  | "&" => some 5
  | "^" => some 6
  | "|" => some 7
  | _ => none

/-- The value of an operator on two numbers. Nothing is divided by zero. -/
def combine (operator : String) (a b : Int64) : Except Fault Int64 :=
  match operator with
  | "*" => .ok (a * b)
  | "/" => if b = 0 then .error .divisionByZero else .ok (a / b)
  | "%" => if b = 0 then .error .divisionByZero else .ok (a % b)
  | "+" => .ok (a + b)
  | "-" => .ok (a - b)
  | "<<" => .ok (a <<< b)
  | ">>" => .ok (a >>> b)
  | "<" => .ok (ofBool (a < b))
  | "<=" => .ok (ofBool (a ≤ b))
  | ">" => .ok (ofBool (b < a))
  | ">=" => .ok (ofBool (b ≤ a))
  | "==" => .ok (ofBool (a = b))
  | "!=" => .ok (ofBool (a ≠ b))
  | "&" => .ok (a &&& b)
  | "^" => .ok (a ^^^ b)
  | "|" => .ok (a ||| b)
  | _ => .error .wantsPrimary

/-- The operator that an assignment applies before it assigns. There is none in a plain one. -/
def assigning? (s : String) : Option (Option String) :=
  match s.toList.reverse with
  | '=' :: o =>
    let o := String.ofList o.reverse
    if o = "" then some none else if (rank? o).isSome && o ≠ "=" then some (some o) else none
  | _ => none

/-! ### Evaluation -/

/-- How the names of an expression are looked up and given values. -/
structure Names (σ : Type) where
  value : σ → String → String
  assign? : σ → String → String → Option σ

/-- An evaluation: the tokens that remain, and the values of names. -/
abbrev Evaluation (σ : Type) := StateT (List Token × σ) (Except Fault)

section

variable {σ : Type} (names : Names σ)

/-- The next token. -/
def next? : Evaluation σ (Option Token) := do
  return (← get).1.head?

/-- Passes over the next token. -/
def skip : Evaluation σ Unit :=
  modify fun (tokens, s) => (tokens.drop 1, s)

/-- Passes over an operator if it is the next token. -/
def accept (o : String) : Evaluation σ Bool := do
  if (← next?) = some (.operator o) then
    skip
    return true
  else return false

/-- The number that the value of a name denotes. -/
def numberOf (name : String) : Evaluation σ Int64 := do
  let text := names.value (← get).2 name
  let n := Number.scan true text.toList
  if n.isCut || !(n.rest.all Number.isBlank) then throw (.illegalNumber text)
  return Int64.ofInt n.value

/-- Gives a name a value. -/
def setNumber (name : String) (n : Int64) : Evaluation σ Unit := do
  let (tokens, s) ← get
  match names.assign? s name (toString n.toInt) with
  | some s => set (tokens, s)
  | none => throw (.readOnly name)

mutual

/-- A number, a name, an expression in parentheses, or one of these with signs before it. -/
def primary (fuel : Nat) (idle : Bool) : Evaluation σ Int64 :=
  match fuel with
  | 0 => throw .wantsPrimary
  | fuel + 1 => do
    let t ← next?
    skip
    match t with
    | some (.number n) => return n
    | some (.name s) => if idle then return 0 else numberOf names s
    | some (.operator "(") =>
      let n ← assignment fuel idle
      if ← accept ")" then return n else throw .wantsParenthesis
    | some (.operator "+") => primary fuel idle
    | some (.operator "-") => return -(← primary fuel idle)
    | some (.operator "!") => return ofBool ((← primary fuel idle) = 0)
    | some (.operator "~") => return ~~~(← primary fuel idle)
    | _ => throw .wantsPrimary
  termination_by structural fuel

/-- What follows a number among operators of at most some rank, the nearer ones first. -/
def chain (fuel : Nat) (idle : Bool) (maxRank : Nat) (a : Int64) : Evaluation σ Int64 :=
  match fuel with
  | 0 => throw .wantsPrimary
  | fuel + 1 => do
    match ← next? with
    | some (.operator o) =>
      match rank? o with
      | some rank =>
        if maxRank < rank then return a
        else
          skip
          let b ← primary fuel idle
          let b ← if rank = 0 then pure b else chain fuel idle (rank - 1) b
          chain fuel idle maxRank (← if idle then pure b else combine o a b)
      | none => return a
    | _ => return a
  termination_by structural fuel

/-- Numbers with `&&` between them. -/
def conjunction (fuel : Nat) (idle : Bool) : Evaluation σ Int64 :=
  match fuel with
  | 0 => throw .wantsPrimary
  | fuel + 1 => do
    let a ← chain fuel idle 7 (← primary fuel idle)
    if ← accept "&&" then
      let b ← conjunction fuel (idle || a = 0)
      return ofBool (a ≠ 0 && b ≠ 0)
    else return a
  termination_by structural fuel

/-- Numbers with `||` between them. -/
def disjunction (fuel : Nat) (idle : Bool) : Evaluation σ Int64 :=
  match fuel with
  | 0 => throw .wantsPrimary
  | fuel + 1 => do
    let a ← conjunction fuel idle
    if ← accept "||" then
      let b ← disjunction fuel (idle || a ≠ 0)
      return ofBool (a ≠ 0 || b ≠ 0)
    else return a
  termination_by structural fuel

/-- A choice between two numbers. -/
def conditional (fuel : Nat) (idle : Bool) : Evaluation σ Int64 :=
  match fuel with
  | 0 => throw .wantsPrimary
  | fuel + 1 => do
    let a ← disjunction fuel idle
    if ← accept "?" then
      let b ← assignment fuel (idle || a = 0)
      if !(← accept ":") then throw .wantsColon
      let c ← conditional fuel (idle || a ≠ 0)
      return if a ≠ 0 then b else c
    else return a
  termination_by structural fuel

/-- A number, which may become the value of a name. -/
def assignment (fuel : Nat) (idle : Bool) : Evaluation σ Int64 :=
  match fuel with
  | 0 => throw .wantsPrimary
  | fuel + 1 => do
    match (← get).1 with
    | .name s :: .operator o :: rest =>
      match assigning? o with
      | some operator? =>
        modify fun (_, s) => (rest, s)
        let n ← assignment fuel idle
        if idle then return n
        let n ← match operator? with
          | some operator => combine operator (← numberOf names s) n
          | none => pure n
        setNumber names s n
        return n
      | none => conditional fuel idle
    | _ => conditional fuel idle
  termination_by structural fuel

end

/-- The number that an expression denotes, and what has become of the values of names. -/
def evaluate (s : σ) (expression : String) : Except Fault (Int64 × σ) := do
  let tokens := tokens (expression.length + 1) expression.toList
  let (n, left, s) ← (assignment names (8 * tokens.length + 16) false).run (tokens, s)
  if left.isEmpty then return (n, s) else throw .wantsEnd

end

end FaultDrill.Shell.Arithmetic
