import FaultDrill.Text.Blank
import FaultDrill.Text.Pieces

/-!
# FaultDrill.Plan.Reference

References to invariants. A reference has a name, a strategy by which it is checked, and an argument
whose meaning depends on the strategy. It is written in one of three forms:

* `rows: const count 100` names the strategy and gives the argument;
* `a.live == nd.a.live` compares a variable with another one of some node, or with a constant, and
  is its own name;
* `rows` is a bare name, for which the settings choose the strategy.
-/

namespace FaultDrill

open FaultDrill.Text

/-! ### Variables of nodes -/

/-- The node and the variable of a name that belongs to a node: `nd.` and a variable stands for any
node, `nd`, possibly a dash, a number, a dash and a variable for one node. -/
def nodeOfVariable? (name : List Char) : Option (List Char × List Char) :=
  match name with
  | 'n' :: 'd' :: '.' :: var => if var.isEmpty then none else some (['n', 'd'], var)
  | 'n' :: 'd' :: rest =>
    let (dash, digits) := match rest with
      | '-' :: after => (['-'], after)
      | _ => ([], rest)
    match digits.takeWhile Char.isDigit, digits.dropWhile Char.isDigit with
    | d :: number, '-' :: c :: var =>
      some ('n' :: 'd' :: (dash ++ d :: number), c :: var)
    | _, _ => none
  | _ => none

/-! ### Strategies -/

/-- How an invariant is checked. -/
inductive Strategy where
  /-- The settings choose. -/
  | default
  /-- The output must not contain a marker of failure. -/
  | outputMarker
  /-- The driver must exit with code zero. -/
  | exitStatus
  /-- A reported variable must have a value. -/
  | constant
  /-- Two reported variables must agree. -/
  | equality
  /-- A checkpoint must be reached. -/
  | reaches
  /-- One checkpoint must be reached before another. -/
  | ordered
  /-- At most one node may report a value. -/
  | exclusive
  /-- A command decides. -/
  | probe
  deriving DecidableEq, Repr

namespace Strategy

/-- All strategies. -/
def all : List Strategy :=
  [.default, .outputMarker, .exitStatus, .constant, .equality, .reaches, .ordered, .exclusive,
    .probe]

/-- The word for a strategy in references. -/
def token : Strategy → String
  | .default => "default"
  | .outputMarker => "output-marker"
  | .exitStatus => "exit-status"
  | .constant => "const"
  | .equality => "equal"
  | .reaches => "reaches"
  | .ordered => "ordered"
  | .exclusive => "exclusive"
  | .probe => "probe"

/-- Other words for a strategy. -/
def aliases : Strategy → List String
  | .outputMarker => ["marker"]
  | .exitStatus => ["exit"]
  | .constant => ["constant"]
  | .equality => ["equality"]
  | _ => []

/-- The name of a strategy in records. -/
def name : Strategy → String
  | .constant => "constant"
  | .equality => "equality"
  | s => s.token

/-- The strategy of a word, in letters of either case. -/
def ofToken? (word : String) : Option Strategy :=
  let word := String.ofList (lower word.toList)
  all.find? fun s => s.token = word || s.aliases.contains word

/-- The strategy of a name in records. -/
def ofName? (name : String) : Option Strategy :=
  all.find? (·.name = name)

end Strategy

/-! ### References -/

/-- A reference to an invariant. -/
structure Reference where
  /-- The name by which results tell invariants apart. -/
  name : String
  strategy : Strategy
  /-- The argument of the strategy: words with blanks between them. -/
  argument : String
  deriving DecidableEq, Repr

namespace Reference

/-- A bare name. -/
def named (name : String) : Reference :=
  ⟨name, .default, ""⟩

/-- Why a text is no reference. -/
inductive ParseError where
  | empty
  | comparison (text : String)
  | missingName (text : String)
  | missingStrategy (text : String)
  | unknownStrategy (word : String)
  | manyWords (text : String)
  deriving DecidableEq, Repr

/-- The right side of a comparison without one pair of quotation marks around it. -/
def unquoted (s : List Char) : List Char :=
  ((afterStart? ['"'] s).bind (beforeEnd? ['"'])).getD s

/-- A comparison of a variable with a value. -/
def ofComparison (whole left right : List Char) : Except ParseError Reference :=
  let text := String.ofList whole
  if left = [] ∨ right = [] ∨ hasBlank left then .error (.comparison text)
  else if (nodeOfVariable? right).isSome then
    .ok ⟨text, .equality, String.ofList (left ++ ' ' :: right)⟩
  else
    .ok ⟨text, .constant, String.ofList (left ++ ' ' :: unquoted right)⟩

/-- The first word and what follows it. -/
def firstWord (s : List Char) : List Char × List Char :=
  match cutWhere? isBlank s with
  | some (word, rest) => (word, trim rest)
  | none => (s, [])

/-- A name with a strategy. -/
def ofStrategy (whole name rest : List Char) : Except ParseError Reference :=
  let text := String.ofList whole
  if name = [] then .error (.missingName text)
  else
    let (token, argument) := firstWord rest
    if token = [] then .error (.missingStrategy text)
    else
      match Strategy.ofToken? (String.ofList token) with
      | some strategy => .ok ⟨String.ofList name, strategy, String.ofList argument⟩
      | none => .error (.unknownStrategy (String.ofList token))

/-- Reads a reference. The comparison comes first, so that a colon in it is not taken for the one
before a strategy. -/
def parse (s : List Char) : Except ParseError Reference :=
  let s := trim s
  if s = [] then .error .empty
  else
    match cutText? ['=', '='] s with
    | some (left, right) => ofComparison s (trim left) (trim right)
    | none =>
      match cut? ':' s with
      | some (name, rest) => ofStrategy s (trim name) (trim rest)
      | none =>
        if 1 < (words s).length then .error (.manyWords (String.ofList s))
        else .ok (named (String.ofList s))

/-- The words of the argument. -/
def args (r : Reference) : List String :=
  (words r.argument.toList).map String.ofList

/-- Writes a reference. A comparison is its own name. -/
def text (r : Reference) : String :=
  if contains r.name "==" then r.name
  else if r.strategy = .default then r.name
  else if r.argument = "" then s!"{r.name}: {r.strategy.token}"
  else s!"{r.name}: {r.strategy.token} {r.argument}"

end Reference

end FaultDrill
