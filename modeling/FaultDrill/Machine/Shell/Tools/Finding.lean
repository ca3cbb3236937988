import FaultDrill.Machine.Shell.Pattern
import FaultDrill.Machine.Shell.Tools.Launching
import FaultDrill.Machine.Shell.Tools.Listing

/-!
# FaultDrill.Machine.Shell.Tools.Finding

Looking for files below directories with an expression of tests and actions. If the expression has
no action that shows something or runs a program, the paths that satisfy it are shown.
-/

namespace FaultDrill.Shell.Tools

open FaultDrill.Text

namespace Finding

/-! ### Expressions -/

/-- An expression over files. -/
inductive Expression where
  /-- A test of a path, its place, its depth and its entry. -/
  | test (holds : State → String → List String → Entry → Bool)
  | print (ending : Char)
  | format (text : String)
  | delete
  /-- Passes over what is below. -/
  | prune
  | quit
  /-- Runs a program for each path. -/
  | run (words : List String)
  /-- Runs a program with all paths at the end. -/
  | runAll (words : List String)
  | invert (e : Expression)
  | both (first second : Expression)
  | either (first second : Expression)
  /-- Only the second one counts. -/
  | after (first second : Expression)

/-- Whether an expression does more than test. -/
def Expression.acts : Expression → Bool
  | .test _ | .prune | .quit => false
  | .print _ | .format _ | .delete | .run _ | .runAll _ => true
  | .invert e => e.acts
  | .both a b | .either a b | .after a b => a.acts || b.acts

/-- Whether an expression removes files, for which what is below has to come first. -/
def Expression.deletes : Expression → Bool
  | .delete => true
  | .invert e => e.deletes
  | .both a b | .either a b | .after a b => a.deletes || b.deletes
  | _ => false

/-! ### Reading -/

/-- What holds for a whole search. -/
structure Bounds where
  least : Nat := 0
  greatest : Option Nat := none
  /-- Whether what is below comes first. -/
  depthFirst : Bool := false

/-- What remains of an expression, and the bounds that have been seen in it. -/
structure Unread where
  words : List String
  bounds : Bounds := {}

/-- A reader of a part of an expression. -/
abbrev Reader (α : Type) := StateT Unread (Except String) α

/-- The next word. -/
def next? : Reader (Option String) := do
  return (← get).words.head?

/-- Takes a word. -/
def advance : Reader Unit :=
  modify fun u => { u with words := u.words.drop 1 }

/-- A name between the marks that open and close quotations in messages. -/
def marked (name : String) : String :=
  "`" ++ name ++ "'"

/-- The argument of a test. -/
def argument (test : String) : Reader String := do
  match (← get).words with
  | w :: rest =>
    modify fun u => { u with words := rest }
    return w
  | [] => throw s!"missing argument to {marked test}"

/-- A number that is to be met, to be exceeded or not to be reached. -/
def comparison? (text : String) : Option (Nat → Bool) :=
  match text.toList with
  | '+' :: digits => (Decimal.read? UInt64.size digits).map fun n m => decide (n < m)
  | '-' :: digits => (Decimal.read? UInt64.size digits).map fun n m => decide (m < n)
  | digits => (Decimal.read? UInt64.size digits).map fun n m => decide (m = n)

/-- A test of sizes in units, of which the last one may not be full. -/
def sizeTest? (text : String) : Option (Nat → Bool) :=
  let units := [('c', 1), ('w', 2), ('b', 512), ('k', 1024), ('M', 1048576), ('G', 1073741824)]
  let (digits, unit) := match text.toList.getLast?.bind fun c => units.lookup c with
    | some unit => (text.toList.dropLast, unit)
    | none => (text.toList, 512)
  (comparison? (String.ofList digits)).map fun holds size => holds ((size + unit - 1) / unit)

/-- A test by a pattern, whose letters may have any case. -/
def patternTest (anyCase whole : Bool) (pattern : String) :
    State → String → List String → Entry → Bool :=
  let folded := fun (s : String) => if anyCase then s.toList.map Char.toLower else s.toList
  let p := Pattern.ofMarks ((folded pattern).map (·, false))
  fun _ path _ _ => Pattern.holds p (folded (if whole then path else lastStep path))

/-- Whether permissions are those that a text asks for: just these, all of these, or one of
these. -/
def modeTest? (text : String) : Option (Nat → Bool) :=
  let mode? := fun (t : List Char) => Mode.change? (String.ofList t) false 0 0
  match text.toList with
  | '-' :: rest => (mode? rest).map fun m n => decide (n &&& m = m)
  | '/' :: rest => (mode? rest).map fun m n => decide (m = 0 ∨ n &&& m ≠ 0)
  | rest => (mode? rest).map fun m n => decide (n = m)

/-- A test that always gives the same answer. -/
def constant (answer : Bool) : Expression :=
  .test fun _ _ _ _ => answer

/-- An argument that a test cannot take. -/
def invalid {α : Type} (test argument : String) : Reader α :=
  throw s!"invalid argument {marked argument} to {marked test}"

/-- A test or an action by its name. -/
def primary (test : String) : Reader Expression := do
  let setBounds := fun (f : Bounds → Bounds) => do
    modify fun u => { u with bounds := f u.bounds }
    return constant true
  match test with
  | "-print" => return .print '\n'
  | "-print0" => return .print '\x00'
  | "-printf" => return .format (← argument test)
  | "-delete" => return .delete
  | "-prune" => return .prune
  | "-quit" => return .quit
  | "-true" => return constant true
  | "-false" => return constant false
  | "-name" => return .test (patternTest false false (← argument test))
  | "-iname" => return .test (patternTest true false (← argument test))
  | "-path" | "-wholename" => return .test (patternTest false true (← argument test))
  | "-ipath" => return .test (patternTest true true (← argument test))
  | "-type" =>
    let kinds ← argument test
    let letters := (kinds.toList.splitOn ',').flatten
    match letters.find? fun c => !(['b', 'c', 'd', 'f', 'l', 'p', 's'].contains c) with
    | some c => throw s!"Unknown argument to -type: {c}"
    | none =>
      return .test fun _ _ _ e =>
        letters.contains (if kindLetter e = '-' then 'f' else kindLetter e)
  | "-empty" =>
    return .test fun s _ place e => match e with
      | .file content => content.isEmpty
      | .directory => (s.files.listing place).isEmpty
      | _ => false
  | "-size" =>
    let a ← argument test
    match sizeTest? a with
    | some holds => return .test fun _ _ _ e => holds (sizeOfEntry e)
    | none => invalid test a
  | "-perm" =>
    let a ← argument test
    match modeTest? a with
    | some holds => return .test fun s _ place _ => holds (s.files.modeAt place)
    | none => throw s!"invalid mode {marked a}"
  | "-links" =>
    let a ← argument test
    match comparison? a with
    | some holds => return .test fun s _ place e => holds (linksOf s.files place e)
    | none => invalid test a
  | "-mtime" | "-mmin" | "-ctime" | "-cmin" | "-atime" | "-amin" =>
    let a ← argument test
    match comparison? a with
    | some holds => return constant (holds 0)
    | none => invalid test a
  | "-user" | "-group" =>
    let a ← argument test
    return constant (a = "root" || a = "0")
  | "-newer" =>
    let _ ← argument test
    return constant false
  | "-samefile" =>
    let a ← argument test
    return .test fun s _ place _ => match s.files.place (s.pathOf a) with
      | .ok other => other = place
      | .error _ => false
  | "-maxdepth" | "-mindepth" =>
    let a ← argument test
    match Decimal.read? UInt64.size a.toList with
    | some n =>
      setBounds fun b => if test = "-maxdepth" then { b with greatest := some n }
        else { b with least := n }
    | none => throw s!"Expected a positive decimal integer argument to {test}, but got '{a}'"
  | "-depth" | "-d" => setBounds fun b => { b with depthFirst := true }
  | "-mount" | "-xdev" | "-noleaf" | "-follow" => return constant true
  | "-exec" | "-execdir" | "-ok" =>
    let words := (← get).words
    let inner := words.takeWhile fun w => w ≠ ";" && w ≠ "+"
    match words.drop inner.length with
    | ending :: rest =>
      if inner.isEmpty then throw s!"missing argument to {marked test}"
      modify fun u => { u with words := rest }
      return if ending = "+" && inner.getLast? = some "\x7b\x7d" then .runAll inner.dropLast
        else .run inner
    | [] => throw s!"missing argument to {marked test}"
  | _ => throw s!"unknown predicate {marked test}"

mutual

/-- Expressions that are joined, down to some binding strength: a list, alternatives, and things
that hold together. -/
def joinedBy (fuel strength : Nat) : Reader Expression := do
  match fuel with
  | 0 => throw "the expression is too deep"
  | fuel + 1 =>
    let first ← if strength = 0 then joinedBy fuel 1 else if strength = 1 then joinedBy fuel 2
      else single fuel
    othersBy fuel strength first
  termination_by structural fuel

/-- What is joined to an expression. -/
def othersBy (fuel strength : Nat) (first : Expression) : Reader Expression := do
  match fuel with
  | 0 => throw "the expression is too deep"
  | fuel + 1 =>
    match ← next? with
    | none | some ")" => return first
    | some w =>
      if strength = 0 && w = "," then
        advance
        othersBy fuel strength (.after first (← joinedBy fuel 1))
      else if strength = 1 && (w = "-o" || w = "-or") then
        advance
        othersBy fuel strength (.either first (← joinedBy fuel 2))
      else if strength = 2 && (w = "-a" || w = "-and") then
        advance
        othersBy fuel strength (.both first (← single fuel))
      else if strength = 2 && w ≠ "-o" && w ≠ "-or" && w ≠ "," then
        othersBy fuel strength (.both first (← single fuel))
      else return first
  termination_by structural fuel

/-- An expression that stands alone. -/
def single (fuel : Nat) : Reader Expression := do
  match fuel with
  | 0 => throw "the expression is too deep"
  | fuel + 1 =>
    match ← next? with
    | none => throw ("invalid expression; expected to find a ')' but didn't see one. " ++
        "Perhaps you need an extra predicate after '('")
    | some "!" | some "-not" =>
      advance
      return .invert (← single fuel)
    | some "(" =>
      advance
      let e ← joinedBy fuel 0
      match ← next? with
      | some ")" =>
        advance
        return e
      | _ => throw ("invalid expression; I was expecting to find a ')' somewhere " ++
          "but did not see one.")
    | some ")" => throw "invalid expression; you have too many ')'"
    | some w =>
      if ["-o", "-or", "-a", "-and", ","].contains w then
        throw (s!"invalid expression; you have used a binary operator '{w}' " ++
          "with nothing before it.")
      else
        advance
        primary w
  termination_by structural fuel

end

/-- The expression of words, with its bounds. -/
def read (words : List String) : Except String (Expression × Bounds) := do
  if words.isEmpty then return (.print '\n', {})
  let (e, u) ← (joinedBy (4 * words.length + 8) 0).run { words := words }
  if u.words.head? = some ")" then throw "you have too many ')'"
  let bounds := if e.deletes then { u.bounds with depthFirst := true } else u.bounds
  return (if e.acts then e else .both e (.print '\n'), bounds)

/-! ### Searching -/

/-- A search on its way. -/
structure Search where
  state : State
  /-- The paths that programs are run with at the end. -/
  kept : List (List String × List String) := []
  pruned : Bool := false
  ended : Bool := false

/-- A path on its way: how it is written, its place, its depth and the path that it starts from. -/
structure Visit where
  path : String
  place : List String
  depth : Nat
  root : String

/-- The text of a format for a path. -/
def formatted (s : State) (v : Visit) (e : Entry) (format : String) : List Char :=
  let fact := fun (c : Char) => match c with
    | 'p' => v.path
    | 'f' => lastStep v.path
    | 'h' => withoutLastStep v.path
    | 'P' => String.ofList ((v.path.toList.drop v.root.length).dropWhile (· = '/'))
    | 'd' => Decimal.text v.depth
    | 's' => Decimal.text (sizeOfEntry e)
    | 'y' => if kindLetter e = '-' then "f" else String.singleton (kindLetter e)
    | 'm' => String.ofList (inBase 8 1 (s.files.modeAt v.place))
    | 'M' => modeText s.files v.place e
    | 'l' => match e with
      | .link target => Octets.ofText target
      | _ => ""
    | c => factOf s v.path v.place e c
  let text := (Format.unescape (format.length + 1) format.toList).1
  (filled fact (text.length + 1) text).toList

/-- Whether a path satisfies an expression, after all that the expression does with it. -/
def holds (launch : Launcher) (v : Visit) (e : Entry) : Expression → Search → Bool × Search
  | .test p, w => (p w.state v.path v.place e, w)
  | .print c, w => (true, { w with state := emit w.state "find" (v.path.toList ++ [c]) })
  | .format text, w => (true, { w with state := emit w.state "find" (formatted w.state v e text) })
  | .delete, w =>
    let name := w.state.pathOf v.path
    let removed := if e = .directory then removeDirectory name w.state.files
      else w.state.files.remove name
    match removed with
    | .ok t => (true, { w with state := w.state.withFiles t })
    | .error cause =>
      (false, { w with
        state := report w.state "find" s!"cannot delete {quoted v.path}: {cause.reason}" 1 })
  | .prune, w => (true, { w with pruned := true })
  | .quit, w => (true, { w with ended := true })
  | .run words, w =>
    let words := words.map fun x => replaced x "\x7b\x7d" v.path
    let status := w.state.status
    let (ending, s) := runChild launch "find" quoted words w.state
    (ending = .exited 0, { w with state := s.done status })
  | .runAll words, w =>
    let found := (w.kept.lookup words).getD []
    let others := w.kept.filter (·.1 ≠ words)
    (true, { w with kept := others ++ [(words, found ++ [v.path])] })
  | .invert f, w =>
    let (answer, w) := holds launch v e f w
    (!answer, w)
  | .both f g, w =>
    let (answer, w) := holds launch v e f w
    if answer && !w.ended then holds launch v e g w else (answer, w)
  | .either f g, w =>
    let (answer, w) := holds launch v e f w
    if answer || w.ended then (answer, w) else holds launch v e g w
  | .after f g, w =>
    let (_, w) := holds launch v e f w
    if w.ended then (true, w) else holds launch v e g w

/-- Applies an expression to a path. -/
def apply (launch : Launcher) (f : Expression) (b : Bounds) (v : Visit) (w : Search) : Search :=
  if w.ended || !w.state.isActive || v.depth < b.least then w
  else
    match w.state.files.entryAt? v.place with
    | some e => (holds launch v e f w).2
    | none => w

/-- Goes through a path and all below it. -/
def search (launch : Launcher) (f : Expression) (b : Bounds) : Nat → Visit → Search → Search
  | 0, _, w => w
  | fuel + 1, v, w =>
    let w := { w with pruned := false }
    let w := if b.depthFirst then w else apply launch f b v w
    let deeper := match b.greatest with
      | some n => decide (v.depth < n)
      | none => true
    let isDirectory := w.state.files.entryAt? v.place = some .directory
    let w := if isDirectory && deeper && !w.pruned && !w.ended then
        (w.state.files.listing v.place).foldl (fun w name =>
          if w.ended then w
          else
            let path := (if v.path.toList.getLast? = some '/' then v.path else v.path ++ "/") ++
              Octets.ofText name
            search launch f b fuel ⟨path, v.place ++ [name], v.depth + 1, v.root⟩ w) w
      else w
    if b.depthFirst then apply launch f b v w else w

/-- More than the depth of any path. -/
def maxDepth : Nat := 4096

end Finding

open Finding in
/-- Shows the files below directories that satisfy an expression, or does what it says. -/
def find (launch : Launcher) : Tool := fun arguments s =>
  let arguments := arguments.dropWhile fun a => ["-H", "-L", "-P", "--"].contains a
  let starts := fun (a : String) =>
    !(['-'].isPrefixOf a.toList && 1 < a.length) && !(["!", "(", ")", ","].contains a)
  let paths := arguments.takeWhile starts
  match read (arguments.drop paths.length) with
  | .error message => report s "find" message 1
  | .ok (f, bounds) =>
    let paths := if paths.isEmpty then ["."] else paths
    let w := paths.foldl (fun (w : Search) path =>
      if w.ended then w
      else
        match w.state.findOwn path with
        | .error e => { w with state := report w.state "find" s!"{quoted path}: {e.reason}" 1 }
        | .ok (_, place) => search launch f bounds maxDepth ⟨path, place, 0, path⟩ w)
      { state := s.done 0 }
    w.kept.foldl (fun s (words, found) =>
      let (ending, t) := runChild launch "find" quoted (words ++ found) s
      if ending = .exited 0 then t.done s.status else t.done 1) w.state

end FaultDrill.Shell.Tools
