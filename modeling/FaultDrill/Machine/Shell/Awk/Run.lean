import FaultDrill.Machine.Shell.Awk.Parser
import FaultDrill.Machine.Shell.Tools.Basic

/-!
# FaultDrill.Machine.Shell.Awk.Run

Running programs over records. Every rule is tried on every record in the order of the program. The
fields of a record change with the record, and the record with its fields.
-/

namespace FaultDrill.Shell.Awk

open FaultDrill.Text

/-! ### States -/

/-- How the statements of a rule have come to an end. -/
inductive Flow where
  | normal
  | next
  | exit
  | leave
  | goOn
  deriving DecidableEq

/-- A program on its way. -/
structure Run where
  shell : State
  globals : SortedMap String Value := .empty
  /-- The elements of arrays in the order in which they have been made. -/
  arrays : SortedMap String (List (List Char × Value)) := .empty
  record : List Char := []
  fields : List Value := []
  /-- The rules for ranges of records that are being met. -/
  ranges : List Nat := []
  /-- The files that have been opened for writing. -/
  opened : List String := []
  status : Nat := 0

/-- Something that can be assigned to. -/
inductive Place where
  | named (name : String)
  | element (array : String) (key : List Char)
  | field (n : Nat)

/-- Characters that are replaced by an expression's matches, and what stands between them. -/
def splitBy (r : Regex) (s : List Char) : List (List Char) :=
  let (parts, last) := (Regex.allMatches false Regex.anywhere r s).foldl
    (fun (parts, part) piece => match piece with
      | .char c => (parts, part ++ [c])
      | .found text _ => if text.isEmpty then (parts, part) else (parts ++ [part], []))
    (([] : List (List Char)), ([] : List Char))
  parts ++ [last]

/-- The words between blanks. -/
def wordsOf (s : List Char) : List (List Char) :=
  (s.splitOnP fun c => c = ' ' || c = '\t' || c = '\n').filter (· ≠ [])

/-- The parts of a text between separators: blanks for a space, or else a character or what an
expression meets. -/
def parts (separator s : List Char) : List (List Char) :=
  if s.isEmpty then []
  else
    match separator with
    | [' '] => wordsOf s
    | [] => s.map fun c => [c]
    | [c] => s.splitOn c
    | separator =>
      match regexOf separator with
      | .ok r => splitBy r s
      | .error _ => [s]

namespace Run

/-- The value of a variable. -/
def valueOf (w : Run) (name : String) : Value :=
  (w.globals.get? name).getD .unset

/-- The text of a variable. -/
def textOf (w : Run) (name : String) : List Char :=
  (w.valueOf name).toText

/-- Gives a variable a value. -/
def setVariable (w : Run) (name : String) (v : Value) : Run :=
  { w with globals := w.globals.insert name v }

/-- The elements of an array. -/
def elements (w : Run) (array : String) : List (List Char × Value) :=
  (w.arrays.get? array).getD []

/-- Gives an element of an array a value. -/
def setElement (w : Run) (array : String) (key : List Char) (v : Value) : Run :=
  let es := w.elements array
  let es := if (es.lookup key).isSome then es.map fun (k, old) => (k, if k = key then v else old)
    else es ++ [(key, v)]
  { w with arrays := w.arrays.insert array es }

/-- Makes a text the record, with its fields. -/
def setRecord (w : Run) (s : List Char) : Run :=
  let fields := (parts (w.textOf "FS") s).map Value.input
  { w with record := s, fields := fields }.setVariable "NF" (.ofNat fields.length)

/-- Makes fields those of the record. -/
def setFields (w : Run) (fields : List Value) : Run :=
  let record := (w.textOf "OFS").intercalate (fields.map Value.toText)
  { w with record := record, fields := fields }.setVariable "NF" (.ofNat fields.length)

/-- The value at a place. -/
def value (w : Run) : Place → Value
  | .named name => w.valueOf name
  | .element array key => ((w.elements array).lookup key).getD .unset
  | .field 0 => .input w.record
  | .field (n + 1) => w.fields[n]?.getD .unset

/-- Gives a place a value. -/
def assign (w : Run) (p : Place) (v : Value) : Run :=
  match p with
  | .named name =>
    let w := w.setVariable name v
    if name = "NF" then
      let n := v.toNumber.toUInt64.toNat
      w.setFields (w.fields.take n ++ List.replicate (n - w.fields.length) .unset)
    else w
  | .element array key => w.setElement array key v
  | .field 0 => w.setRecord v.toText
  | .field (n + 1) =>
    let padded := w.fields ++ List.replicate (n + 1 - w.fields.length) Value.unset
    w.setFields (padded.set n v)

end Run

/-! ### Functions -/

/-- A directive for one argument, with its text. -/
def directiveText (d : Format.Directive) (v : Value) : List Char :=
  let x := v.toNumber
  let whole : Int :=
    if x < 0 then -(x.abs.floor.toUInt64.toNat : Int) else (x.floor.toUInt64.toNat : Int)
  match d.conversion with
  | 'd' | 'i' => d.ofInt whole
  | 'o' | 'x' | 'X' | 'u' => d.ofNat whole.toNat
  | 'e' | 'E' | 'f' | 'F' | 'g' | 'G' => d.ofFloat (x < 0) x.abs
  | 'c' =>
    match v with
    | .number x => d.ofText [Char.ofNat (x.toUInt64.toNat % 256)]
    | v => d.ofText (v.toText.take 1)
  | _ => d.ofText v.toText

/-- A format with its directives replaced by values. -/
def formatted : Nat → List Char → List Value → List Char
  | 0, _, _ | _, [], _ => []
  | fuel + 1, '%' :: '%' :: rest, vs => '%' :: formatted fuel rest vs
  | fuel + 1, '%' :: rest, vs =>
    let flags := rest.takeWhile fun c => ['#', '-', '+', ' ', '0'].contains c
    let size := fun (s : List Char) (vs : List Value) => match s with
      | '*' :: s => ((vs.headD .unset).toNumber.toUInt64.toNat, s, vs.drop 1)
      | s =>
        let digits := s.takeWhile Char.isDigit
        (Decimal.value 0 digits, s.drop digits.length, vs)
    let (width, after, vs) := size (rest.drop flags.length) vs
    let (precision, after, vs) : Option Nat × List Char × List Value := match after with
      | '.' :: after =>
        let (n, after, vs) := size after vs
        (some n, after, vs)
      | _ => (none, after, vs)
    match after with
    | [] => '%' :: rest
    | c :: after =>
      let d : Format.Directive :=
        { flags := flags, width := width, precision := precision, conversion := c }
      directiveText d (vs.headD .unset) ++ formatted fuel after (vs.drop 1)
  | fuel + 1, c :: rest, vs => c :: formatted fuel rest vs

/-- A number rounded to a whole one, a half to the even one. -/
def rounded (x : Float) : Float :=
  let f := x.floor
  let d := x - f
  if d < 0.5 then f
  else if 0.5 < d then f + 1
  else if (f / 2).floor * 2 == f then f
  else f + 1

/-- The part of a text from a position on, of so many characters. -/
def substring (s : List Char) (start : Float) (length : Option Float) : List Char :=
  let first := rounded start
  let size := Float.ofNat s.length
  let last := match length with
    | some n => min (rounded (start + n)) (size + 1)
    | none => size + 1
  let from_ := max first 1
  if last ≤ from_ then []
  else (s.drop (from_ - 1).toUInt64.toNat).take (last - from_).toUInt64.toNat

/-- The position of a text in another one, from one on, or zero. -/
def position (s part : List Char) : Nat :=
  ((List.range (s.length + 1)).find? fun i => part.isPrefixOf (s.drop i)).elim 0 (· + 1)

/-- A text in which matches are replaced, and how many. In the new text an ampersand stands for the
match. -/
def replaceMatches (all : Bool) (r : Regex) (new s : List Char) : List Char × Nat :=
  (Regex.allMatches false Regex.anywhere r s).foldl (fun (text, count) piece => match piece with
    | .char c => (text ++ [c], count)
    | .found whole _ =>
      if all || count = 0 then (text ++ filled whole new, count + 1)
      else (text ++ whole, count)) (([] : List Char), 0)
where
  /-- The new text for a match. -/
  filled (whole : List Char) : List Char → List Char
    | '\\' :: '&' :: rest => '&' :: filled whole rest
    | '\\' :: '\\' :: rest => '\\' :: filled whole rest
    | '&' :: rest => whole ++ filled whole rest
    | c :: rest => c :: filled whole rest
    | [] => []

/-- The value of a function that only depends on the values of its arguments. -/
def plainCall (function : String) (vs : List Value) : Value :=
  let x := (vs.headD .unset).toNumber
  let s := (vs.headD .unset).toText
  match function with
  | "length" => .ofNat s.length
  | "index" => .ofNat (position s ((vs[1]?.map Value.toText).getD []))
  | "substr" =>
    .text (substring s ((vs[1]?.map Value.toNumber).getD 1) (vs[2]?.map Value.toNumber))
  | "toupper" => .text (s.map Char.toUpper)
  | "tolower" => .text (s.map Char.toLower)
  | "sprintf" => .text (formatted (s.length + 1) s (vs.drop 1))
  | "int" => .number (if x < 0 then -x.abs.floor else x.floor)
  | "sqrt" => .number x.sqrt
  | "exp" => .number x.exp
  | "log" => .number x.log
  | "sin" => .number x.sin
  | "cos" => .number x.cos
  | "atan2" => .number (Float.atan2 x ((vs[1]?.map Value.toNumber).getD 0))
  | _ => .unset

/-- The value of an operator between two numbers. -/
def operate (operator : String) (a b : Float) : Float :=
  match operator with
  | "+" => a + b
  | "-" => a - b
  | "*" => a * b
  | "/" => a / b
  | "%" =>
    let q := a / b
    a - b * (if q < 0 then -q.abs.floor else q.floor)
  | "^" => Float.pow a b
  | _ => 0

/-- The regular expression of a value. -/
def regexOfValue (v : Value) : Regex :=
  (regexOf v.toText).toOption.getD .empty

/-- Whether an expression occurs in a text. -/
def occurs (r : Regex) (s : List Char) : Bool :=
  (Regex.search? false Regex.anywhere r [] none s).isSome

/-- An argument of a function, which may use it as a place or as an expression. -/
inductive Argument where
  | value (v : Value)
  | place (p : Place)
  | regex (r : Regex)

namespace Argument

/-- The value of an argument. -/
def toValue (w : Run) : Argument → Value
  | .value v => v
  | .place p => w.value p
  | .regex r => .ofBool (occurs r w.record)

/-- The regular expression that an argument stands for. -/
def toRegex (w : Run) : Argument → Regex
  | .regex r => r
  | a => regexOfValue (a.toValue w)

end Argument

/-- Makes the parts of a text the elements of an array. -/
def splitInto (w : Run) (s : List Char) (array : String) (found : List (List Char)) : Value × Run :=
  let found := if s.isEmpty then [] else found
  let es := found.zipIdx.map fun (part, i) => (Decimal.write (i + 1), Value.input part)
  (.ofNat found.length, { w with arrays := w.arrays.insert array es })

/-- Replaces matches at a place. -/
def substitute (w : Run) (all : Bool) (r new : Argument) (p : Place) : Value × Run :=
  let (text, count) :=
    replaceMatches all (r.toRegex w) (new.toValue w).toText (w.value p).toText
  (.ofNat count, if 0 < count then w.assign p (.text text) else w)

/-- Where an expression occurs first, which is kept in variables. -/
def locate (w : Run) (s : Argument) (r : Regex) : Value × Run :=
  let (start, length) : Value × Value :=
    match Regex.search? false Regex.anywhere r [] none (s.toValue w).toText with
    | some f => (.ofNat (f.before.length + 1), .ofNat f.text.length)
    | none => (.number 0, .number (-1))
  (start, (w.setVariable "RSTART" start).setVariable "RLENGTH" length)

/-- The value of a function, and the program on its way after that. -/
def callOf (function : String) (arguments : List Argument) (w : Run) : Value × Run :=
  match function, arguments with
  | "length", [.place (.named name)] =>
    -- an array has a length too
    if (w.arrays.get? name).isSome then (.ofNat (w.elements name).length, w)
    else (plainCall function [w.valueOf name], w)
  | "split", [s, .place (.named array)] =>
    let s := (s.toValue w).toText
    splitInto w s array (parts (w.textOf "FS") s)
  | "split", [s, .place (.named array), .regex r] =>
    let s := (s.toValue w).toText
    splitInto w s array (splitBy r s)
  | "split", [s, .place (.named array), separator] =>
    let s := (s.toValue w).toText
    splitInto w s array (parts (separator.toValue w).toText s)
  | "sub", [r, new] => substitute w false r new (.field 0)
  | "gsub", [r, new] => substitute w true r new (.field 0)
  | "sub", [r, new, .place p] => substitute w false r new p
  | "gsub", [r, new, .place p] => substitute w true r new p
  | "match", [s, r] => locate w s (r.toRegex w)
  | "close", [name] =>
    let path := String.ofList (name.toValue w).toText
    (.number (if w.opened.contains path then 0 else -1),
      { w with opened := w.opened.filter (· ≠ path) })
  | function, arguments => (plainCall function (arguments.map (·.toValue w)), w)

/-! ### Expressions -/

/-- A computation on a program on its way. -/
abbrev Action := StateM Run

mutual

/-- The value of an expression. -/
def eval : Expr → Action Value
  | .number x => return .number x
  | .text s => return .text s
  | .regex r => return .ofBool (occurs r (← get).record)
  | .named name => return (← get).valueOf name
  | .element array index => do
    let key ← keyOf index
    let w ← get
    if ((w.elements array).lookup key).isNone then set (w.setElement array key .unset)
    return w.value (.element array key)
  | .field e => do
    let n ← eval e
    return (← get).value (.field n.toNumber.toUInt64.toNat)
  | .assign operator target value => do
    let v ← eval value
    let p ← place target
    let old := (← get).value p
    let v := match operator with
      | some o => Value.number (operate o old.toNumber v.toNumber)
      | none => v
    modify (·.assign p v)
    return v
  | .step before amount target => do
    let p ← place target
    let old := ((← get).value p).toNumber
    modify (·.assign p (.number (old + amount)))
    return .number (if before then old + amount else old)
  | .negate e => do
    let v ← eval e
    return .number (-v.toNumber)
  | .invert e => do
    let v ← eval e
    return .ofBool !v.holds
  | .binary operator a b => do
    let x ← eval a
    let y ← eval b
    if ["<", "<=", ">", ">=", "==", "!="].contains operator then
      return .ofBool (Value.compare operator x y)
    else return .number (operate operator x.toNumber y.toNumber)
  | .both a b => do
    let x ← eval a
    if x.holds then
      let y ← eval b
      return .ofBool y.holds
    else return .ofBool false
  | .either a b => do
    let x ← eval a
    if x.holds then return .ofBool true
    else
      let y ← eval b
      return .ofBool y.holds
  | .concat a b => do
    let x ← eval a
    let y ← eval b
    return .text (x.toText ++ y.toText)
  | .group e => eval e
  | .isMatch negated a r => do
    let x ← eval a
    let r ← argument r
    return .ofBool (occurs (r.toRegex (← get)) x.toText ≠ negated)
  | .isIn index array => do
    let key ← keyOf index
    return .ofBool (((← get).elements array).lookup key).isSome
  | .choice c a b => do
    let x ← eval c
    if x.holds then eval a else eval b
  | .call function es => do
    let arguments ← argumentsOf es
    modifyGet (callOf function arguments)

/-- An argument of a function. -/
def argument : Expr → Action Argument
  | .regex r => return .regex r
  | .named name => return .place (.named name)
  | .element array index => return .place (.element array (← keyOf index))
  | .field e => do
    let n ← eval e
    return .place (.field n.toNumber.toUInt64.toNat)
  | .number x => return .value (.number x)
  | .text s => return .value (.text s)
  | .group e => return .value (← eval e)
  | e => return .value (← eval e)

/-- The arguments of a function. -/
def argumentsOf : List Expr → Action (List Argument)
  | [] => return []
  | e :: rest => do
    let a ← argument e
    return a :: (← argumentsOf rest)

/-- The key of an element. -/
def keyOf : List Expr → Action (List Char)
  | [] => return []
  | e :: rest => do
    let first ← eval e
    if rest.isEmpty then return first.toText
    else
      let others ← keyOf rest
      return first.toText ++ (← get).textOf "SUBSEP" ++ others

/-- The place that an expression stands for. -/
def place : Expr → Action Place
  | .named name => return .named name
  | .element array index => return .element array (← keyOf index)
  | .field e => do
    let n ← eval e
    return .field n.toNumber.toUInt64.toNat
  | _ => return .named ""

end

/-! ### Statements -/

/-- Shows a text at a target. A file is emptied when it is opened for the first time. -/
def put (target : Target) (text : List Char) : Action Unit := do
  match target with
  | .output => modify fun w => { w with shell := Tools.emit w.shell "awk" text }
  | .file e => do
    let path ← eval e
    write path.toText false
  | .fileEnd e => do
    let path ← eval e
    write path.toText true
where
  /-- Shows a text in a file. -/
  write (path : List Char) (atEnd : Bool) : Action Unit := do
    let name := String.ofList path
    let w ← get
    if name = "/dev/stdout" || name = "-" then
      set { w with shell := Tools.emit w.shell "awk" text }
    else if name = "/dev/stderr" then
      set { w with shell := match w.shell.write 2 text with
        | .ok s => s
        | .error _ => w.shell }
    else
      let full := w.shell.pathOf name
      let kept := if atEnd || w.opened.contains name then (w.shell.readFile name).toOption else none
      match w.shell.files.write full ((kept.getD [] ++ text).map Octets.byte) with
      | .ok t => set { w with shell := w.shell.withFiles t, opened := name :: w.opened }
      | .error e =>
        let message := s!"cannot open \"{name}\" ({e.reason})"
        set { w with shell := Tools.report w.shell "awk" message 2 }

/-- A value as it is printed. -/
def shown (w : Run) (v : Value) : List Char :=
  match v with
  | .number x =>
    if x.floor == x then v.toText
    else formatted (w.textOf "OFMT").length.succ (w.textOf "OFMT") [v]
  | v => v.toText

mutual

/-- Runs a statement. -/
def runStatement (fuel : Nat) (s : Statement) : Action Flow := do
  match fuel with
  | 0 => return .exit
  | fuel + 1 =>
    match s with
    | .expression e =>
      let _ ← eval e
      return .normal
    | .print es target =>
      let vs ← es.mapM eval
      let w ← get
      let texts := if vs.isEmpty then [w.record] else vs.map (shown w)
      put target ((w.textOf "OFS").intercalate texts ++ w.textOf "ORS")
      return .normal
    | .printFormatted es target =>
      let vs ← es.mapM eval
      let format := (vs.headD .unset).toText
      put target (formatted (format.length + 1) format (vs.drop 1))
      return .normal
    | .branch c yes no => do
      if (← eval c).holds then runAll fuel yes else runAll fuel no
    | .loop c body after => do
      if !(← eval c).holds then return .normal
      else
        match ← runAll fuel body with
        | .leave => return .normal
        | .normal | .goOn =>
          if (← runAll fuel after) = .leave then return .normal
          else runStatement fuel (.loop c body after)
        | flow => return flow
    | .each name array body => do
      runEach fuel name (((← get).elements array).map (·.1)) body
    | .next => return .next
    | .exit none => return .exit
    | .exit (some e) =>
      let v ← eval e
      modify fun w => { w with status := v.toNumber.toUInt64.toNat % 256 }
      return .exit
    | .leave => return .leave
    | .goOn => return .goOn
    | .delete array [] =>
      modify fun w => { w with arrays := w.arrays.insert array [] }
      return .normal
    | .delete array index =>
      let key ← keyOf index
      modify fun w => { w with
        arrays := w.arrays.insert array ((w.elements array).filter (·.1 ≠ key)) }
      return .normal
  termination_by structural fuel

/-- Runs statements one after the other. -/
def runAll (fuel : Nat) (statements : List Statement) : Action Flow := do
  match fuel with
  | 0 => return .exit
  | fuel + 1 =>
    match statements with
    | [] => return .normal
    | s :: rest =>
      match ← runStatement fuel s with
      | .normal => runAll fuel rest
      | flow => return flow
  termination_by structural fuel

/-- Runs statements for each of some keys. -/
def runEach (fuel : Nat) (name : String) (keys : List (List Char)) (body : List Statement) :
    Action Flow := do
  match fuel with
  | 0 => return .exit
  | fuel + 1 =>
    match keys with
    | [] => return .normal
    | k :: rest =>
      modify (·.setVariable name (.input k))
      match ← runAll fuel body with
      | .leave => return .normal
      | .normal | .goOn => runEach fuel name rest body
      | flow => return flow
  termination_by structural fuel

end

/-- How many statements are run for a record at most. -/
def maxStatements : Nat := 100000

/-! ### Records -/

/-- Runs the rules for the start or for the end. -/
def runPhase (rules : List Rule) (isPhase : Trigger → Bool) : Action Flow := do
  runAll maxStatements ((rules.filter fun r => isPhase r.trigger).flatMap (·.body))

/-- Whether a rule is run on the record. -/
def isMet (t : Trigger) : Action Bool := do
  match t with
  | .first | .last => return false
  | .always => return true
  | .condition e => return (← eval e).holds
  | .range index start finish =>
    let within := (← get).ranges.contains index
    let begins ← if within then pure true else do pure (← eval start).holds
    if !begins then return false
    else
      let ends := (← eval finish).holds
      modify fun w =>
        let others := w.ranges.filter (· ≠ index)
        { w with ranges := if ends then others else index :: others }
      return true

/-- Runs rules on the record. -/
def runRules : List Rule → Action Flow
  | [] => return .normal
  | r :: rest => do
    if ← isMet r.trigger then
      match ← runAll maxStatements r.body with
      | .exit => return .exit
      | .next => return .normal
      | _ => runRules rest
    else runRules rest

/-- Runs rules on records until they end the program. -/
def runRecords (rules : List Rule) : List (List Char) → Action Flow
  | [] => return .normal
  | s :: rest => do
    modify fun w =>
      let count := fun (name : String) (w : Run) =>
        w.setVariable name (.number ((w.valueOf name).toNumber + 1))
      (count "FNR" (count "NR" w)).setRecord s
    match ← runRules rules with
    | .exit => return .exit
    | _ => runRecords rules rest

/-- The records of a content: lines, paragraphs, or what a character separates. -/
def recordsOf (separator content : List Char) : List (List Char) :=
  let lines := (Tools.linesOf content).1
  match separator with
  | ['\n'] => lines
  | [] =>
    let groups := lines.splitOnP (·.isEmpty)
    (groups.filter (· ≠ [])).map fun g => ['\n'].intercalate g
  | c :: _ =>
    let all := content.splitOn c
    if all.getLast? = some [] then all.dropLast else all

/-- An assignment that an argument consists of. -/
def assignment? (argument : String) : Option (String × String) :=
  match cut? '=' argument.toList with
  | some (name, value) =>
    if startsName (name.headD ' ') && name.all isNameChar then
      some (String.ofList name, String.ofList value)
    else none
  | none => none

/-- Gives a variable the value that an argument has, in which escapes are replaced. -/
def assignArgument (name value : String) (w : Run) : Run :=
  w.assign (.named name) (.input (Format.unescape (value.length + 1) value.toList).1)

/-- Runs rules on the records of inputs. -/
def runInputs (rules : List Rule) : List String → Action Flow
  | [] => return .normal
  | a :: rest => do
    match assignment? a with
    | some (name, value) =>
      modify (assignArgument name value)
      runInputs rules rest
    | none =>
      let w ← get
      match Tools.inputOf w.shell a with
      | (.error e, s) =>
        let message := s!"cannot open \"{a}\" ({e.reason})"
        set { w with shell := Tools.report s "awk" message 2, status := 2 }
        return .exit
      | (.ok content, s) =>
        let w := { w with shell := s }
        set ((w.setVariable "FILENAME" (.text (if a = "-" then [] else a.toList))).setVariable
          "FNR" (.number 0))
        match ← runRecords rules (recordsOf (w.textOf "RS") content) with
        | .exit => return .exit
        | _ => runInputs rules rest

/-- Runs rules on inputs. The last rules are run however the others have ended. -/
def runProgram (rules : List Rule) (operands : List String) : Action Unit := do
  let flow ← runPhase rules (· matches .first)
  let others := rules.filter fun r => !(r.trigger matches .first)
  if others.isEmpty then return ()
  if flow ≠ .exit then
    let named := operands.filter fun a => (assignment? a).isNone
    let _ ← runInputs rules (if named.isEmpty then operands ++ ["-"] else operands)
  if !((← get).status = 2 && !(← get).shell.isActive) then
    let _ ← runPhase rules (· matches .last)

/-- The variables at the start. -/
def standardVariables (s : State) (operands : List String) : Run :=
  let w : Run :=
    { shell := s
      globals := .ofList [("FS", .text [' ']), ("OFS", .text [' ']), ("ORS", .text ['\n']),
        ("RS", .text ['\n']), ("SUBSEP", .text ['\x1c']), ("OFMT", .text ['%', '.', '6', 'g']),
        ("CONVFMT", .text ['%', '.', '6', 'g']), ("ARGC", .ofNat (operands.length + 1))] }
  let w := s.environment.foldl (fun w (name, value) =>
    w.setElement "ENVIRON" name.toList (.input value.toList)) w
  ("awk" :: operands).zipIdx.foldl (fun w (a, i) =>
    w.setElement "ARGV" (Decimal.write i) (.input a.toList)) w

end Awk

/-- Runs a program on the records of inputs. -/
def Tools.awk : Tool :=
  Tools.withOptions "awk" { valued := "Fvf", ordered := true } 2 fun o s =>
    let (text?, operands, s) : Option (List Char) × List String × State := match o.value? 'f' with
      | some path =>
        match s.readFile path with
        | .ok text => (some text, o.operands, s)
        | .error e =>
          (none, [], Tools.report s "awk" s!"cannot open \"{path}\" ({e.reason})" 2)
      | none =>
        match o.operands with
        | text :: rest => (some text.toList, rest, s)
        | [] => (none, [], (s.complain "Usage: mawk [Options] [Program] [file ...]").done 0)
    match text?.map Awk.rulesOf with
    | none => s
    | some (.error message) => Tools.report s "awk" message 2
    | some (.ok rules) =>
      let w := Awk.standardVariables s operands
      let w := match o.value? 'F' with
        | some "t" => w.setVariable "FS" (.text ['\t'])
        | some mark => Awk.assignArgument "FS" mark w
        | none => w
      let w := (o.values 'v').foldl (fun w a => match Awk.assignment? a with
        | some (name, value) => Awk.assignArgument name value w
        | none => w) w
      let (_, w) := (Awk.runProgram rules operands).run w
      w.shell.done (if w.status = 0 then w.shell.status else w.status)

end FaultDrill.Shell
