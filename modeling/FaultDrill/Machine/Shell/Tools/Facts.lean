import FaultDrill.Machine.Shell.Format
import FaultDrill.Machine.Shell.Regex
import FaultDrill.Machine.Shell.Condition
import FaultDrill.Machine.Shell.Tools.Basic

/-!
# FaultDrill.Machine.Shell.Tools.Facts

Tools that show numbers, texts and facts, and tools that do nothing but end or wait.
-/

namespace FaultDrill.Shell.Tools

open FaultDrill.Text

/-! ### Numbers in a row -/

/-- A number with a point as a whole number and how many places it has. -/
def decimal? (s : String) : Option (Int × Nat) :=
  let (negative, digits) := match s.toList with
    | '-' :: rest => (true, rest)
    | '+' :: rest => (false, rest)
    | rest => (false, rest)
  let (whole, places) := match cut? '.' digits with
    | some (whole, places) => (whole, places)
    | none => (digits, [])
  if (whole ++ places).isEmpty || !(whole ++ places).all Char.isDigit then none
  else
    let n : Int := Decimal.value 0 (whole ++ places)
    some (if negative then -n else n, places.length)

/-- A number with so many places. -/
def withPlaces (places : Nat) (n : Int) : List Char :=
  (if n < 0 then ['-'] else []) ++ Format.withPoint places false n.natAbs

/-- Shows the numbers from one to another. -/
def seq : Tool := fun arguments s =>
  -- numbers below zero are no options
  let isNumber := fun (a : String) => (decimal? a).isSome
  let options := arguments.takeWhile fun a => (['-'].isPrefixOf a.toList) && !isNumber a
  let valued := options.getLast? = some "-s" || options.getLast? = some "-f"
  let taken := options.length + (if valued then 1 else 0)
  withOptions "seq"
    { flags := "w", valued := "sf"
      long := [("separator", 's'), ("equal-width", 'w'), ("format", 'f')] } 1 (fun o s =>
    let operands := arguments.drop taken
    match operands.find? fun a => !isNumber a with
    | some a => refuse s "seq" s!"invalid floating point argument: {quoted a}" 1
    | none =>
      let numbers? : Except String ((Int × Nat) × (Int × Nat) × (Int × Nat)) :=
        match operands.filterMap decimal? with
        | [last] => .ok ((1, 0), (1, 0), last)
        | [first, last] => .ok (first, (1, 0), last)
        | [first, step, last] => .ok (first, step, last)
        | [] => .error "missing operand"
        | _ => .error ("extra operand " ++ quoted (operands.getD 3 ""))
      match numbers? with
      | .error message => refuse s "seq" message 1
      | .ok (first, step, last) =>
        if step.1 = 0 then
          refuse s "seq" ("invalid Zero increment value: " ++ quoted (operands.getD 1 "")) 1
        else
          let places := max first.2 step.2
          let scale := max places last.2
          let scaled := fun (x : Int × Nat) => x.1 * (Nat.pow 10 (scale - x.2) : Nat)
          let (a, d, b) := (scaled first, scaled step, scaled last)
          let count := if d < 0 then (a - b) / -d + 1 else (b - a) / d + 1
          let texts := (List.range (min count.toNat 200000)).map fun (i : Nat) =>
            let n := a + d * (i : Int)
            withPlaces places (n / (Nat.pow 10 (scale - places) : Nat))
          let width := texts.foldl (fun w t => max w t.length) 0
          let texts := if o.has 'w' then texts.map fun t => match t with
              | '-' :: t => '-' :: (List.replicate (width - t.length - 1) '0' ++ t)
              | t => List.replicate (width - t.length) '0' ++ t
            else texts
          let texts := match o.value? 'f' with
            | some format => texts.map fun t =>
              (Format.printed format [String.ofList t]).shown.reverse
            | none => texts
          let separator := ((o.value? 's').getD "\n").toList
          if texts.isEmpty then s else emit s "seq" (separator.intercalate texts ++ ['\n']))
    (arguments.take taken) s

/-! ### Expressions -/

/-- Why an expression of words has no value. -/
inductive ExprFault where
  | missingAfter (w : String)
  | missingParenthesis (w : String)
  | unexpected (w : String)
  | notInteger
  | divisionByZero
  | expression (fault : Regex.Fault)

/-- The wording of a fault. -/
def ExprFault.message : ExprFault → String
  | .missingAfter w => s!"syntax error: missing argument after {quoted w}"
  | .missingParenthesis w => s!"syntax error: expecting ')' after {quoted w}"
  | .unexpected w => s!"syntax error: unexpected argument {quoted w}"
  | .notInteger => "non-integer argument"
  | .divisionByZero => "division by zero"
  | .expression fault => fault.message

/-- What is left of the words of an expression, and the word before it. -/
abbrev ExprReader := StateT (List String × String) (Except ExprFault)

/-- Whether the value of an expression counts as nothing. -/
def isNull (s : String) : Bool :=
  s = "" || (match decimal? s with
    | some (n, places) => n = 0 && places = 0
    | none => false)

/-- A text as a whole number. -/
def integer (s : String) : ExprReader Int :=
  match decimal? s with
  | some (n, 0) => if ['+'].isPrefixOf s.toList then throw .notInteger else return n
  | _ => throw .notInteger

/-- What a regular expression matches at the start of a text: the text of its group, or the number
of characters. -/
def matchStart (text pattern : String) : ExprReader String :=
  match Regex.ofText false pattern.toList with
  | .error fault => throw (.expression fault)
  | .ok r =>
    let grouped := (pattern.splitOn "\\(").length ≠ 1
    match Regex.longest? false Regex.anywhere r ⟨none, text.toList, []⟩ with
    | some p =>
      if grouped then return String.ofList ((p.groups.lookup 1).getD [])
      else return Decimal.text (text.length - p.rest.length)
    | none => return if grouped then "" else "0"

/-- Takes a word. -/
def takeWord : ExprReader String := do
  let (words, last) ← get
  match words with
  | w :: rest =>
    set (rest, w)
    return w
  | [] => throw (.missingAfter last)

/-- The operators of each rank, the loosest first. -/
def exprOperators : List (List String) :=
  [["|"], ["&"], ["<", "<=", "=", "==", "!=", ">=", ">"], ["+", "-"], ["*", "/", "%"], [":"]]

/-- The value of an operator on two values. -/
def exprCombine (operator a b : String) : ExprReader String := do
  match operator with
  | "|" => return if !isNull a then a else if !isNull b then b else "0"
  | "&" => return if isNull a || isNull b then "0" else a
  | ":" => matchStart a b
  | "+" => return toString ((← integer a) + (← integer b))
  | "-" => return toString ((← integer a) - (← integer b))
  | "*" => return toString ((← integer a) * (← integer b))
  | "/" =>
    let x ← integer a
    let y ← integer b
    if y = 0 then throw .divisionByZero
    return toString (x.tdiv y)
  | "%" =>
    let x ← integer a
    let y ← integer b
    if y = 0 then throw .divisionByZero
    return toString (x.tmod y)
  | _ =>
    let isNumber := fun (s : String) => match decimal? s with
      | some (_, places) => places = 0
      | none => false
    let order : Int := match decimal? a, decimal? b with
      | some (x, _), some (y, _) =>
        if isNumber a && isNumber b then x - y else if a < b then -1 else if b < a then 1 else 0
      | _, _ => if a < b then -1 else if b < a then 1 else 0
    let holds : Bool := match operator with
      | "<" => order < 0
      | "<=" => order ≤ 0
      | "=" | "==" => order = 0
      | "!=" => order ≠ 0
      | ">=" => 0 ≤ order
      | _ => 0 < order
    return if holds then "1" else "0"

/-- The value of an expression of operators from some rank on, or of what stands after `value` in
it. -/
def exprValue : Nat → Nat → Option String → ExprReader String
  | 0, _, _ => do throw (.missingAfter (← get).2)
  | fuel + 1, rank, value => do
    match value with
    | some a =>
      match (← get).1 with
      | w :: _ =>
        if (exprOperators.getD rank []).contains w then
          let _ ← takeWord
          let b ← exprValue fuel (rank + 1) none
          exprValue fuel rank (some (← exprCombine w a b))
        else return a
      | [] => return a
    | none =>
      if rank < exprOperators.length then
        let a ← exprValue fuel (rank + 1) none
        exprValue fuel rank (some a)
      else
        match ← takeWord with
        | "(" =>
          let v ← exprValue fuel 0 none
          match (← get).1 with
          | ")" :: _ =>
            let _ ← takeWord
            return v
          | [] => throw (.missingParenthesis (← get).2)
          | w :: _ => throw (.missingParenthesis w)
        | ")" => throw (.unexpected ")")
        | "+" => takeWord
        | "length" => do
          let v ← exprValue fuel exprOperators.length none
          return Decimal.text v.length
        | "match" => do
          let a ← exprValue fuel exprOperators.length none
          let b ← exprValue fuel exprOperators.length none
          matchStart a b
        | "index" => do
          let a ← exprValue fuel exprOperators.length none
          let b ← exprValue fuel exprOperators.length none
          return Decimal.text ((a.toList.findIdx? (b.toList.contains ·)).map (· + 1) |>.getD 0)
        | "substr" => do
          let a ← exprValue fuel exprOperators.length none
          let first ← exprValue fuel exprOperators.length none
          let count ← exprValue fuel exprOperators.length none
          match decimal? first, decimal? count with
          | some (i, 0), some (n, 0) =>
            if i < 1 || n < 1 then return ""
            else return String.ofList ((a.toList.drop (i - 1).toNat).take n.toNat)
          | _, _ => return ""
        | w => return w

/-- Shows the value of an expression. -/
def expr : Tool := fun arguments s =>
  let arguments := match arguments with
    | "--" :: rest => rest
    | rest => rest
  if arguments.isEmpty then refuse s "expr" "missing operand" 2
  else
    let fuel := 40 * arguments.length + 40
    match (exprValue fuel 0 none).run (arguments, "") with
    | .error fault => report s "expr" fault.message 2
    | .ok (_, w :: _, _) => report s "expr" (ExprFault.unexpected w).message 2
    | .ok (v, [], _) => emitLine (s.done (if isNull v then 1 else 0)) "expr" v

/-! ### Texts -/

/-- The character of an escape in the words of `echo`, and what follows it. -/
def echoEscape (s : List Char) : List Char × List Char :=
  match s with
  | '0' :: rest =>
    let digits := Radix.leading 8 (rest.take 3)
    ([Char.ofNat (Radix.ofDigits 8 digits % 256)], rest.drop digits.length)
  | 'x' :: rest =>
    let digits := Radix.leading 16 (rest.take 2)
    if digits.isEmpty then (['\\', 'x'], rest)
    else ([Char.ofNat (Radix.ofDigits 16 digits)], rest.drop digits.length)
  | c :: rest =>
    match Format.simpleEscape? c with
    | some e => ([e], rest)
    | none => (['\\', c], rest)
  | [] => (['\\'], [])

/-- A text with the escapes of `echo` replaced, and whether `\c` has ended it. -/
def echoText : Nat → List Char → List Char × Bool
  | 0, _ | _, [] => ([], false)
  | _, '\\' :: 'c' :: _ => ([], true)
  | fuel + 1, c :: rest =>
    let (text, rest) := if c = '\\' then echoEscape rest else ([c], rest)
    let (more, ended) := echoText fuel rest
    (text ++ more, ended)

/-- Shows its arguments. Escapes are only replaced if that is asked for. -/
def echo : Tool := fun arguments s =>
  let isOption := fun (a : String) => match a.toList with
    | '-' :: c :: rest => (c :: rest).all fun c => ['n', 'e', 'E'].contains c
    | _ => false
  let options := arguments.takeWhile isOption
  let letters := options.flatMap (·.toList)
  let words := joined " " (arguments.drop options.length)
  let escapes := (letters.reverse.find? fun c => c = 'e' || c = 'E') = some 'e'
  let (text, ended) := if escapes then echoText (words.length + 1) words.toList
    else (words.toList, false)
  emit (s.done 0) "echo" (text ++ if ended || letters.contains 'n' then [] else ['\n'])

/-- Shows its arguments as a format says. -/
def printf : Tool := fun arguments s =>
  match arguments with
  | "--" :: format :: rest | format :: rest =>
    let p := Format.printed format rest
    let s := p.warnings.foldl (fun s w => s.complain s!"printf: {w}") (s.done 0)
    let s := emit s "printf" p.shown.reverse
    match p.fault with
    | some fault => report s "printf" fault 1
    | none => if p.warnings.isEmpty then s else s.done 1
  | [] => refuse s "printf" "missing operand" 1

/-- Shows a line without end. Who reads it stops it. -/
def yes : Tool := fun arguments s =>
  let line := (if arguments.isEmpty then "y" else joined " " arguments).toList ++ ['\n']
  match s.descriptors.get? 1 with
  | none => report s "yes" "standard output: Bad file descriptor" 1
  | some d =>
    match s.world.opening d.opening with
    | .pipe _ =>
      if d.opening = 1 || d.opening = 2 then s.expire
      else
        let s := emit s "yes" ((List.replicate (65536 / line.length + 1) line).flatten)
        { s with flow := some (.ended (.signaled 13)) }
    | .device .null => s.expire
    | _ => report s "yes" "standard output: No space left on device" 1

/-- Shows the names and values of the environment. -/
def printenv : Tool := fun arguments s =>
  if arguments.isEmpty then
    emit (s.done 0) "printenv" (s.environment.flatMap fun (n, v) => (n ++ "=" ++ v ++ "\n").toList)
  else arguments.foldl (fun s name => match s.environment.lookup name with
    | some v => emitLine s "printenv" v
    | none => s.done 1) (s.done 0)

/-- Shows the working directory. -/
def pwd : Tool := fun _ s =>
  emitLine (s.done 0) "pwd" (Octets.ofText ("/" ++ "/".intercalate s.place))

/-- Tells whether a condition holds. -/
def test (brackets : Bool) : Tool := fun arguments s =>
  if brackets && arguments.getLast? ≠ some "]" then report s "[" "missing ']'" 2
  else
    match Condition.holds s (if brackets then arguments.dropLast else arguments) with
    | .ok holds => s.done (if holds then 0 else 1)
    | .error message => report s (if brackets then "[" else "test") message 2

/-! ### The system -/

/-- Shows who is working. -/
def whoami : Tool := fun _ s => emitLine (s.done 0) "whoami" "root"

/-- Shows who is working, with numbers. -/
def id : Tool := fun arguments s =>
  let text := match arguments with
    | [] => "uid=0(root) gid=0(root) groups=0(root)"
    | a :: _ => if a.toList.contains 'n' then "root" else "0"
  emitLine (s.done 0) "id" text

/-- Shows the kind of the system. -/
def uname : Tool := fun arguments s =>
  let has := fun (c : Char) => arguments.any fun a => a.toList.contains c || a.toList.contains 'a'
  let parts := [('s', "Linux"), ('n', "localhost"), ('m', "x86_64"), ('o', "GNU/Linux")]
  let shown := if arguments.isEmpty then ["Linux"]
    else parts.filterMap fun (c, text) => if has c then some text else none
  emitLine (s.done 0) "uname" (joined " " shown)

/-- Shows the name of the machine. -/
def hostname : Tool := fun _ s => emitLine (s.done 0) "hostname" "localhost"

/-- Shows the number of processors. -/
def nproc : Tool := fun _ s => emitLine (s.done 0) "nproc" "1"

/-- Waits. -/
def sleep : Tool :=
  withOptions "sleep" {} 1 fun o s =>
    if o.operands.isEmpty then refuse s "sleep" "missing operand" 1
    else
      match o.operands.filter fun a => (seconds? a).isNone with
      | [] => (s.done 0).pass (o.operands.foldl (fun n a => n + (seconds? a).getD 0) 0)
      | wrong =>
        let s := wrong.foldl (fun s a =>
          s.complain s!"sleep: invalid time interval {quoted a}") s
        (s.complain "Try 'sleep --help' for more information.").done 1

end FaultDrill.Shell.Tools
