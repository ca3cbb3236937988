import FaultDrill.Machine.Shell.Awk.Basic

/-!
# FaultDrill.Machine.Shell.Awk.Parser

Reading programs. Expressions are read by their levels, from the choice between two values, which
binds least, to single values. Two values that follow each other are joined.
-/

namespace FaultDrill.Shell.Awk

open FaultDrill.Text

/-! ### Tokens -/

/-- What a program consists of. -/
inductive Token where
  | number (x : Float)
  | text (s : List Char)
  | regex (s : List Char)
  | name (s : String)
  /-- A name directly before a parenthesis. -/
  | function (s : String)
  | mark (s : String)
  | newline

/-- The words that are no names. -/
def reserved : List String :=
  ["BEGIN", "END", "if", "else", "while", "for", "do", "break", "continue", "next", "exit",
    "delete", "in", "print", "printf"]

/-- The functions. -/
def functions : List String :=
  ["length", "substr", "index", "split", "sub", "gsub", "match", "sprintf", "int", "toupper",
    "tolower", "sqrt", "exp", "log", "sin", "cos", "atan2", "close"]

/-- The operators and other marks, longer ones before those that they start with. -/
def marks : List String :=
  ["&&", "||", "==", "!=", "<=", ">=", "++", "--", "+=", "-=", "*=", "/=", "%=", "^=", "!~",
    ">>", "\x7b", "\x7d", "(", ")", "[", "]", ";", ",", "+", "-", "*", "/", "%", "^", "!",
    "<", ">", "~", "?", ":", "=", "$"]

/-- Whether a value can end with a token, after which a slash divides. -/
def Token.endsValue : Token → Bool
  | .number _ | .text _ | .regex _ => true
  | .name s => !reserved.contains s
  | .mark s => s = ")" || s = "]" || s = "$" || s = "++" || s = "--"
  | .function _ | .newline => false

/-- The text up to a closing mark, with its escapes replaced, and what follows it. -/
def textUpTo : Nat → List Char → Option (List Char × List Char)
  | 0, _ | _, [] | _, '\n' :: _ => none
  | _ + 1, '"' :: rest => some ([], rest)
  | fuel + 1, '\\' :: c :: rest =>
    if c = '\n' then textUpTo fuel rest
    else if c = '"' || c = '/' then (textUpTo fuel rest).map fun (t, left) =>
      (if c = '/' then '\\' :: c :: t else c :: t, left)
    else
      let (e, left) := Format.escape (c :: rest)
      (textUpTo fuel left).map fun (t, left) => (e :: t, left)
  | fuel + 1, c :: rest => (textUpTo fuel rest).map fun (t, left) => (c :: t, left)

/-- The expression up to a slash, and what follows it. -/
def regexUpTo : Nat → List Char → Option (List Char × List Char)
  | 0, _ | _, [] | _, '\n' :: _ => none
  | _ + 1, '/' :: rest => some ([], rest)
  | fuel + 1, '\\' :: c :: rest => (regexUpTo fuel rest).map fun (t, left) =>
    (if c = '/' then c :: t else '\\' :: c :: t, left)
  | fuel + 1, c :: rest => (regexUpTo fuel rest).map fun (t, left) => (c :: t, left)

/-- The number of the line on which a rest of a program starts. -/
def lineAt (whole rest : List Char) : Nat :=
  (whole.take (whole.length - rest.length)).count '\n' + 1

/-- The tokens of a program, each with its line. -/
def tokens (whole : List Char) : Nat → Option Token → List Char →
    Except String (List (Token × Nat))
  | 0, _, _ | _, _, [] => .ok []
  | fuel + 1, last, c :: rest =>
    let line := lineAt whole (c :: rest)
    let found := fun (t : Token) (left : List Char) => do
      return (t, line) :: (← tokens whole fuel (some t) left)
    if c = '\n' then found .newline rest
    else if Number.isBlank c then tokens whole fuel last rest
    else if c = '\\' && rest.head? = some '\n' then tokens whole fuel last (rest.drop 1)
    else if c = '#' then tokens whole fuel last (rest.dropWhile (· ≠ '\n'))
    else if c = '"' then
      match textUpTo (rest.length + 1) rest with
      | some (text, left) => found (.text text) left
      | none => .error s!"line {line}: runaway string constant \"{String.ofList (rest.take 10)} ..."
    else if c = '/' && !(last.map Token.endsValue).getD false then
      match regexUpTo (rest.length + 1) rest with
      | some (text, left) => found (.regex text) left
      | none =>
        .error s!"line {line}: runaway regular expression /{String.ofList (rest.take 10)} ..."
    else if c.isDigit || c = '.' && (rest.head?.map Char.isDigit).getD false then
      match leadingNumber? (c :: rest) with
      | some (x, left) => found (.number x) left
      | none => .ok []
    else if c.isAlpha || c = '_' then
      let isPart := fun (c : Char) => c.isAlphanum || c = '_'
      let name := String.ofList ((c :: rest).takeWhile isPart)
      let left := rest.dropWhile isPart
      if left.head? = some '(' && !reserved.contains name || functions.contains name then
        found (.function name) left
      else found (.name name) left
    else
      match marks.find? fun m => m.toList.isPrefixOf (c :: rest) with
      | some m => found (.mark m) ((c :: rest).drop m.length)
      | none => .error s!"line {line}: syntax error at or near {c}"

/-! ### Readers -/

/-- A reader of a part of a program. -/
abbrev Reader := StateT (List (Token × Nat)) (Except String)

/-- A token in messages. -/
def Token.shown : Token → String
  | .number x => String.ofList (numberText x)
  | .text s => "\"" ++ String.ofList s ++ "\""
  | .regex s => "/" ++ String.ofList s ++ "/"
  | .name s | .function s | .mark s => s
  | .newline => "end of line"

/-- Gives up at the next token. -/
def unexpected {α : Type} : Reader α := do
  match ← get with
  | (t, line) :: _ => throw s!"line {line}: syntax error at or near {t.shown}"
  | [] => throw "line 1: syntax error at or near end of line"

/-- The next token. -/
def next? : Reader (Option Token) := do
  return (← get).head?.map (·.1)

/-- Takes a token. -/
def advance : Reader Unit :=
  modify (·.drop 1)

/-- Whether the next token is a mark. -/
def sees (m : String) : Reader Bool := do
  match ← next? with
  | some (.mark s) => return s = m
  | _ => return false

/-- Whether the next token is a word. -/
def seesWord (w : String) : Reader Bool := do
  match ← next? with
  | some (.name s) => return s = w
  | _ => return false

/-- Takes a mark if it is the next token. -/
def accept (m : String) : Reader Bool := do
  if ← sees m then
    advance
    return true
  else return false

/-- Takes a word if it is the next token. -/
def acceptWord (w : String) : Reader Bool := do
  if ← seesWord w then
    advance
    return true
  else return false

/-- Takes a mark, which has to be the next token. -/
def expect (m : String) : Reader Unit := do
  if !(← accept m) then unexpected

/-- Passes the ends of lines over. -/
def skipLines : Reader Unit :=
  modify (·.dropWhile fun (t, _) => t matches .newline)

/-- Passes the ends of lines and of statements over. -/
def skipEnds : Reader Unit :=
  modify (·.dropWhile fun (t, _) => match t with
    | .newline | .mark ";" => true
    | _ => false)

/-- A name. -/
def name : Reader String := do
  match ← next? with
  | some (.name s) =>
    if reserved.contains s then unexpected
    advance
    return s
  | _ => unexpected

/-- A regular expression from its text. -/
def regexOf (s : List Char) : Except String Regex :=
  match Regex.ofText true (unescaped s) with
  | .ok r => .ok r
  | .error fault => .error s!"regular expression compile failed ({fault.message})"
where
  /-- A text in which the escapes of characters that are not seen are replaced. -/
  unescaped : List Char → List Char
    | '\\' :: c :: rest =>
      (match c with
        | 'n' => ['\n']
        | 't' => ['\t']
        | 'r' => ['\r']
        | '"' => ['"']
        | '/' => ['/']
        | c => ['\\', c]) ++ unescaped rest
    | c :: rest => c :: unescaped rest
    | [] => []

/-- Whether a value can be assigned to. -/
def Expr.isPlace : Expr → Bool
  | .named _ | .element .. | .field _ => true
  | _ => false

/-- The operators of a level, between two values. -/
def operatorsOf (level : Nat) (noGreater : Bool) : List String :=
  match level with
  | 1 => ["||"]
  | 2 => ["&&"]
  | 4 => ["~", "!~"]
  | 5 => ["<", "<=", "==", "!=", ">="] ++ if noGreater then [] else [">"]
  | 7 => ["+", "-"]
  | 8 => ["*", "/", "%"]
  | _ => []

/-- Whether a token after a value starts another one that is joined to it. -/
def joinsValue : Token → Bool
  | .number _ | .text _ | .regex _ | .function _ => true
  | .name s => !reserved.contains s
  | .mark s => ["$", "(", "++", "--"].contains s
  | .newline => false

/-- The value of a function that is called without arguments. -/
def bareCall (function : String) : Reader Expr :=
  if function = "length" then return .call "length" [.field (.number 0)] else unexpected

mutual

/-- An expression. Inside of a list that is printed the greater sign stands for a file. -/
def expression (fuel : Nat) (noGreater : Bool) : Reader Expr := do
  match fuel with
  | 0 => throw "program too deep"
  | fuel + 1 =>
    let e ← level fuel 0 noGreater
    if !e.isPlace then return e
    for o in ["=", "+=", "-=", "*=", "/=", "%=", "^="] do
      if ← accept o then
        skipLines
        let value ← expression fuel noGreater
        let operator := String.ofList o.toList.dropLast
        return .assign (if operator = "" then none else some operator) e value
    return e
  termination_by structural fuel

/-- An expression of a level. -/
def level (fuel l : Nat) (noGreater : Bool) : Reader Expr := do
  match fuel with
  | 0 => throw "program too deep"
  | fuel + 1 =>
    if l = 0 then
      let c ← level fuel 1 noGreater
      if ← accept "?" then
        skipLines
        let a ← expression fuel noGreater
        skipLines
        expect ":"
        skipLines
        return .choice c a (← expression fuel noGreater)
      else return c
    else if l = 9 then
      if ← accept "!" then return .invert (← level fuel 9 noGreater)
      else if ← accept "-" then return .negate (← level fuel 9 noGreater)
      else if ← accept "+" then
        return .binary "+" (.number 0) (← level fuel 9 noGreater)
      else
        let base ← stepped fuel noGreater
        if ← accept "^" then
          return .binary "^" base (← level fuel 9 noGreater)
        else return base
    else others fuel l noGreater (← level fuel (l + 1) noGreater)
  termination_by structural fuel

/-- What is joined to an expression of a level. -/
def others (fuel l : Nat) (noGreater : Bool) (first : Expr) : Reader Expr := do
  match fuel with
  | 0 => throw "program too deep"
  | fuel + 1 =>
    match l, ← next? with
    | 3, some (.name "in") =>
      advance
      others fuel l noGreater (.isIn [first] (← name))
    | 6, some t =>
      if joinsValue t then others fuel l noGreater (.concat first (← level fuel 7 noGreater))
      else return first
    | _, some (.mark o) =>
      if (operatorsOf l noGreater).contains o then
        advance
        skipLines
        let second ← level fuel (l + 1) noGreater
        others fuel l noGreater (match o with
          | "||" => .either first second
          | "&&" => .both first second
          | "~" => .isMatch false first second
          | "!~" => .isMatch true first second
          | o => .binary o first second)
      else return first
    | _, _ => return first
  termination_by structural fuel

/-- A value with a change by one before or after it. -/
def stepped (fuel : Nat) (noGreater : Bool) : Reader Expr := do
  match fuel with
  | 0 => throw "program too deep"
  | fuel + 1 =>
    if ← accept "++" then return .step true 1 (← single fuel noGreater)
    else if ← accept "--" then return .step true (-1) (← single fuel noGreater)
    else
      let e ← single fuel noGreater
      if e.isPlace then
        if ← accept "++" then return .step false 1 e
        else if ← accept "--" then return .step false (-1) e
      return e
  termination_by structural fuel

/-- A value that stands alone. -/
def single (fuel : Nat) (noGreater : Bool) : Reader Expr := do
  match fuel with
  | 0 => throw "program too deep"
  | fuel + 1 =>
    match ← next? with
    | some (.number x) =>
      advance
      return .number x
    | some (.text s) =>
      advance
      return .text s
    | some (.regex s) =>
      advance
      return .regex (← regexOf s)
    | some (.mark "$") =>
      advance
      if ← accept "++" then return .field (.step true 1 (← single fuel noGreater))
      else if ← accept "--" then return .field (.step true (-1) (← single fuel noGreater))
      else if ← accept "-" then return .field (.negate (← single fuel noGreater))
      else return .field (← single fuel noGreater)
    | some (.mark "(") =>
      advance
      skipLines
      let e ← expression fuel false
      if ← sees "," then
        let rest ← moreExpressions fuel false
        expect ")"
        if !(← acceptWord "in") then unexpected
        return .isIn (e :: rest) (← name)
      else
        skipLines
        expect ")"
        return .group e
    | some (.function f) =>
      if !functions.contains f then
        let (_, line) := (← get).headD (.newline, 1)
        throw s!"line {line}: function {f} never defined"
      advance
      if ← accept "(" then
        skipLines
        if ← accept ")" then bareCall f
        else
          let first ← expression fuel false
          let rest ← moreExpressions fuel false
          skipLines
          expect ")"
          return .call f (first :: rest)
      else bareCall f
    | some (.name _) =>
      let n ← name
      if ← accept "[" then
        let first ← expression fuel false
        let rest ← moreExpressions fuel false
        expect "]"
        return .element n (first :: rest)
      else return .named n
    | _ => unexpected
  termination_by structural fuel

/-- Expressions that are separated by commas, from a comma on. -/
def moreExpressions (fuel : Nat) (noGreater : Bool) : Reader (List Expr) := do
  match fuel with
  | 0 => throw "program too deep"
  | fuel + 1 =>
    if ← accept "," then
      skipLines
      let e ← expression fuel noGreater
      return e :: (← moreExpressions fuel noGreater)
    else return []
  termination_by structural fuel

end

/-! ### Statements -/

/-- Whether a statement ends before the next token. -/
def atEnd : Reader Bool := do
  match ← next? with
  | none | some .newline | some (.mark ";") | some (.mark "\x7d") => return true
  | _ => return false

/-- The arguments of a printing statement, which may stand in parentheses. -/
def printed (fuel : Nat) : Reader (List Expr) := do
  let start ← get
  let inParentheses : Reader (Option (List Expr)) := do
    if !(← accept "(") then return none
    let first ← expression fuel false
    let rest ← moreExpressions fuel false
    if !(← accept ")") then return none
    if (← atEnd) || (← sees ">") || (← sees ">>") then return some (first :: rest)
    else return none
  match inParentheses.run start with
  | .ok (some es, left) =>
    set left
    return es
  | _ =>
    if (← atEnd) || (← sees ">") || (← sees ">>") then return []
    else
      let first ← expression fuel true
      return first :: (← moreExpressions fuel true)

/-- The target of a printing statement. -/
def target (fuel : Nat) : Reader Target := do
  if ← accept ">" then return .file (← expression fuel true)
  else if ← accept ">>" then return .fileEnd (← expression fuel true)
  else return .output

/-- A statement without others in it. -/
def simple (fuel : Nat) : Reader Statement := do
  match ← next? with
  | some (.name "print") =>
    advance
    let es ← printed fuel
    return .print es (← target fuel)
  | some (.name "printf") =>
    advance
    let es ← printed fuel
    if es.isEmpty then unexpected
    return .printFormatted es (← target fuel)
  | some (.name "next") =>
    advance
    return .next
  | some (.name "exit") =>
    advance
    if ← atEnd then return .exit none
    else return .exit (some (← expression fuel false))
  | some (.name "break") =>
    advance
    return .leave
  | some (.name "continue") =>
    advance
    return .goOn
  | some (.name "delete") =>
    advance
    let array ← name
    if ← accept "[" then
      let first ← expression fuel false
      let rest ← moreExpressions fuel false
      expect "]"
      return .delete array (first :: rest)
    else return .delete array []
  | _ => return .expression (← expression fuel false)

/-- The end of a statement. -/
def endOfStatement : Reader Unit := do
  match ← next? with
  | none | some (.mark "\x7d") => return ()
  | some .newline | some (.mark ";") => advance
  | _ => unexpected

mutual

/-- Statements up to a closing brace. -/
def block (fuel : Nat) : Reader (List Statement) := do
  match fuel with
  | 0 => throw "program too deep"
  | fuel + 1 =>
    skipEnds
    if ← accept "\x7d" then return []
    else if (← next?).isNone then throw "line 2: missing \x7d near end of file"
    else
      let first ← statement fuel
      return first ++ (← block fuel)
  termination_by structural fuel

/-- A statement, or those in braces. -/
def statement (fuel : Nat) : Reader (List Statement) := do
  match fuel with
  | 0 => throw "program too deep"
  | fuel + 1 =>
    skipLines
    if ← accept ";" then return []
    else if ← accept "\x7b" then block fuel
    else if ← acceptWord "if" then
      expect "("
      let c ← expression fuel false
      expect ")"
      let yes ← statement fuel
      let before ← get
      skipEnds
      if ← acceptWord "else" then return [.branch c yes (← statement fuel)]
      else
        set before
        return [.branch c yes []]
    else if ← acceptWord "while" then
      expect "("
      let c ← expression fuel false
      expect ")"
      if ← accept ";" then return [.loop c [] []]
      else return [.loop c (← statement fuel) []]
    else if ← acceptWord "do" then
      let body ← statement fuel
      skipEnds
      if !(← acceptWord "while") then unexpected
      expect "("
      let c ← expression fuel false
      expect ")"
      endOfStatement
      -- the first time does not depend on the condition
      return [.loop (.number 1) body [.branch c [] [.leave]]]
    else if ← acceptWord "for" then
      expect "("
      match ← get with
      | (.name v, _) :: (.name "in", _) :: (.name a, _) :: (.mark ")", _) :: _ =>
        modify (·.drop 4)
        return [.each v a (← statement fuel)]
      | _ =>
        let first ← if ← sees ";" then pure [] else pure [← simple fuel]
        expect ";"
        skipLines
        let c ← if ← sees ";" then pure (.number 1) else expression fuel false
        expect ";"
        skipLines
        let after ← if ← sees ")" then pure [] else pure [← simple fuel]
        expect ")"
        if ← accept ";" then return first ++ [.loop c [] after]
        else return first ++ [.loop c (← statement fuel) after]
    else
      let s ← simple fuel
      endOfStatement
      return [s]
  termination_by structural fuel

end

/-- The rules of a program. -/
def rules (fuel index : Nat) : Reader (List Rule) := do
  match fuel with
  | 0 => throw "program too deep"
  | fuel + 1 =>
    skipEnds
    match ← next? with
    | none => return []
    | some t =>
      let trigger ← match t with
        | .name "BEGIN" => do
          advance
          pure Trigger.first
        | .name "END" => do
          advance
          pure Trigger.last
        | .mark "\x7b" => pure Trigger.always
        | .mark "\x7d" => do
          let (_, line) := (← get).headD (.newline, 1)
          throw (s!"line {line}: extra '\x7d'\nawk: line {line}: " ++
            "syntax error at or near end of line")
        | _ => do
          let e ← expression fuel false
          if ← accept "," then
            skipLines
            pure (Trigger.range index e (← expression fuel false))
          else pure (Trigger.condition e)
      let body ← if ← accept "\x7b" then block fuel
        else
          match trigger with
          | .first | .last => unexpected
          | _ => pure [.print [] .output]
      return ⟨trigger, body⟩ :: (← rules fuel (index + 1))

/-- The rules of a program text, or why it is no program. -/
def rulesOf (text : List Char) : Except String (List Rule) := do
  let ts ← tokens text (text.length + 1) none text
  return (← (rules (20 * ts.length + 40) 0).run ts).1

end FaultDrill.Shell.Awk
