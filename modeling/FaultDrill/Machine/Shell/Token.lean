import FaultDrill.Machine.Shell.Source

/-!
# FaultDrill.Machine.Shell.Token

Reading words and tokens. Within a word, quotation marks, parameters, expressions and commands may
stand within one another; how deep, is bounded by the number of characters that remain.
-/

namespace FaultDrill.Shell

/-! ### Where words stand -/

/-- Where a word is being read. -/
inductive Setting where
  | plain
  /-- Within double quotation marks. -/
  | quoted
  /-- In a text of the script. -/
  | document
  /-- In an arithmetic expression. -/
  | expression
  /-- As the mark that ends a text of the script, in which nothing is expanded. -/
  | mark
  deriving DecidableEq

/-- Where a word is being read, and whether within the braces of a parameter. -/
structure Context where
  setting : Setting
  braces : Bool

/-- Whether characters stand as in quotation marks. -/
def Context.isQuoted (ctx : Context) : Bool :=
  match ctx.setting with
  | .plain | .mark => false
  | .quoted | .document | .expression => true

/-- Whether a backslash before a character stands for itself within quotation marks. -/
def Context.keepsBackslash (ctx : Context) (c : Char) : Bool :=
  c ≠ '\\' && c.toNat ≠ 96 && c ≠ '$' && (c ≠ '"' || (ctx.setting = .document && !ctx.braces)) &&
    (c ≠ '\x7d' || !ctx.braces)

/-- The cause of a word that does not end. -/
def Context.openCause (ctx : Context) : SyntaxCause :=
  match ctx.setting with
  | .expression => .openExpression
  | .quoted => .openQuotes
  | .plain | .document | .mark => .openBraces

/-- The characters that end a word. -/
def endsWord (c : Char) : Bool :=
  [' ', '\t', '\n', ';', '&', '|', '<', '>', '(', ')'].contains c

/-- The parts of a word, the last one first, with a further text. -/
def addText (s : String) (quoted : Bool) : List Part → List Part
  | .text t q :: rest =>
    if q = quoted then .text (t ++ s) q :: rest else .text s quoted :: .text t q :: rest
  | read => .text s quoted :: read

/-! ### Quoted texts -/

/-- The text up to an apostrophe. -/
def readApostrophes : Nat → List Char → Reader String
  | 0, _ => refuse .openQuotes
  | fuel + 1, read => do
    match ← takeChar with
    | none => refuse .openQuotes
    | some '\'' => return String.ofList read.reverse
    | some c => readApostrophes fuel (c :: read)

/-- The text up to a backquote, in which a backslash before some characters is dropped. -/
def readBackquoted (quoted : Bool) : Nat → List Char → Reader (List Char)
  | 0, _ => refuse .openBackquote
  | fuel + 1, read => do
    match ← peek with
    | none => refuse .openBackquote
    | some c =>
      advance
      if c.toNat = 96 then return read.reverse
      else if c = '\\' then
        match ← takeChar with
        | none => refuse .openBackquote
        | some d =>
          if d = '\\' ∨ d.toNat = 96 ∨ d = '$' ∨ (quoted ∧ d = '"') then
            readBackquoted quoted fuel (d :: read)
          else readBackquoted quoted fuel (d :: '\\' :: read)
      else readBackquoted quoted fuel (c :: read)

/-! ### Parameters -/

/-- The single characters that are parameters. -/
def isSpecialParameter (c : Char) : Bool :=
  ['*', '@', '#', '?', '-', '$', '!'].contains c || c.isDigit

/-- The name of a parameter within braces, and whether its length is asked for. There is no name if
there can be no such parameter. -/
def readParameterName : Reader (Option String × Bool) := do
  match ← peek with
  | none => return (none, false)
  | some c =>
    if startsName c then return (some (← takeName), false)
    else if c.isDigit then return (some (← takeDigits), false)
    else if c = '#' then
      advance
      match ← peek with
      | none => return (some "#", false)
      | some d =>
        if startsName d then return (some (← takeName), true)
        else if d.isDigit then return (some (← takeDigits), true)
        else
          -- the length of a special parameter, if nothing follows it
          match (← get).chars with
          | _ :: '\x7d' :: _ =>
            if d = '\x7d' then return (some "#", false)
            else
              advance
              return (if isSpecialParameter d then some (String.singleton d) else none, true)
          | _ => return (some "#", false)
    else if isSpecialParameter c then
      advance
      return (some (String.singleton c), false)
    else return (none, false)

/-- How a parameter within braces is used, before the word or the pattern is read. -/
inductive Operator where
  | done
  /-- What follows up to the brace is of no account. -/
  | ignoring
  | check (fallback : Fallback) (orEmpty : Bool)
  | trim (atEnd longest : Bool)
  | bad

/-- The fallback of a character. -/
def fallback? : Char → Option Fallback
  | '-' => some .other
  | '+' => some .instead
  | '=' => some .assigned
  | '?' => some .required
  | _ => none

/-- Reads how a parameter is used. -/
def readOperator : Reader Operator := do
  match ← peek with
  | none => return .bad
  | some '\x7d' =>
    advance
    return .done
  | some ':' =>
    advance
    match ← peek with
    | none => return .bad
    | some c =>
      advance
      match fallback? c with
      | some fallback => return .check fallback true
      | none => return if c = '\x7d' then .ignoring else .bad
  | some '%' =>
    advance
    return .trim true (← accept '%')
  | some '#' =>
    advance
    return .trim false (← accept '#')
  | some c =>
    advance
    match fallback? c with
    | some fallback => return .check fallback false
    | none => return .bad

/-! ### Words -/

mutual

/-- The parts of a word up to its end, which is taken with them unless other words can follow it.
The number is that of open parentheses in an expression. -/
def readParts (inner : InnerReader) (ctx : Context) (fuel opened : Nat) (read : List Part) :
    Reader Word :=
  match fuel with
  | 0 => refuse .nesting
  | fuel + 1 => do
    match ← peek with
    | none =>
      if !ctx.braces && (ctx.setting matches .plain | .document | .mark) then return read.reverse
      else refuse ctx.openCause
    | some c =>
      if c = '\x7d' && ctx.braces then
        advance
        return read.reverse
      else if c = '$' && ctx.setting ≠ .mark then
        advance
        readParts inner ctx fuel opened ((← readDollar inner ctx fuel) :: read)
      else if c.toNat = 96 && ctx.setting ≠ .mark then
        advance
        let script ← readBackquoted ctx.isQuoted (← remaining) []
        let command ← readFrom script (inner true)
        readParts inner ctx fuel opened (.output command ctx.isQuoted :: read)
      else if c = '\\' then
        advance
        match ← takeChar with
        | none => readParts inner ctx fuel opened (addText "\\" true read)
        | some d =>
          let kept := ctx.isQuoted && ctx.keepsBackslash d
          let read := addText (String.ofList (if kept then ['\\', d] else [d])) true read
          readParts inner ctx fuel opened read
      else if c = '"' && ctx.setting ≠ .expression then
        advance
        if ctx.setting = .quoted && !ctx.braces then return read.reverse
        else if ctx.setting = .document && !ctx.braces then
          readParts inner ctx fuel opened (addText "\"" true read)
        else
          let within ← readParts inner ⟨.quoted, false⟩ fuel 0 []
          let standsForArguments := match within with
            | [.parameter "@" .value _] => true
            | _ => false
          let read := if standsForArguments then read else addText "" true read
          readParts inner ctx fuel opened (within.reverse ++ read)
      else if c = '\'' && (ctx.setting matches .plain | .mark) then
        advance
        let s ← readApostrophes (← remaining) []
        readParts inner ctx fuel opened (addText s true read)
      else if (ctx.setting matches .plain | .mark) && !ctx.braces && endsWord c then
        return read.reverse
      else if ctx.setting = .expression && !ctx.braces && c = '(' then
        advance
        readParts inner ctx fuel (opened + 1) (addText "(" true read)
      else if ctx.setting = .expression && !ctx.braces && c = ')' then
        advance
        if opened = 0 then
          if ← accept ')' then return read.reverse
        readParts inner ctx fuel (opened - 1) (addText ")" true read)
      else
        advance
        readParts inner ctx fuel opened (addText (String.singleton c) ctx.isQuoted read)
  termination_by structural fuel

/-- What a dollar sign introduces. -/
def readDollar (inner : InnerReader) (ctx : Context) (fuel : Nat) : Reader Part :=
  match fuel with
  | 0 => refuse .nesting
  | fuel + 1 => do
    let quoted := ctx.isQuoted
    match ← peek with
    | none => return .text "$" quoted
    | some c =>
      if c = '(' then
        advance
        if ← accept '(' then
          return .arithmetic (← readParts inner ⟨.expression, false⟩ fuel 0 []) quoted
        else
          let before ← get
          set { before with pushed := none, awaited := [] }
          let command ← inner true
          match (← get).pushed with
          | some (.operator ")") =>
            modify fun s => { s with pushed := before.pushed, awaited := before.awaited }
            return .output command quoted
          | some t => refuseToken t (some ")")
          | none => refuse .nesting
      else if c = '\x7b' then
        advance
        readBraced inner ctx fuel
      else if startsName c then return .parameter (← takeName) .value quoted
      else if isSpecialParameter c then
        advance
        return .parameter (String.singleton c) .value quoted
      else return .text "$" quoted
  termination_by structural fuel

/-- A parameter in braces, after the opening one. -/
def readBraced (inner : InnerReader) (ctx : Context) (fuel : Nat) : Reader Part :=
  match fuel with
  | 0 => refuse .nesting
  | fuel + 1 => do
    let within : Context := ⟨if ctx.setting = .expression then .quoted else ctx.setting, true⟩
    let (name, isLength) ← readParameterName
    let use : Option Operator ←
      if isLength then
        if ← accept '\x7d' then pure none else pure (some .bad)
      else if name.isNone then pure (some .bad)
      else some <$> readOperator
    let name := name.getD ""
    match use with
    | none => return .parameter name (if name = "" then .unknown else .length) ctx.isQuoted
    | some .done => return .parameter name .value ctx.isQuoted
    | some .ignoring =>
      let _ ← readParts inner within fuel 0 []
      return .parameter name .value ctx.isQuoted
    | some (.check fallback orEmpty) =>
      let word ← readParts inner within fuel 0 []
      return .parameter name (.check fallback orEmpty word) ctx.isQuoted
    | some (.trim atEnd longest) =>
      let pattern ← readParts inner ⟨.plain, true⟩ fuel 0 []
      return .parameter name (.trim atEnd longest pattern) ctx.isQuoted
    | some .bad =>
      let _ ← readParts inner within fuel 0 []
      return .parameter name .unknown ctx.isQuoted
  termination_by structural fuel

end

/-- A word in some setting. -/
def readWord (inner : InnerReader) (setting : Setting) : Reader Word := do
  readParts inner ⟨setting, false⟩ (4 * (← remaining)) 0 []

/-! ### Texts in the script -/

/-- The text of the mark that ends a text in the script. -/
def markText (w : Word) : String :=
  w.foldl (fun s part => match part with
    | .text t _ => s ++ t
    | _ => s) ""

/-- Whether the end of a line belongs to the line, because of a backslash before it. -/
def isContinued (line : List Char) : Bool :=
  (line.reverse.takeWhile (· = '\\')).length % 2 = 1

/-- The lines of a text in the script up to its mark, and what follows them. The flag says whether a
line starts here. -/
def documentLines (d : Awaited) : Nat → Bool → List Char → List Char × List Char
  | 0, _, s => ([], s)
  | fuel + 1, starts, s =>
    if s.isEmpty then ([], [])
    else
      let line := s.takeWhile (· ≠ '\n')
      let after := s.drop line.length
      let line := if d.dropTabs && starts then line.dropWhile (· = '\t') else line
      if starts && String.ofList line = d.mark then ([], after.drop 1)
      else
        let (more, rest) := documentLines d fuel (d.quoted || !isContinued line) (after.drop 1)
        (line ++ after.take 1 ++ more, rest)

/-- Reads the texts that begin on the next line. -/
def readDocuments (inner : InnerReader) : List Awaited → Reader Unit
  | [] => modify fun s => { s with awaited := [] }
  | d :: rest => do
    let s ← get
    let (body, after) := documentLines d (s.chars.length + 1) true s.chars
    let word : Word ←
      if d.quoted then pure [.text (String.ofList body) true]
      else readFrom body (readWord inner .document)
    let passed := s.chars.take (s.chars.length - after.length)
    modify fun t => { t with
      chars := after
      line := s.line + passed.count '\n'
      documents := (d.number, word) :: t.documents }
    readDocuments inner rest

/-! ### Tokens -/

/-- The sign of a redirection whose first character has been taken. -/
def readSign (c : Char) : Reader RedirectSign := do
  if c = '<' then
    if ← accept '<' then return .document (← accept '-')
    else if ← accept '&' then return .kind .duplicate
    else if ← accept '>' then return .kind .readWrite
    else return .kind .read
  else if ← accept '>' then return .kind .append
  else if ← accept '|' then return .kind (.write true)
  else if ← accept '&' then return .kind .duplicate
  else return .kind (.write false)

/-- The stream that a word before a redirection names, if it names one or is empty. -/
def streamOf? (w : Word) (standard : Nat) : Option Nat :=
  match w with
  | [] => some standard
  | [.text s false] =>
    match s.toList with
    | [d] => if d.isDigit then some (d.toNat - '0'.toNat) else none
    | _ => none
  | _ => none

/-- The next token of the text. -/
def readNext (inner : InnerReader) : Nat → Reader Token
  | 0 => refuse .nesting
  | fuel + 1 => do
    match ← peek with
    | none =>
      readDocuments inner (← get).awaited
      return .endOfFile
    | some c =>
      if c = ' ' ∨ c = '\t' then
        advance
        readNext inner fuel
      else if c = '#' then
        modify fun s => { s with chars := s.chars.dropWhile (· ≠ '\n') }
        readNext inner fuel
      else if c = '\n' then
        advance
        readDocuments inner (← get).awaited
        return .newline
      else if c = '&' ∨ c = '|' ∨ c = ';' then
        advance
        return .operator (String.ofList (if ← accept c then [c, c] else [c]))
      else if c = '(' ∨ c = ')' then
        advance
        return .operator (String.singleton c)
      else
        let w ← readWord inner .plain
        match ← peek with
        | some c =>
          let stream? := streamOf? w (if c = '<' then 0 else 1)
          match c = '<' || c = '>', stream? with
          | true, some stream =>
            advance
            return .redirect stream (← readSign c)
          | _, _ => return .word w
        | none => return .word w

/-- A token. Ends of lines may be passed over, and keywords told from words. -/
def readTokenFrom (inner : InnerReader) (skipsLines seesKeywords : Bool) : Nat → Reader Token
  | 0 => refuse .nesting
  | fuel + 1 => do
    let t ← match (← get).pushed with
      | some t =>
        modify fun s => { s with pushed := none }
        pure t
      | none => readNext inner (← remaining)
    match t with
    | .newline =>
      if skipsLines then readTokenFrom inner skipsLines seesKeywords fuel else return .newline
    | .word [.text s false] =>
      if seesKeywords && keywords.contains s then return .keyword s
      else if (← get).aliases.isEmpty then return t
      else if ← replaceAlias s seesKeywords then
        readTokenFrom inner skipsLines seesKeywords fuel
      else return t
    | t => return t

/-- A token. Ends of lines may be passed over, and keywords told from words. -/
def readToken (inner : InnerReader) (skipsLines seesKeywords : Bool) : Reader Token := do
  readTokenFrom inner skipsLines seesKeywords (2 * (← remaining))

/-- The target of a redirection. -/
def readTarget (inner : InnerReader) (stream : Nat) (sign : RedirectSign) : Reader Redirect := do
  match sign with
  | .kind k =>
    match ← readToken inner false false with
    | .word w => return .mk stream k w
    | t => refuseToken t none
  | .document dropTabs =>
    let s ← get
    set { s with chars := s.chars.dropWhile fun c => c = ' ' || c = '\t' }
    let next ← peek
    if (next.map endsWord).getD true then refuseToken (← readToken inner false false) none
    else
      let w ← readWord inner .mark
      let number := (← get).nextDocument
      modify fun s => { s with
        nextDocument := number + 1
        awaited := s.awaited ++ [⟨number, markText w, w.any Part.isQuoted, dropTabs⟩] }
      return .mk stream (.document number) []

end FaultDrill.Shell
