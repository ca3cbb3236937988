import FaultDrill.Machine.Shell.Arithmetic
import FaultDrill.Machine.Shell.Lifetime
import FaultDrill.Machine.Shell.Fields

/-!
# FaultDrill.Machine.Shell.Expand

What words stand for: parameters, numbers, and what commands write. What comes of that is split into
fields, and fields with patterns stand for the paths that match them.
-/

namespace FaultDrill.Shell

open FaultDrill.Text

/-- What is done with what a word expands to. -/
structure Purpose where
  /-- Whether it is split into fields. -/
  splits : Bool := false
  /-- Whether the text stands in the place of a parameter. -/
  inside : Bool := false

namespace Expand

/-! ### Tildes -/

/-- The directory that a text after a tilde names. -/
def homeOf? (s : State) (user : List Char) : Option String :=
  if user.isEmpty then s.value? "HOME"
  else if user = ['r', 'o', 'o', 't'] then some "/root"
  else none

/-- A text whose tilde at the start is replaced, with what comes of it in quotation marks. -/
def tilde (s : State) (text : String) : String × String :=
  match text.toList with
  | '~' :: rest =>
    let user := rest.takeWhile fun c => c ≠ '/' && c ≠ ':'
    match homeOf? s user with
    | some home => (home, String.ofList (rest.drop user.length))
    | none => ("", text)
  | _ => ("", text)

/-- A word whose tilde at the start is replaced. -/
def withTilde (s : State) (w : Word) : Word :=
  match w with
  | .text t false :: rest =>
    let (home, left) := tilde s t
    if home = "" then w
    else .text home true :: (if left = "" then rest else .text left false :: rest)
  | _ => w

/-- The value of an assignment, in which a tilde can stand after every colon too. -/
def withTildes (s : State) (w : Word) : Word :=
  (w.zipIdx.flatMap fun (part, i) => match part with
    | .text t false =>
      ((t.toList.splitOn ':').zipIdx.flatMap fun (piece, j) =>
        let piece := String.ofList piece
        let (home, left) := if i = 0 || 0 < j then tilde s piece else ("", piece)
        (if j = 0 then [] else [Part.text ":" false]) ++
          (if home = "" then [] else [Part.text home true]) ++
          (if left = "" then [] else [Part.text left false]))
    | part => [part])

/-! ### Values -/

/-- The pieces of a value. -/
def ofValue (quoted splits : Bool) (v : String) : List Glyph :=
  if quoted then if v = "" then [.quotes] else glyphs true false v else glyphs false splits v

/-- The text between arguments that stand in one text. -/
def argumentSeparator (s : State) : String :=
  match s.value? "IFS" with
  | some "" => ""
  | some separators => String.ofList (separators.toList.take 1)
  | none => " "

/-- The pieces of all arguments. -/
def ofArguments (s : State) (purpose : Purpose) (name : String) (quoted : Bool) : List Glyph :=
  if !purpose.splits || (quoted && name = "*") then
    ofValue quoted purpose.splits ((argumentSeparator s).intercalate s.arguments)
  else
    s.arguments.zipIdx.flatMap fun (a, i) =>
      (if i = 0 then [] else [.boundary]) ++
        if quoted then Glyph.quotes :: glyphs true false a else glyphs false true a

/-- The text of a parameter that may stand for all arguments. -/
def valueOf? (s : State) (name : String) : Option String :=
  if name = "@" || name = "*" then
    if s.arguments.isEmpty then none else some ((argumentSeparator s).intercalate s.arguments)
  else s.parameter? name

/-- The names of parameters in expressions. -/
def arithmeticNames : Arithmetic.Names State where
  value s name := (s.parameter? name).getD ""
  assign? s name value := s.assign? name value

/-- The process after an expression has been evaluated, and the number. -/
def evaluate (s : State) (expression : String) : String × State :=
  match Arithmetic.evaluate arithmeticNames s expression with
  | .ok (n, s) => (toString n.toInt, s)
  | .error fault => ("", s.fail (fault.message expression))

/-- What a command writes, without the ends of lines at its end. -/
def outputOf (go : Runner) (s : State) (c : Command) : String × State :=
  let s := fork go s
  let inner := s.child
  let inner := inner.connectNew 1 (.pipe {}) false true
  let pipe := (inner.descriptors.get? 1).map (·.opening) |>.getD 0
  let inner := finishWith go { last := true } inner c
  let (answer, w) := inner.world.readAll pipe
  let (text, time) := match answer with
    | .ok (text, time) => (text, time)
    | .error _ => ([], 0)
  let s := ({ s with world := w }.waitUntil (max time inner.now)).heed
  let after := if s.isActive then s.seen inner.ending else s
  let text := (text.filter (· ≠ '\x00')).reverse.dropWhile (· = '\n')
  (String.ofList text.reverse, { after with outputStatus := after.status, status := s.status })

/-! ### Words -/

mutual

/-- What the parts of a word expand to. -/
def parts (go : Runner) (purpose : Purpose) (fuel : Nat) (s : State) (w : Word) :
    List Glyph × State :=
  match fuel with
  | 0 => ([], s.expire)
  | fuel + 1 =>
    match w with
    | [] => ([], s)
    | p :: rest =>
      let (gs, s) := part go purpose fuel s p
      if s.isActive then
        let (others, s) := parts go purpose fuel s rest
        (gs ++ others, s)
      else ([], s)
  termination_by structural fuel

/-- What a part of a word expands to. -/
def part (go : Runner) (purpose : Purpose) (fuel : Nat) (s : State) (p : Part) :
    List Glyph × State :=
  match fuel with
  | 0 => ([], s.expire)
  | fuel + 1 =>
    match p with
    | .text t quoted =>
      (if quoted then if t = "" then [.quotes] else glyphs true false t
        else glyphs false (purpose.splits && purpose.inside) t, s)
    | .arithmetic expression quoted =>
      let (gs, s) := parts go {} fuel s expression
      if s.isActive then
        let (n, s) := evaluate s (textOf gs)
        (ofValue quoted purpose.splits n, s)
      else ([], s)
    | .output c quoted =>
      let (text, s) := outputOf go s c
      (ofValue quoted purpose.splits text, s)
    | .parameter name use quoted =>
      let all := name = "@" || name = "*"
      let value := valueOf? s name
      let shown := fun (s : State) =>
        if all then ofArguments s purpose name quoted
        else ofValue quoted purpose.splits ((s.parameter? name).getD "")
      let missing := value.isNone && s.has 'u' && !all
      match use with
      | .unknown => ([], s.fail "Bad substitution")
      | .value =>
        if missing then ([], s.fail s!"{name}: parameter not set") else (shown s, s)
      | .length =>
        if missing then ([], s.fail s!"{name}: parameter not set")
        else (ofValue quoted purpose.splits (Decimal.text (value.getD "").length), s)
      | .check fallback orEmpty word =>
        let isSet := value.isSome && !(orEmpty && value = some "")
        let inner := { purpose with inside := true }
        match fallback, isSet with
        | .other, true | .assigned, true | .required, true => (shown s, s)
        | .instead, false => (if quoted then [.quotes] else [], s)
        | .other, false | .instead, true =>
          let (gs, s) := parts go inner fuel s word
          (if quoted && gs.isEmpty then [.quotes] else gs, s)
        | .assigned, false =>
          let (gs, s) := parts go { inside := true } fuel s word
          if !s.isActive then ([], s)
          else if !isName name then ([], s.fail s!"{name}: bad variable name")
          else
            let s := s.assign name (textOf gs)
            (if s.isActive then shown s else [], s)
        | .required, false =>
          let (gs, s) := parts go { inside := true } fuel s word
          if !s.isActive then ([], s)
          else
            let message := if word.isEmpty then
                if orEmpty then "parameter not set or null" else "parameter not set"
              else textOf gs
            ([], s.fail s!"{name}: {message}")
      | .trim atEnd longest pattern =>
        if missing then ([], s.fail s!"{name}: parameter not set")
        else
          let (gs, s) := parts go { inside := true } fuel s pattern
          let p := Pattern.ofMarks (marksOf gs)
          let text := (value.getD "").toList
          let text := if atEnd then Pattern.trimEnd longest p text
            else Pattern.trimStart longest p text
          (ofValue quoted purpose.splits (String.ofList text), s)
  termination_by structural fuel

end

/-- How deep words can stand within one another. -/
def maxDepth : Nat := 10000

/-- What a word expands to, where nothing is split. -/
def glyphsOf (go : Runner) (s : State) (w : Word) : List Glyph × State :=
  parts go {} maxDepth s (withTilde s w)

/-- The text that a word stands for, where nothing is split. -/
def text (go : Runner) (s : State) (w : Word) : String × State :=
  let (gs, s) := glyphsOf go s w
  (textOf gs, s)

/-- The value that a word stands for in an assignment. -/
def value (go : Runner) (s : State) (w : Word) : String × State :=
  let (gs, s) := parts go {} maxDepth s (withTildes s w)
  (textOf gs, s)

/-- The pattern that a word stands for. -/
def pattern (go : Runner) (s : State) (w : Word) : List Pattern.Item × State :=
  let (gs, s) := glyphsOf go s w
  (Pattern.ofMarks (marksOf gs), s)

/-! ### Paths -/

/-- The paths that the steps of a pattern match, in ascending order. Each comes with the place that
it leads to. -/
def pathsBelow (s : State) : List (List Pattern.Mark) → String → List String → List String
  | [], path, _ => [path]
  | step :: rest, path, place =>
    let slash := if rest.isEmpty then "" else "/"
    if step.isEmpty then pathsBelow s rest (path ++ slash) place
    else if Pattern.isSpecial step then
      match s.files.entryAt? place with
      | some .directory =>
        let p := Pattern.ofMarks step
        let hidden := (step.head?.map (·.1)) = some '.'
        let names := (s.files.listing place).filter fun n =>
          let octets := (Octets.ofText n).toList
          Pattern.holds p octets && (hidden || octets.head? ≠ some '.')
        names.flatMap fun n =>
          let here := place ++ [n]
          if rest.isEmpty then [path ++ Octets.ofText n]
          else if s.files.entryAt? here = some .directory then
            pathsBelow s rest (path ++ Octets.ofText n ++ "/") here
          else []
      | _ => []
    else
      let name := Field.text step
      let here := match Octets.toText name with
        | "." => place
        | ".." => place.dropLast
        | n => place ++ [n]
      if (s.files.entryAt? here).isSome then pathsBelow s rest (path ++ name ++ slash) here
      else []

/-- The fields that a field stands for: the paths that it matches, or itself. -/
def paths (s : State) (f : Field) : List String :=
  if s.has 'f' || !Pattern.isSpecial f then [f.text]
  else
    let steps := splitSteps f
    let isAbsolute := (f.head?.map (·.1)) = some '/'
    match pathsBelow s steps "" (if isAbsolute then [] else s.place) with
    | [] => [f.text]
    | found => found
where
  /-- The parts between slashes. -/
  splitSteps (f : Field) : List Field :=
    f.foldr (fun m steps =>
      if m.1 = '/' then [] :: steps
      else match steps with
        | step :: rest => (m :: step) :: rest
        | [] => [[m]]) [[]]

/-- The fields that a word stands for. -/
def fields (go : Runner) (s : State) (w : Word) : List String × State :=
  let (gs, s) := parts go { splits := true } maxDepth s (withTilde s w)
  ((splitFields s.separators gs).flatMap (paths s), s)

/-- The fields that words stand for. -/
def allFields (go : Runner) : State → List Word → List String × State
  | s, [] => ([], s)
  | s, w :: rest =>
    let (texts, s) := fields go s w
    if s.isActive then
      let (others, s) := allFields go s rest
      (texts ++ others, s)
    else ([], s)

end Expand

end FaultDrill.Shell
