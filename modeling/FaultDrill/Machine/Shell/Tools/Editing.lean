import FaultDrill.Machine.Shell.Tools.Edits

/-!
# FaultDrill.Machine.Shell.Tools.Editing

Editing the lines of a text one after the other. What remains to be done on a line is the end of the
script that follows the edits that are done, and a jump goes on with the edits after its label.
-/

namespace FaultDrill.Shell.Tools

open FaultDrill.Text

/-- The editing of an input. -/
structure Editing where
  script : List Edit
  /-- The lines that have not been read. -/
  left : List (List Char)
  /-- Whether the last line has an end. -/
  ended : Bool
  silent : Bool
  /-- What can be read from files. -/
  content : String → Option (List Char)
  number : Nat := 0
  line : List Char := []
  held : List Char := []
  /-- What is shown, the latest piece first. -/
  shown : List (List Char) := []
  /-- Whether the end of the line that has been shown last is missing. -/
  lacking : Bool := false
  /-- What is shown after the line. -/
  queued : List (List Char) := []
  /-- The edits that are being done on consecutive lines, with the last of these if it is known. -/
  ranges : List (Nat × Option Nat) := []
  /-- The regular expression that has been used last. -/
  recent : Regex := .empty
  /-- Whether the line has been changed since it was read or since a jump asked. -/
  changed : Bool := false
  /-- What is written to files. -/
  written : List (String × List Char) := []
  /-- How the work has come to an end before all lines have been read. -/
  status : Option Nat := none

namespace Editing

/-! ### Showing -/

/-- Shows a text. -/
def put (e : Editing) (text : List Char) : Editing :=
  let shown := if e.lacking then ['\n'] :: e.shown else e.shown
  { e with shown := text :: shown, lacking := false }

/-- Shows a line. -/
def putLine (e : Editing) (line : List Char) : Editing :=
  if e.left.isEmpty && !e.ended then { e.put line with lacking := true }
  else e.put (line ++ ['\n'])

/-- Writes a line to a file. -/
def writeLine (e : Editing) (file : String) (line : List Char) : Editing :=
  if file = "/dev/stdout" then e.putLine line
  else { e with written := e.written ++ [(file, line ++ ['\n'])] }

/-- Shows what is to be shown at the end of the work on a line. -/
def finishLine (e : Editing) (shows : Bool) : Editing :=
  let e := if shows && !e.silent then e.putLine e.line else e
  { e.queued.foldl put e with queued := [] }

/-- A character with an escape, if it needs one. -/
def revealed (c : Char) : List Char :=
  match c with
  | '\\' => ['\\', '\\']
  | '\x07' => ['\\', 'a']
  | '\x08' => ['\\', 'b']
  | '\x0c' => ['\\', 'f']
  | '\n' => ['\\', 'n']
  | '\r' => ['\\', 'r']
  | '\t' => ['\\', 't']
  | '\x0b' => ['\\', 'v']
  | c => if 32 ≤ c.toNat && c.toNat < 127 then [c] else '\\' :: inBase 8 3 c.toNat

/-- Pieces as lines of at most 69 characters, each but the last with a backslash at its end. -/
def folded : List (List Char) → List Char → List Char
  | [], row => row ++ ['$']
  | piece :: rest, row =>
    if 69 < row.length + piece.length then row ++ '\\' :: '\n' :: folded rest piece
    else folded rest (row ++ piece)

/-! ### Lines -/

/-- Takes the next line. -/
def advance (e : Editing) : Option Editing :=
  match e.left with
  | [] => none
  | line :: left => some { e with line := line, left := left, number := e.number + 1 }

/-- Keeps a regular expression that is used, if there is one. -/
def using_ (e : Editing) (r : Option Regex) : Editing :=
  { e with recent := r.getD e.recent }

/-- Whether an address is the line, and the editing after that is known. -/
def holds (e : Editing) : Address → Bool × Editing
  | .line n => (e.number = n, e)
  | .last => (e.left.isEmpty, e)
  | .matching folded r =>
    let e := e.using_ r
    ((Regex.search? folded Regex.anywhere e.recent [] none e.line).isSome, e)
  | .each first step =>
    (if step = 0 then e.number = first else first ≤ e.number && (e.number - first) % step = 0, e)

/-- Begins to do an edit on consecutive lines, of which the line is the first one. -/
def begin_ (e : Editing) (index : Nat) : Extent → Editing
  | .upTo (.line n) => openUntil n
  | .more n => openUntil (e.number + n)
  | .multiple n => openUntil (if n = 0 then e.number else (e.number / n + 1) * n)
  | .upTo .last => if e.left.isEmpty then e else { e with ranges := (index, none) :: e.ranges }
  | .upTo _ => { e with ranges := (index, none) :: e.ranges }
where
  /-- Goes on until a line, if that is still to come. -/
  openUntil (n : Nat) : Editing :=
    if n ≤ e.number then e else { e with ranges := (index, some n) :: e.ranges }

/-- Whether an edit is done on the line, and the editing after that is known. -/
def chosen (e : Editing) (d : Edit) : Bool × Editing :=
  match d.first, d.last with
  | none, _ => (!d.negated, e)
  | some a, none =>
    let (answer, e) := e.holds a
    (answer ≠ d.negated, e)
  | some a, some x =>
    let close := fun (e : Editing) => { e with ranges := e.ranges.filter (·.1 ≠ d.index) }
    match e.ranges.lookup d.index, x with
    | some (some n), _ =>
      -- a line after the last one ends the range before it
      if n < e.number then (d.negated, close e)
      else (!d.negated, if n = e.number then close e else e)
    | some none, .upTo b =>
      let (ends, e) := e.holds b
      (!d.negated, if ends then close e else e)
    | some none, _ => (!d.negated, e)
    | none, x =>
      let (begins, e) := e.holds a
      if begins then (!d.negated, e.begin_ d.index x) else (d.negated, e)

/-! ### Replacing -/

/-- Characters as a casing writes them. -/
def cased (upper : Option Bool) (text : List Char) : List Char :=
  match upper with
  | some true => text.map Char.toUpper
  | some false => text.map Char.toLower
  | none => text

/-- The text of a replacement. Casings hold for what follows them, and some only for the next
character. -/
def filled (whole : List Char) (groups : List (Nat × List Char)) (new : List Replacement) :
    List Char :=
  (new.foldl (fun (text, upper, next) part =>
    let add := fun (new : List Char) =>
      match next, new with
      | some u, c :: rest => (text ++ cased (some u) [c] ++ cased upper rest, upper, none)
      | _, new => (text ++ cased upper new, upper, next)
    match part with
    | .char c => add [c]
    | .group n => add (if n = 0 then whole else (groups.lookup n).getD [])
    | .casing .upper => (text, some true, next)
    | .casing .lower => (text, some false, next)
    | .casing .upperNext => (text, upper, some true)
    | .casing .lowerNext => (text, upper, some false)
    | .casing .plain => (text, none, none))
    (([] : List Char), (none : Option Bool), (none : Option Bool))).1

/-- Replaces matches of an expression in a line. Gives nothing if there are none. -/
def substituted (s : Substitution) (r : Regex) (line : List Char) : Option (List Char) :=
  let (text, _, changed) := (Regex.allMatches s.folded Regex.anywhere r line).foldl
    (fun (text, count, changed) piece => match piece with
      | .char c => (text ++ [c], count, changed)
      | .found whole groups =>
        let count := count + 1
        let replaces := if s.all then s.nth ≤ count else count = s.nth
        if replaces then (text ++ filled whole groups s.new, count, true)
        else (text ++ whole, count, changed)) (([] : List Char), 0, false)
  if changed then some text else none

/-! ### Working -/

/-- How the work on a line goes on. -/
inductive Step where
  /-- With the edits that are left. -/
  | edits (left : List Edit)
  | done (shows : Bool)
  /-- From the start of the script with the same line. -/
  | restart

/-- Does an edit on the line, after which so many edits are left. -/
def perform (e : Editing) (d : Edit) (rest : List Edit) : Editing × Step :=
  match d.action with
  | .substitute s =>
    let e := e.using_ s.old
    match substituted s e.recent e.line with
    | some line =>
      let e := { e with line := line, changed := true }
      let e := if s.shows then e.putLine line else e
      (match s.file with
        | some file => e.writeLine file line
        | none => e, .edits rest)
    | none => (e, .edits rest)
  | .translate table =>
    ({ e with line := e.line.map fun c => (table.lookup c).getD c }, .edits rest)
  | .delete => (e, .done false)
  | .deleteFirst =>
    if e.line.contains '\n' then
      ({ e with line := (e.line.dropWhile (· ≠ '\n')).drop 1 }, .restart)
    else (e, .done false)
  | .print => (e.putLine e.line, .edits rest)
  | .printFirst => (e.put (e.line.takeWhile (· ≠ '\n') ++ ['\n']), .edits rest)
  | .quit status silently => ({ e with status := some status }, .done (!silently))
  | .next =>
    match e.left with
    | [] => ({ e with status := some 0 }, .done true)
    | _ => (((e.finishLine true).advance).getD e, .edits rest)
  | .append =>
    match e.left with
    | [] => ({ e with status := some 0 }, .done true)
    | line :: left =>
      ({ e with line := e.line ++ '\n' :: line, left := left, number := e.number + 1 },
        .edits rest)
  | .text kind text =>
    let text := text ++ ['\n']
    if kind = 'i' then (e.put text, .edits rest)
    else if kind = 'a' then ({ e with queued := e.queued ++ [text] }, .edits rest)
    else
      let isLast := (e.ranges.lookup d.index).isNone
      (if isLast then e.put text else e, .done false)
  | .number => (e.put (Decimal.write e.number ++ ['\n']), .edits rest)
  | .reveal => (e.put (folded (e.line.map revealed) [] ++ ['\n']), .edits rest)
  | .hold appends =>
    ({ e with held := if appends then e.held ++ '\n' :: e.line else e.line }, .edits rest)
  | .fetch appends =>
    ({ e with line := if appends then e.line ++ '\n' :: e.held else e.held }, .edits rest)
  | .exchange => ({ e with line := e.held, held := e.line }, .edits rest)
  | .clear => ({ e with line := [] }, .edits rest)
  | .read file =>
    ({ e with queued := e.queued ++ (e.content file).toList.filter (· ≠ []) }, .edits rest)
  | .write file => (e.writeLine file e.line, .edits rest)
  | .beginGroup | .endGroup | .label _ => (e, .edits rest)
  | .jump condition name =>
    let jumps := match condition with
      | .always => true
      | .changed => e.changed
      | .unchanged => !e.changed
    let e := if condition matches .always then e else { e with changed := false }
    (e, .edits (if jumps then (editsAfterLabel name e.script).getD [] else rest))

/-- Ends the work on a line and takes the next one, if there is one and the work has not come to an
end. -/
def nextLine (e : Editing) (shows : Bool) : Editing × Bool :=
  let e := e.finishLine shows
  if e.status.isSome then (e, false)
  else
    match e.advance with
    | some e => ({ e with changed := false }, true)
    | none => (e, false)

/-- Does edits on lines. The budget is for each of the edits and of the lines. -/
def work : Nat → List Edit → Editing → Editing
  | 0, _, e => e
  | fuel + 1, [], e =>
    match e.nextLine true with
    | (e, true) => work fuel e.script e
    | (e, false) => e
  | fuel + 1, d :: rest, e =>
    let (isChosen, e) := e.chosen d
    if !isChosen then
      work fuel (if d.action matches .beginGroup then editsAfterGroup 0 rest else rest) e
    else
      match e.perform d rest with
      | (e, .edits left) => work fuel left e
      | (e, .restart) => work fuel e.script (e.finishLine false)
      | (e, .done shows) =>
        match e.nextLine shows with
        | (e, true) => work fuel e.script e
        | (e, false) => e

/-- How many edits are done at most. -/
def maxEdits : Nat := 1000000

/-- The edits on consecutive lines that begin before the first line. -/
def beforeFirst (script : List Edit) : List (Nat × Option Nat) :=
  script.filterMap fun d => match d.first with
    | some (.line 0) => some (d.index, none)
    | _ => none

/-- Edits all lines. -/
def run (e : Editing) : Editing :=
  match { e with ranges := beforeFirst e.script }.advance with
  | some e => work maxEdits e.script e
  | none => e

end Editing

/-! ### Inputs -/

/-- What has been written to each file, in the order in which the files have been named first. -/
def writtenTexts (script : List Edit) (written : List (String × List Char)) :
    List (String × List Char) :=
  let named := script.filterMap fun d => match d.action with
    | .write file => some file
    | .substitute s => s.file
    | _ => none
  let names := (named.filter (· ≠ "/dev/stdout")).eraseDups
  names.map fun n => (n, (written.filter (·.1 = n)).flatMap (·.2))

/-- Writes texts to files. -/
def writeTexts (texts : List (String × List Char)) (s : State) : State :=
  texts.foldl (fun s (name, text) =>
    match s.files.write (s.pathOf name) (text.map Octets.byte) with
    | .ok t => s.withFiles t
    | .error e => report s "sed" s!"couldn't open file {name}: {e.reason}" 4) s

/-- The contents of inputs. What cannot be read is told. -/
def editedInputs (names : List String) (s : State) : List (String × List Char) × State :=
  names.foldl (fun (read, s) name =>
    match inputOf s name with
    | (.ok content, s) => (read ++ [(name, content)], s)
    | (.error .isDirectory, s) =>
      (read, report s "sed" s!"couldn't edit {name}: not a regular file" 4)
    | (.error e, s) => (read, report s "sed" s!"can't read {name}: {e.reason}" 2)) ([], s)

/-- Edits texts that follow each other, with the lines that a script writes to files. -/
def editTexts (script : List Edit) (silent : Bool) (texts : List (List Char)) (s : State) :
    Editing :=
  let parts := texts.map linesOf
  Editing.run
    { script := script, left := parts.flatMap (·.1), silent := silent
      ended := (parts.getLast?.map (·.2)).getD true
      content := fun name => (s.readFile name).toOption }

/-- Edits inputs. -/
def sed : Tool := fun arguments s =>
  -- the ending of the copies that are kept stands in the same argument
  let copies := arguments.findSome? fun a => match a.toList with
    | '-' :: 'i' :: ending => if ending.isEmpty then none else some (String.ofList ending)
    | _ => none
  let arguments := arguments.map fun a => if ['-', 'i'].isPrefixOf a.toList then "-i" else a
  withOptions "sed"
    { flags := "nErsuzi", valued := "ef"
      long := [("quiet", 'n'), ("silent", 'n'), ("expression", 'e'), ("file", 'f'),
        ("regexp-extended", 'E'), ("in-place", 'i'), ("separate", 's')] } 1 (fun o s =>
    let (scripts, files) := if o.has 'e' || o.has 'f' then
        (o.given.filterMap fun (c, v) =>
          if c = 'e' then some v.toList
          else if c = 'f' then (s.readFile v).toOption
          else none, o.operands)
      else (o.operands.take 1 |>.map String.toList, o.operands.drop 1)
    if scripts.isEmpty then
      let usage := "Usage: sed [OPTION]... \x7bscript-only-if-no-other-script\x7d [input-file]..."
      (s.complain usage).done 1
    else
      match readEdits (o.has 'E' || o.has 'r') scripts with
      | .error (message, status) => report s "sed" message status
      | .ok script =>
        let (inputs, s) := editedInputs (if files.isEmpty then ["-"] else files) s
        if o.has 'i' then
          inputs.foldl (fun s (name, content) =>
            let e := editTexts script (o.has 'n') [content] s
            let kept := match copies with
              | some ending => [(name ++ ending, content)]
              | none => []
            let texts := kept ++ [(name, e.shown.reverse.flatten)] ++
              writtenTexts script e.written
            writeTexts texts s) s
        else
          let groups := if o.has 's' then inputs.map fun (_, c) => [c] else [inputs.map (·.2)]
          let (s, written, status) := groups.foldl (fun (s, written, status) texts =>
            let e := editTexts script (o.has 'n') texts s
            (emit s "sed" e.shown.reverse.flatten, written ++ e.written, status <|> e.status))
            (s, ([] : List (String × List Char)), (none : Option Nat))
          let s := writeTexts (writtenTexts script written) s
          match status with
          | some n => if n = 0 then s else s.done n
          | none => s) arguments s

end FaultDrill.Shell.Tools
