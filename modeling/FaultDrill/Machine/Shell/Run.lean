import FaultDrill.Machine.Shell.Redirects
import FaultDrill.Machine.Shell.Starting

/-!
# FaultDrill.Machine.Shell.Run

Running commands, and whole programs on a tree of files. The commands within a command are run with
less fuel, so their nesting is bounded; so is the number of commands of a run, and one that exceeds
the bound counts as one whose time is over.
-/

namespace FaultDrill.Shell

open FaultDrill.Text

/-! ### Simple commands -/

/-- The commands whose arguments may be assignments. -/
def assigningBuiltins : List String :=
  ["export", "local", "readonly"]

/-- Expands the words of a simple command. -/
def expandWords (go : Runner) : State → Bool → List String → List Word → List String × State
  | s, _, read, [] => (read, s)
  | s, assigns, read, w :: rest =>
    if !s.isActive then ([], s)
    else
      let (texts, s) := match assigns, Word.assignment? w with
        | true, some (name, value) =>
          let (v, s) := Expand.value go s value
          ([name ++ "=" ++ v], s)
        | _, _ => Expand.fields go s w
      let read := read ++ texts
      let assigns := match read.filter (· ≠ "command") with
        | name :: _ => assigningBuiltins.contains name
        | [] => false
      expandWords go s assigns read rest

/-- How a word is run. -/
inductive Resolved where
  | builtin (special : Bool)
  | function (body : Command)
  | program

/-- What a word names. -/
def resolve (s : State) (name : String) (plain : Bool) : Resolved :=
  if specialBuiltins.contains name then .builtin (!plain)
  else
    match if plain then none else s.functions.get? name with
    | some body => .function body
    | none => if regularBuiltins.contains name then .builtin false else .program

/-- Gives parameters values for the time of a command, or for good. -/
def assignAll (go : Runner) (exported : Bool) : State → List (String × Word) → State
  | s, [] => s
  | s, (name, w) :: rest =>
    let (v, s) := Expand.value go s w
    if !s.isActive then s
    else
      let s := s.assign name v
      if !s.isActive then s
      else
        let s := match exported, s.bindings.get? name with
          | true, some b =>
            { s with bindings := s.bindings.insert name { b with exported := true } }
          | _, _ => s
        assignAll go exported s rest

/-- Gives parameters the bindings that they had before. -/
def restoreBindings (s : State) (saved : List (String × Option Binding)) : State :=
  { s with bindings := saved.foldl (fun bs (name, b) => match b with
      | some b => bs.insert name b
      | none => bs.erase name) s.bindings }

/-- How deep functions can call one another. -/
def maxCalls : Nat := 1000

/-- Runs a function. -/
def callFunction (go : Runner) (manner : Manner) (body : Command) (arguments : List String)
    (s : State) : State :=
  if maxCalls ≤ s.hidden.length then
    s.fail s!"Maximum function recursion depth ({maxCalls}) reached"
  else
    let inner := { s with arguments := arguments, loops := 0, hidden := [] :: s.hidden }
    let t := go { tested := manner.tested } inner body
    let own := t.hidden.headD []
    let t := restoreBindings t (own.filter (·.1 ≠ "-"))
    let t := match own.lookup "-" with
      | some (some b) => { t with options := (b.value.getD "").toList }
      | _ => t
    let t := { t with
      arguments := s.arguments, loops := s.loops, hidden := s.hidden
      flow := if t.flow = some .returning then none else t.flow }
    t

/-- How long it takes until a program has been loaded, in nanoseconds. -/
def imageTime : Nat := 700000

/-- Runs a program in the place of the shell. -/
def replaceShell (go : Runner) (words : List String) (s : State) : State :=
  let jobs := s.jobs
  let name := words.headD ""
  let answer := (s.programPath name).bind fun path => do
    let _ ← s.imageOf path
    let s := { s with jobs := [] }.pass imageTime
    if s.isActive then execute go path words s else return s
  match answer with
  | .ok t => { t with jobs := jobs, flow := some (.ended t.ending) }
  | .error e =>
    let s := s.warn s!"{name}: {State.unrunnableReason e}"
    { s.done (State.unrunnableStatus e) with flow := some (.leaving false) }

/-- Runs a program in a process of its own. -/
def runProgram (go : Runner) (manner : Manner) (words : List String) (s : State) : State :=
  let name := words.headD ""
  match s.programPath name with
  | .error e => (s.warn s!"{name}: {State.unrunnableReason e}").done 127
  | .ok _ =>
    let s := s.locate name
    if manner.last && s.traps.toList.isEmpty then replaceShell go words s
    else
      let s := fork go s
      let c := replaceShell go words s.child
      let c := c.close
      let before := s.now
      let s := ({ s with world := c.world }.waitUntil c.now).heed
      let s := if s.isActive then s.seen c.ending else s
      if s.isActive && before < s.now then settle go s else s

/-- Runs a built-in command. An error in one that is not special ends nothing. -/
def runBuiltin (go : Runner) (manner : Manner) (special : Bool) (name : String)
    (arguments : List String) (s : State) : State :=
  let t := Builtins.run go manner name arguments { s with task := some name }
  let t := { t with task := s.task }
  if !special && t.flow = some (.leaving true) then { t with flow := none } else t

/-- What `command` is asked for before the words of another command: whether it is only to be
shown, and whether in short. -/
def commandOptions (words : List String) : Except String (Option Bool × List String) := do
  let (given, rest) ← Builtins.options "pvV".toList (words.length + 1) words
  let asked := fun (c : Char) => given.any (·.1 = c)
  return (if asked 'V' then some false else if asked 'v' then some true else none, rest)

/-- Runs words as a command. The flag says whether functions count. -/
def runWords (go : Runner) (manner : Manner) : Nat → Bool → List String → State → State
  | 0, _, _, s => s.expire
  | _, _, [], s => s.done 0
  | fuel + 1, plain, name :: arguments, s =>
    match resolve s name plain with
    | .function body => callFunction go manner body arguments s
    | .program => runProgram go manner (name :: arguments) s
    | .builtin special =>
      match name, arguments with
      | "exec", [] => s.done 0
      | "exec", words =>
        let words := if words.head? = some "--" then words.drop 1 else words
        if words.isEmpty then s.done 0
        else
          let t := replaceShell go words { s with task := some "exec" }
          { t with task := s.task }
      | "command", words =>
        match commandOptions words with
        | .error message =>
          let t := { s with task := some "command" }.warn message
          { t.done 2 with task := s.task }
        | .ok (some short, rest) =>
          let t := Builtins.Names.showCommand short rest { s with task := some "command" }
          { t with task := s.task }
        | .ok (none, []) => s.done 0
        | .ok (none, rest) => runWords go manner fuel true rest s
      | _, _ => runBuiltin go manner special name arguments s

/-- Shows a command before it is run. -/
def trace (assignments : List (String × Option Binding)) (words : List String) (s : State)
    (out : SortedMap Nat Descriptor) : State :=
  if s.has 'x' then
    let settings := assignments.map fun (name, _) => name ++ "=" ++ (s.value? name).getD ""
    let line := joined " " (settings ++ words)
    let start := (s.value? "PS4").getD "+ "
    let shown := { s with descriptors := out }.complain (start ++ line)
    { shown with descriptors := s.descriptors }
  else s

/-- Runs a simple command. -/
def runSimple (go : Runner) (manner : Manner) (line : Nat) (assignments : List (String × Word))
    (words : List Word) (redirects : List Redirect) (s : State) : State :=
  let s := { s with line := line, outputStatus := 0 }
  let (texts, s) := expandWords go s false [] words
  if !s.isActive then s
  else
    let (connections, s) := Connection.expand go s redirects
    if !s.isActive then s
    else
      let name := (texts.filter (· ≠ "command")).headD ""
      let prefixed := texts.head? = some "command"
      let resolved := resolve s name prefixed
      let special := !texts.isEmpty && (resolved matches .builtin true)
      match Connection.applyAll s connections with
      | .error s => if special then { s with flow := some (.leaving true) } else s
      | .ok t =>
        let local_ := !texts.isEmpty && !special
        let saved := assignments.map fun (name, _) => (name, s.bindings.get? name)
        let isExec := texts.head? = some "exec" && 1 < texts.length
        let t := assignAll go (local_ || isExec) t assignments
        let keep := texts.head? = some "exec" || texts.take 2 = ["command", "exec"]
        let ended := fun (t : State) =>
          let t := if local_ then restoreBindings t saved else t
          if keep && t.isActive then t else { t with descriptors := s.descriptors }
        if !t.isActive then ended t
        else
          let t := trace saved texts t s.descriptors
          if texts.isEmpty then ended (t.done t.outputStatus)
          else
            let t := runWords go manner (texts.length + 1) false texts t
            -- a process that has become another program keeps the streams of that
            if t.flow matches some (.ended _) then t else ended t

/-! ### Loops -/

/-- The state after a round of a loop, and whether the loop is left. -/
def afterRound (s : State) : State × Bool :=
  match s.flow with
  | none => (s, false)
  | some (.breaking n) =>
    ({ s with flow := if n ≤ 1 then none else some (.breaking (n - 1)) }, true)
  | some (.continuing n) =>
    if n ≤ 1 then ({ s with flow := none }, false)
    else ({ s with flow := some (.continuing (n - 1)) }, true)
  | some _ => (s, true)

/-- Repeats a command. The status is that of the last round. -/
def runRepeated (go : Runner) (manner : Manner) (untilTrue : Bool) (condition body : Command) :
    Nat → Nat → State → State
  | 0, _, s => s.expire
  | fuel + 1, status, s =>
    let s := go { tested := true } s condition
    let (t, left) := afterRound s
    if left then (if t.flow = some .returning then t else t.done status)
    else if s.flow matches some (.continuing _) then
      runRepeated go manner untilTrue condition body fuel status t
    else if (t.status = 0) = untilTrue then t.done status
    else
      let t := go { tested := manner.tested } t body
      let status := t.status
      let (t, left) := afterRound t
      if left then (if t.flow.isSome then t else t.done status)
      else runRepeated go manner untilTrue condition body fuel status t

/-- Runs a command for every one of some words. -/
def runEach (go : Runner) (manner : Manner) (name : String) (body : Command) :
    State → List String → State
  | s, [] => s
  | s, w :: rest =>
    let s := s.assign name w
    if !s.isActive then s
    else
      let (s, left) := afterRound (go { tested := manner.tested } s body)
      if left then s else runEach go manner name body s rest

/-- Runs the first case with a pattern that matches. -/
def runCases (go : Runner) (manner : Manner) (subject : String) :
    State → List (List Word × Command) → State
  | s, [] => s.done 0
  | s, (patterns, body) :: rest =>
    let (found, s) := patterns.foldl (fun ((found, s) : Bool × State) w =>
      if found || !s.isActive then (found, s)
      else
        let (p, s) := Expand.pattern go s w
        (Pattern.holds p subject.toList, s)) (false, s)
    if !s.isActive then s
    else if found then
      match body with
      | .nothing => s.done 0
      | body => go manner s body
    else runCases go manner subject s rest

/-! ### Processes -/

/-- Runs a command in a shell of its own. -/
def runIsolated (go : Runner) (manner : Manner) (c : Command) (s : State) : State :=
  let s := fork go s
  let inner := finishWith go { tested := manner.tested, last := true } s.child c
  let before := s.now
  let s := ({ s with world := inner.world }.waitUntil inner.now).heed
  let s := if s.isActive then s.seen inner.ending else s
  if s.isActive && before < s.now then settle go s else s

/-- How many commands a part of a pipe can run whose output nobody waits for any more. -/
def maxUnread : Nat := 50000

/-- Runs the parts of a pipe, each in a shell of its own with the same start. Gives how they end,
and when the last of them does. -/
def runParts (go : Runner) (manner : Manner) :
    State → Option Nat → List Command → List Ending × Nat × State
  | s, _, [] => ([], s.now, s)
  | s, input, c :: rest =>
    let child := s.child
    let child := match input with
      | some n => child.connect 0 (some ⟨n, true, false⟩)
      | none => child
    let isLast := rest.isEmpty
    let child := if isLast then child else child.connectNew 1 (.pipe {}) false true
    let output := if isLast then none else (child.descriptors.get? 1).map (·.opening)
    let steps := child.world.steps
    let child := if isLast then child else { child with world.steps := min steps maxUnread }
    let used := child.world.steps
    let child := finishWith go { tested := manner.tested, last := true } child c
    let steps := steps - (used - child.world.steps)
    let world := { child.world with steps := steps }
    -- who writes without end is stopped when nobody reads any more
    let wrote := match output with
      | some n => !(world.pipeAt n).chunks.isEmpty
      | none => false
    let ending := if child.ending = .expired && wrote && child.world.steps = 0 then
        Ending.signaled 13 else child.ending
    let time := if ending = child.ending then child.now else s.now
    let (endings, last, s) := runParts go manner { s with world := world } output rest
    (ending :: endings, max time last, s)

/-- The shell after it has looked for the program of a part of a pipe. -/
def locatePart (s : State) (c : Command) : State :=
  match c with
  | .simple _ _ (w :: _) _ =>
    match Word.plain? w with
    | some name =>
      if isName name && !isBuiltin name && (s.functions.get? name).isNone then s.locate name else s
    | none => s
  | _ => s

/-- Runs commands with pipes between them. -/
def runPipe (go : Runner) (manner : Manner) (parts : List Command) (s : State) : State :=
  let s := fork go (parts.foldl locatePart s)
  let (endings, time, t) := runParts go manner s none parts
  let before := s.now
  let s := (t.waitUntil time).heed
  let s := endings.foldl (fun s e => if s.isActive then s.seen e else s) s
  if s.isActive && before < s.now then settle go s else s

/-! ### Commands -/

/-- Whether a failure of a command can end the shell. -/
def Command.canFail : Command → Bool
  | .simple .. | .isolated .. | .pipe _ => true
  | _ => false

/-- Runs commands one after the other. -/
def runSequence (go : Runner) (manner : Manner) : State → List Command → State
  | s, [] => s
  | s, [c] => go manner s c
  | s, c :: rest =>
    let s := go { manner with last := false } s c
    if s.isActive then runSequence go manner s rest else s

/-- Runs a command with its streams connected. -/
def runRedirected (go : Runner) (manner : Manner) (line : Nat) (c : Command)
    (redirects : List Redirect) (s : State) : State :=
  let (connections, s) := Connection.expand go { s with line := line } redirects
  if !s.isActive then s
  else
    match Connection.applyAll s connections with
    | .error s => s
    | .ok t =>
      let t := go { tested := manner.tested } t c
      if t.flow matches some (.ended _) then t else { t with descriptors := s.descriptors }

/-- Runs a command whose parts are run by `go`. -/
def runCommand (go : Runner) (manner : Manner) (s : State) (c : Command) : State :=
  match c with
  | .nothing => s
  | .simple line assignments words redirects =>
    runSimple go manner line assignments words redirects s
  | .sequence commands => runSequence go manner s commands
  | .both first second =>
    let s := go { tested := true } s first
    if s.isActive && s.status = 0 then go manner s second else s
  | .either first second =>
    let s := go { tested := true } s first
    if s.isActive && s.status ≠ 0 then go manner s second else s
  | .invert c =>
    let s := go { tested := true } s c
    if s.isActive then s.done (if s.status = 0 then 1 else 0) else s
  | .pipe parts => runPipe go manner parts s
  | .aside c => startJob s c
  | .each line name items body =>
    let (texts, s) := Expand.allFields go { s with line := line } items
    if !s.isActive then s
    else
      let t := runEach go manner name body { s.done 0 with loops := s.loops + 1 } texts
      { t with loops := s.loops }
  | .choose condition yes no =>
    let s := go { tested := true } s condition
    if !s.isActive then s
    else if s.status = 0 then go manner s yes
    else
      match no with
      | .nothing => s.done 0
      | no => go manner s no
  | .repeated untilTrue condition body =>
    let t := runRepeated go manner untilTrue condition body (s.world.steps + 1) 0
      { s with loops := s.loops + 1 }
    { t with loops := s.loops }
  | .select line subject cases =>
    let (text, s) := Expand.text go { s with line := line } subject
    if s.isActive then runCases go manner text s cases else s
  | .isolated line c => runIsolated go manner c { s with line := line }
  | .redirected line c redirects => runRedirected go manner line c redirects s
  | .define name body => { s.done 0 with functions := s.functions.insert name body }

/-- Runs a command. The number bounds how deep commands stand within one another. -/
def run : Nat → Runner
  | 0, _, s, _ => s.expire
  | fuel + 1, manner, s, c =>
    let s := s.countStep
    if !s.isActive || s.has 'n' then s
    else
      let s := (runCommand (run fuel) manner s c).heed
      let s := runTraps (run fuel) s
      if c.canFail && s.has 'e' && !manner.tested && s.status ≠ 0 && s.isActive then
        { s with flow := some (.leaving false) }
      else s

/-! ### Runs -/

/-- How deep commands can stand within one another. -/
def maxNesting : Nat := 6000

/-- How many commands a run can have. -/
def maxSteps : Nat := 1000000

/-- How long it takes to start a program, in nanoseconds. -/
def startTime : Nat := 2 * nanosPerMilli

/-- The process of the first program of a run. -/
def firstPid : Nat := parentPid + 1

/-- A process before its program runs, with an environment. -/
def startState (bindings : List (String × String)) (files : FileTree) (limit : Option Nat) :
    State :=
  let standard :=
    [("HOME", "/root"), ("PATH", ":".intercalate System.searchPath),
      ("PWD", Tools.absolute System.workingPlace)]
  let given := bindings.map fun (name, value) => (Octets.ofText name, Octets.ofText value)
  let all := (standard ++ given).map fun (name, value) =>
    (name, ({ value := some value, exported := true } : Binding))
  let s : State :=
    { name := ""
      bindings := all.foldl (fun bs (name, b) => bs.insert name b) .empty
      descriptors := .ofList [(0, ⟨0, true, false⟩), (1, ⟨1, false, true⟩), (2, ⟨2, false, true⟩)]
      pid := firstPid
      shellPid := firstPid
      world :=
        { files := files, openings := #[.device .null, .pipe {}, .pipe {}]
          nextPid := firstPid + 1, deadline := limit, steps := maxSteps }
      now := 0 }
  s.pass startTime

/-- What has been written to the output or the errors of a run. -/
def writtenTo (w : World) (n : Nat) : Transcript where
  chunks := ((w.pipeAt n).chunks.mergeSort fun a b => a.1 ≤ b.1).map fun (time, s) =>
    (time, s.map Octets.byte)
  closed := (w.pipeAt n).closed

/-- More bytes than an argument or a setting of the environment can have. -/
def argumentSpace : Nat := 131072

/-- Runs a program by its words with an environment. The limit is the time that it may take. -/
def start (words : List String) (bindings : List (String × String)) (files : FileTree)
    (limit : Option Nat) : Except FileError Outcome := do
  let texts := words ++ bindings.map fun (name, value) => name ++ "=" ++ value
  if texts.any fun t => t.toList.contains '\x00' then throw .nulInArgument
  let s := startState bindings files limit
  let name := Octets.ofText (words.headD "")
  let path ← if name = "" then .error .notFound else s.programPath name
  let _ ← s.imageOf path
  if texts.any fun t => argumentSpace ≤ t.utf8ByteSize then throw .argumentTooLong
  let s ← if s.isActive then launch (run maxNesting) maxLaunches path (words.map Octets.ofText) s
    else pure s
  let s := s.close
  return {
    ending := s.ending, files := s.world.files, elapsed := s.now
    stdout := writtenTo s.world 1, stderr := writtenTo s.world 2 }

/-- The words that run a script. -/
def scriptWords (script : String) : List String :=
  ["sh", "-c", script]

end FaultDrill.Shell
