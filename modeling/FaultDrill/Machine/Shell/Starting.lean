import FaultDrill.Machine.Shell.Builtins
import FaultDrill.Machine.Shell.Tools.Finding

/-!
# FaultDrill.Machine.Shell.Starting

Running programs in processes: tools and shells with their scripts. A script whose first line names
a program is run by that program.
-/

namespace FaultDrill.Shell

open FaultDrill.Text

/-! ### Shells -/

/-- What is asked of a shell by its arguments. -/
structure Invocation where
  options : List Char := []
  /-- Whether the script is an argument. -/
  inArgument : Bool := false
  operands : List String := []
  fault : Option String := none

/-- Reads the arguments of a shell. -/
def Invocation.read : Nat → Invocation → List String → Invocation
  | 0, i, _ => i
  | _, i, [] => i
  | fuel + 1, i, a :: rest =>
    match a.toList with
    | ['-'] | ['-', '-'] => { i with operands := rest }
    | sign :: c :: letters =>
      if sign ≠ '-' && sign ≠ '+' then { i with operands := a :: rest }
      else
        let step := fun ((i, rest) : Invocation × List String) (c : Char) =>
          if c = 'c' then ({ i with inArgument := true }, rest)
          else if c = 'l' then (i, rest)
          else if c = 'o' then
            match rest with
            | name :: rest =>
              match optionNames.lookup name with
              | some letter => ({ i with options := letter :: i.options }, rest)
              | none => ({ i with fault := some s!"Illegal option -o {name}" }, rest)
            | [] => (i, rest)
          else if (optionLetter? c).isSome then
            ({ i with options := if sign = '-' then c :: i.options else i.options }, rest)
          else ({ i with fault := some s!"Illegal option {sign}{c}" }, rest)
        let (i, rest) := (c :: letters).foldl step (i, rest)
        if i.fault.isSome then i else Invocation.read fuel i rest
    | _ => { i with operands := a :: rest }

/-- The parameters that a shell sets for itself. -/
def shellParameters : List (String × String) :=
  [("IFS", standardSeparators), ("OPTIND", "1"), ("PPID", Decimal.text parentPid), ("PS1", "# "),
    ("PS2", "> "), ("PS4", "+ ")]

/-- A process as a new shell, which knows the environment only. -/
def freshShell (s : State) (name : String) (arguments : List String) (options : List Char) :
    State :=
  let kept := s.bindings.toList.filter fun (_, b) => b.exported && b.value.isSome
  let bindings : SortedMap String Binding :=
    .ofList (kept.map fun (name, b) => (name, { b with readOnly := false }))
  { s with
    name := name
    bindings := shellParameters.foldl (fun bs (name, v) => bs.insert name { value := some v })
      bindings
    functions := .empty
    arguments := arguments
    status := 0
    outputStatus := 0
    options := options
    traps := .ofList (s.traps.toList.filter fun (n, action) => n ≠ 0 && action = "")
    pending := []
    shellPid := s.pid
    asidePid := none
    flow := none
    loops := 0
    hidden := []
    endStatus := none
    task := none
    line := 1
    documents := []
    nextDocument := 0
    optionOffset := 0
    aliases := []
    located := []
    jobs := [] }

/-- Runs a shell to its end. -/
def runShell (go : Runner) (words : List String) (s : State) : State :=
  let called := words.headD "sh"
  let i := Invocation.read (words.length + 1) {} (words.drop 1)
  let refuse := fun (message : String) (status : Nat) =>
    (({ s with name := called, line := 0, task := none }.warn message).done status)
  let run := fun (text name : String) (arguments : List String) (last : Bool) =>
    let s := freshShell s name arguments i.options
    finish go maxJobDepth (runText go { last := last } text s)
  match i.fault, i.inArgument, i.operands with
  | some message, _, _ => refuse message 2
  | none, true, [] => refuse "-c requires an argument" 2
  | none, true, text :: rest => run text (rest.headD called) (rest.drop 1) true
  | none, false, path :: rest =>
    match s.readFile path with
    | .error e =>
      let reason := match e with
        | .notFound | .notDirectory => "No such file"
        | e => e.reason
      refuse s!"cannot open {path}: {reason}" 2
    | .ok content => run (String.ofList content) path rest false
  | none, false, [] =>
    match s.readAll 0 with
    | (.ok content, t) =>
      let s := freshShell t called [] i.options
      finish go maxJobDepth (runText go {} (String.ofList content) s)
    | (.error _, t) => t.done 0

/-! ### Programs -/

/-- Runs a tool of the system. -/
def runTool (go : Runner) (launch : Launcher) (name : String) (words : List String) (s : State) :
    State :=
  let arguments := words.drop 1
  match name with
  | "sh" | "dash" | "bash" => runShell go words s
  | "env" => Tools.env launch arguments s
  | "timeout" => Tools.timeout launch arguments s
  | "xargs" => Tools.xargs launch arguments s
  | "find" => Tools.find launch arguments s
  | "nohup" => Tools.plainly launch "nohup" "" Tools.failedToRun arguments s
  | "setsid" => Tools.plainly launch "setsid" "" (s!"failed to execute {·}") arguments s
  | "nice" => Tools.plainly launch "nice" "n" Tools.quoted arguments s
  | "stdbuf" => Tools.plainly launch "stdbuf" "ioe" Tools.failedToRun arguments s
  | "which" => Tools.which arguments s
  | "kill" => Builtins.Jobs.kill arguments { s with name := "kill", task := none }
  | _ =>
    match tool? name with
    | some tool => tool arguments s
    | none => s.done 0

/-- Runs a program by its path and its words. Tools that run other programs can stand so deep within
one another at most. -/
def launch (go : Runner) : Nat → Launcher
  | 0, _, _, s => .ok s.expire
  | depth + 1, path, words, s => do
    match ← s.imageOf path with
    | .tool name => return runTool go (launch go depth) name words s
    | .plain => throw .notProgram
    | .script interpreter =>
      launch go depth (interpreter.headD "") (interpreter ++ path :: words.drop 1) s

/-- How deep programs can run one another without a shell. -/
def maxLaunches : Nat := 20

/-- Runs a program by its path and its words as a shell does, for which any text is a script. -/
def execute (go : Runner) : Launcher := fun path words s =>
  match launch go maxLaunches path words s with
  | .error .notProgram => .ok (runShell go ("sh" :: path :: words.drop 1) s)
  | answer => answer

end FaultDrill.Shell
