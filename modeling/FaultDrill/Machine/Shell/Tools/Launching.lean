import FaultDrill.Machine.Shell.Format
import FaultDrill.Machine.Shell.Programs

/-!
# FaultDrill.Machine.Shell.Tools.Launching

Tools that run other programs, in an environment, with an end, or with words of their input. How a
program is run is given to them.
-/

namespace FaultDrill.Shell

open FaultDrill.Text

/-- Runs a program by its path and its words in a process. -/
abbrev Launcher := String → List String → State → Except FileError State

namespace Tools

/-- Runs the program that words name, in the process of the tool. What cannot be run is told in the
wording of the tool. -/
def become (launch : Launcher) (tool : String) (wording : String → String) (words : List String)
    (s : State) : State :=
  let name := words.headD ""
  let answer := (s.programPath name).bind fun path => launch path words s
  match answer with
  | .ok s => s
  | .error e =>
    let status := if e = .notFound then 127 else 126
    report s tool s!"{wording name}: {e.reason}" status

/-- What several tools say about a program that cannot be run. -/
def failedToRun (name : String) : String :=
  s!"failed to run command {quoted name}"

/-- Runs the program that words name in a process of its own. -/
def runChild (launch : Launcher) (tool : String) (wording : String → String) (words : List String)
    (s : State) : Ending × State :=
  let c := (become launch tool wording words s.child).close
  let s := { s with world := c.world }.waitUntil c.now
  (c.ending, s)

/-- The environment with the settings among words, and the words after them. -/
def withSettings (s : State) : List String → State × List String
  | [] => (s, [])
  | w :: rest =>
    match cut? '=' w.toList with
    | some (name, value) =>
      let b : Binding := { value := some (String.ofList value), exported := true }
      withSettings { s with bindings := s.bindings.insert (String.ofList name) b } rest
    | none => (s, w :: rest)

/-- Runs a program in a changed environment, or shows the environment. -/
def env (launch : Launcher) : Tool :=
  withOptions "env"
    { flags := "i0v", valued := "uCS", ordered := true
      long := [("ignore-environment", 'i'), ("unset", 'u'), ("chdir", 'C')] } 125 fun o s =>
    let s := if o.has 'i' || o.operands.head? = some "-" then { s with bindings := .empty } else s
    let s := (o.values 'u').foldl (fun s name => { s with bindings := s.bindings.erase name }) s
    let operands := if o.operands.head? = some "-" then o.operands.drop 1 else o.operands
    let (s, words) := withSettings s operands
    if words.isEmpty then
      emit s "env" (s.environment.flatMap fun (n, v) => (n ++ "=" ++ v ++ "\n").toList)
    else
      -- without a path of its own the system looks in the usual places
      let path : Binding := { value := some (":".intercalate System.searchPath) }
      let s := if (s.value? "PATH").isSome then s
        else { s with bindings := s.bindings.insert "PATH" path }
      become launch "env" quoted words s

/-- Runs a program with the end of time before it. -/
def timeout (launch : Launcher) : Tool :=
  withOptions "timeout"
    { flags := "fv=", valued := "sk", ordered := true
      long := [("signal", 's'), ("kill-after", 'k'), ("preserve-status", '='),
        ("foreground", 'f')] } 125 fun o s =>
    match o.operands with
    | [] | [_] => (s.complain "Try 'timeout --help' for more information.").done 125
    | limit :: words =>
      match seconds? limit with
      | none => refuse s "timeout" s!"invalid time interval {quoted limit}" 125
      | some nanos =>
        let outer := s.world.deadline
        let own := s.now + nanos
        let deadline := match outer with
          | some d => some (if nanos = 0 then d else min d own)
          | none => if nanos = 0 then none else some own
        let bounded := { s with world.deadline := deadline }
        let (e, t) := runChild launch "timeout" failedToRun words bounded
        let t := { t with world.deadline := outer }
        match e with
        | .exited code => t.done code
        -- the tool ends by the same signal
        | .signaled n => { t with flow := some (.ended (.signaled n)) }
        | .expired =>
          if deadline = outer then { t with flow := some (.ended .expired) }
          else
            let name := (o.value? 's').getD "TERM"
            let kills := name = "KILL" || name = "9"
            let t := { t with flow := none, now := own }
            if kills then { t with flow := some (.ended (.signaled 9)) }
            else t.done (if o.has '=' then 143 else 124)

/-- The words of a text, in which quotation marks and backslashes keep characters together. The
answer also says which quotation mark has no other one on its line. -/
def quotedWords : Nat → List Char → Option (List Char) → List String × Option Char
  | 0, _, word => ((word.map String.ofList).toList, none)
  | _, [], word => ((word.map String.ofList).toList, none)
  | fuel + 1, c :: rest, word =>
    if Number.isBlank c then
      let (words, open_) := quotedWords fuel rest none
      ((word.map String.ofList).toList ++ words, open_)
    else if c = '\'' || c = '"' then
      let inner := rest.takeWhile fun d => d ≠ c && d ≠ '\n'
      if (rest.drop inner.length).head? = some c then
        quotedWords fuel (rest.drop (inner.length + 1)) (some (word.getD [] ++ inner))
      else ([], some c)
    else if c = '\\' then
      quotedWords fuel (rest.drop 1) (some (word.getD [] ++ rest.take 1))
    else quotedWords fuel rest (some (word.getD [] ++ [c]))

/-- Groups of so many words. -/
def inGroups (size : Nat) : Nat → List String → List (List String)
  | 0, _ | _, [] => []
  | fuel + 1, words => words.take size :: inGroups size fuel (words.drop size)

/-- The items of an input, or the quotation mark that has no other one on its line. -/
def itemsOf (o : Options) (content : List Char) : Except Char (List String) :=
  let nonEmpty := fun (parts : List (List Char)) =>
    (if parts.getLast? = some [] then parts.dropLast else parts).map String.ofList
  if o.has '0' then .ok (nonEmpty (content.splitOn '\x00'))
  else
    match o.value? 'd' with
    | some d =>
      let mark := (Format.unescape (d.length + 1) d.toList).1.headD '\n'
      .ok (nonEmpty (content.splitOn mark))
    | none =>
      if o.has 'I' then
        .ok (((linesOf content).1.map fun l => String.ofList (l.dropWhile Number.isBlank)).filter
          (· ≠ ""))
      else
        match quotedWords (content.length + 1) content none with
        | (items, none) => .ok items
        | (_, some mark) => .error mark

/-- The commands that are run with items. -/
def callsOf (o : Options) (words items : List String) : List (List String) :=
  match o.value? 'I' with
  | some mark => items.map fun item => words.map fun w => replaced w mark item
  | none =>
    let size := ((o.value? 'n' <|> o.value? 'L').bind String.toNat?).getD (items.length + 1)
    let groups := inGroups (max 1 size) (items.length + 1) items
    (if groups.isEmpty && !o.has 'r' then [[]] else groups).map (words ++ ·)

/-- Runs a command, unless one before it has ended the work. -/
def runCall (launch : Launcher) (o : Options) (call : List String) (s : State) : State :=
  if !s.isActive || 123 < s.status then s
  else
    let program := call.headD ""
    let s := if o.has 't' then s.complain (joined " " call) else s
    let (e, t) := runChild launch "xargs" (fun name => name) call s
    match e with
    | .exited 0 => t.done s.status
    | .exited 126 => t.done 126
    | .exited 127 => t.done 127
    | .exited 255 => report t "xargs" s!"{program}: exited with status 255; aborting" 124
    | .exited _ => t.done 123
    | .signaled n => report t "xargs" s!"{program}: terminated by signal {n}" 125
    | .expired => t

/-- Runs a program with words of the standard input. -/
def xargs (launch : Launcher) : Tool :=
  withOptions "xargs"
    { flags := "0rtpx", valued := "nILdPsE", ordered := true
      long := [("null", '0'), ("no-run-if-empty", 'r'), ("max-args", 'n'), ("verbose", 't'),
        ("delimiter", 'd')] } 1 fun o s =>
    match s.readAll 0 with
    | (.error _, s) => s
    | (.ok content, s) =>
      let s := s.connectNew 0 (.device .null) true false
      match itemsOf o content with
      | .error mark =>
        let kind := if mark = '"' then "double" else "single"
        report s "xargs" (s!"unmatched {kind} quote; by default quotes are special to xargs " ++
          "unless you use the -0 option") 1
      | .ok items =>
        let words := if o.operands.isEmpty then ["echo"] else o.operands
        (callsOf o words items).foldl (fun s call => runCall launch o call s) (s.done 0)

/-- Runs the program of its arguments in the same way as it would be run without the tool. -/
def plainly (launch : Launcher) (tool valued : String) (wording : String → String) : Tool :=
  withOptions tool { flags := "cfw", valued := valued, ordered := true } 125 fun o s =>
    if o.operands.isEmpty then refuse s tool "missing operand" 125
    else become launch tool wording o.operands s

/-- Shows where programs are. -/
def which : Tool :=
  withOptions "which" { flags := "as" } 2 fun o s =>
    o.operands.foldl (fun s name => match s.programPath name with
      | .ok path => if (s.imageOf path) matches .ok _ then emitLine s "which" path else s.done 1
      | .error _ => s.done 1) (if o.operands.isEmpty then s.done 1 else s)

end Tools

end FaultDrill.Shell
