import FaultDrill.Machine.Shell.Builtins.Jobs
import FaultDrill.Machine.Shell.Builtins.Names
import FaultDrill.Machine.Shell.Condition
import FaultDrill.Machine.Shell.Fields
import FaultDrill.Machine.Shell.Format
import FaultDrill.Machine.Shell.Mode

/-!
# FaultDrill.Machine.Shell.Builtins

The commands that a shell runs itself. Some of them are special: they are found before functions,
what is assigned before them stays, and an error in them ends the shell.
-/

namespace FaultDrill.Shell

open FaultDrill.Text

namespace Builtins

/-! ### Output -/

/-- Shows its arguments. -/
def echo (arguments : List String) (s : State) : State :=
  match arguments with
  | "-n" :: rest => print (s.done 0) (Format.echoed false rest)
  | rest => print (s.done 0) (Format.echoed true rest)

/-- Shows its arguments as a format says. -/
def printf : List String → State → State :=
  withOptions "" fun _ arguments s =>
    match arguments with
    | [] => s.fail "usage: printf format [arg ...]"
    | format :: rest =>
      let p := Format.printed format rest
      let s := p.warnings.foldl State.warn s
      let s := print (s.done (if p.warnings.isEmpty then 0 else 1)) p.shown.reverse
      match p.fault with
      | some fault => s.fail fault
      | none => s

/-! ### Conditions -/

/-- Tells whether a condition holds. -/
def test (brackets : Bool) (arguments : List String) (s : State) : State :=
  if brackets && arguments.getLast? ≠ some "]" then s.fail "missing ]"
  else
    match Condition.holds s (if brackets then arguments.dropLast else arguments) with
    | .ok holds => s.done (if holds then 0 else 1)
    | .error message => s.fail message

/-! ### Loops, functions and ends -/

/-- Leaves loops, or goes on with the next round. -/
def leaveLoops (flow : Nat → Flow) (arguments : List String) (s : State) : State :=
  match arguments with
  | [] => if s.loops = 0 then s.done 0 else { s.done 0 with flow := some (flow 1) }
  | a :: _ =>
    match natural? a with
    | none | some 0 => illegalNumber s a
    | some n =>
      let n := min n s.loops
      if n = 0 then s.done 0 else { s.done 0 with flow := some (flow n) }

/-- A status from an argument. -/
def statusFrom (s : State) (standard : Nat) (arguments : List String) (flow : Flow) : State :=
  match arguments with
  | [] => { s.done standard with flow := some flow }
  | a :: _ =>
    match natural? a with
    | none => illegalNumber s a
    | some n => { s.done n with flow := some flow }

/-- Drops arguments. -/
def shift (arguments : List String) (s : State) : State :=
  match arguments with
  | [] =>
    if s.arguments.isEmpty then s.fail "can't shift that many"
    else { s.done 0 with arguments := s.arguments.drop 1 }
  | a :: _ =>
    match natural? a with
    | none => illegalNumber s a
    | some n =>
      if s.arguments.length < n then s.fail "can't shift that many"
      else { s.done 0 with arguments := s.arguments.drop n }

/-! ### Parameters -/

/-- The name and the value of an argument with an equals sign. -/
def setting (a : String) : String × Option String :=
  match cut? '=' a.toList with
  | some (name, value) => (String.ofList name, some (String.ofList value))
  | none => (a, none)

/-- Sets parameters, each of which is then marked. -/
def declare (word : String) (mark : Binding → Binding) (isMarked : Binding → Bool) :
    List String → State → State :=
  withOptions "p" fun given arguments s =>
    if arguments.isEmpty || !given.isEmpty then
      let lines := s.bindings.toList.filterMap fun (name, b) =>
        if isMarked b then
          some (match b.value with
            | some v => s!"{word} {name}={singleQuoted v}\n"
            | none => s!"{word} {name}\n")
        else none
      print (s.done 0) (lines.foldl (· ++ ·) "").toList
    else
      arguments.foldl (fun s a =>
        if !s.isActive then s
        else
          let (name, value) := setting a
          if !isName name then s.fail s!"{name}: bad variable name"
          else
            let s := match value with
              | some v => s.assign name v
              | none => s
            if !s.isActive then s
            else
              let b := (s.bindings.get? name).getD { value := none }
              { s with bindings := s.bindings.insert name (mark b) }) (s.done 0)

/-- Gives a function parameters of its own. -/
def hide (arguments : List String) (s : State) : State :=
  match s.hidden with
  | [] => s.fail "not in a function"
  | frame :: outer =>
    arguments.foldl (fun s a =>
      if !s.isActive then s
      else
        let (name, value) := setting a
        let frame := s.hidden.headD frame
        if a = "-" then
          if (frame.lookup a).isSome then s
          else
            let options : Binding := { value := some (String.ofList s.options) }
            { s with hidden := ((a, some options) :: frame) :: outer }
        else if !isName name then s.fail s!"{name}: bad variable name"
        else
          let s := if (frame.lookup name).isSome then s
            else { s with hidden := ((name, s.bindings.get? name) :: frame) :: outer }
          match value with
          | some v => s.assign name v
          | none => s) (s.done 0)

/-- Takes parameters or functions away. -/
def unset : List String → State → State :=
  withOptions "vf" fun given names s =>
    let functions := (given.getLast?.map (·.1)) = some 'f'
    names.foldl (fun s name =>
      if !s.isActive then s
      else if functions then { s with functions := s.functions.erase name }
      else if !isName name then s.fail s!"{name}: bad variable name"
      else
        match s.bindings.get? name with
        | some b =>
          if b.readOnly then s.fail s!"{name}: is read only"
          else { s with bindings := s.bindings.erase name }
        | none => s) (s.done 0)

/-- Sets an option or takes it away. -/
def setOption (s : State) (on : Bool) (letter : Char) : State :=
  let others := s.options.filter (· ≠ letter)
  { s with options := if on then letter :: others else others }

/-- Shows all options, or the commands that set them. -/
def showOptions (readable : Bool) (s : State) : State :=
  let lines := optionNames.map fun (name, letter) =>
    if readable then
      name ++ String.ofList (List.replicate (16 - name.length) ' ') ++
        (if s.has letter then "on" else "off") ++ "\n"
    else (if s.has letter then "set -o " else "set +o ") ++ name ++ "\n"
  let title := if readable then "Current option settings\n" else ""
  print s (title ++ lines.foldl (· ++ ·) "").toList

/-- Sets options and arguments. -/
def set : Nat → List String → State → State
  | 0, _, s => s
  | fuel + 1, arguments, s =>
    match arguments with
    | [] => s
    | a :: rest =>
      match a.toList with
      | ['-', '-'] => { s with arguments := rest }
      | ['-'] => { s with
          options := s.options.filter fun c => c ≠ 'x' && c ≠ 'v'
          arguments := if rest.isEmpty then s.arguments else rest }
      | sign :: c :: letters =>
        if sign ≠ '-' && sign ≠ '+' then { s with arguments := arguments }
        else
          let on := sign = '-'
          let (s, rest) := (c :: letters).foldl (fun (s, rest) c =>
            if !s.isActive then (s, rest)
            else if c = 'o' then
              match rest with
              | name :: rest =>
                match optionNames.lookup name with
                | some letter => (setOption s on letter, rest)
                | none => (s.fail s!"Illegal option {sign}o {name}", rest)
              | [] => (showOptions on s, rest)
            else
              match optionLetter? c with
              | some c => (setOption s on c, rest)
              | none => (s.fail s!"Illegal option {sign}{c}", rest)) (s, rest)
          if s.isActive then set fuel rest s else s
      | _ => { s with arguments := arguments }

/-- Sets options and arguments, or shows all parameters. -/
def setAll (arguments : List String) (s : State) : State :=
  let s := s.done 0
  if arguments.isEmpty then
    let lines := s.bindings.toList.filterMap fun (name, b) =>
      b.value.map fun v => s!"{name}={singleQuoted v}\n"
    print s (lines.foldl (· ++ ·) "").toList
  else set (arguments.length + 1) arguments s

/-! ### Input -/

/-- The characters of lines with whether each is escaped. A backslash at the end of a line joins the
next one to it. -/
def readMarks (raw : Bool) : Nat → State → List Pattern.Mark × Bool × State
  | 0, s => ([], false, s)
  | fuel + 1, s =>
    match s.readLine 0 with
    | (.error _, s) => ([], false, s)
    | (.ok (line, ended), s) =>
      let line := line.filter (· ≠ '\x00')
      if raw then (line.map (·, false), ended, s)
      else
        let (marks, continued) := escaped line
        if continued && ended then
          let (more, ended, s) := readMarks raw fuel s
          (marks ++ more, ended, s)
        else (marks, ended, s)
where
  /-- The characters of a line without its backslashes, and whether one stands at its end. -/
  escaped : List Char → List Pattern.Mark × Bool
    | ['\\'] => ([], true)
    | '\\' :: c :: rest =>
      let (marks, continued) := escaped rest
      ((c, true) :: marks, continued)
    | c :: rest =>
      let (marks, continued) := escaped rest
      ((c, false) :: marks, continued)
    | [] => ([], false)

/-- Takes a line of the standard input into parameters. -/
def read : List String → State → State :=
  withOptions "p:r" fun given names s =>
    match names with
    | [] => s.fail "arg count"
    | names =>
      let raw := given.any (·.1 = 'r')
      let (marks, ended, s) := readMarks raw 100000 s
      if !s.isActive then s
      else
        let fields := splitLine s.separators names.length marks
        let s := names.zipIdx.foldl (fun s (name, i) =>
          if !s.isActive then s
          else if !isName name then s.fail s!"{name}: bad variable name"
          else s.assign name ((fields.getD i []).text)) (s.done (if ended then 0 else 1))
        s

/-! ### Places -/

/-- A path after steps that are taken in the text of the path alone. -/
def pathAfter (path target : String) : String :=
  let start := if Path.isAbsolute target then [] else Path.steps path
  let steps := (Path.steps target).foldl (fun steps step =>
    if step = ".." then steps.dropLast else steps ++ [step]) start
  "/" ++ "/".intercalate steps

/-- The shell after it has changed its working directory to one with a path. -/
def enter (s : State) (physical : Bool) (target : String) : Option State :=
  let path := if physical then target else pathAfter s.path target
  match s.find path, s.files.place (s.pathOf path) with
  | .ok .directory, .ok place =>
    let path := if physical then Tools.absolute place else path
    let t := (s.assign "OLDPWD" s.path).assign "PWD" path
    let exported := fun (bs : SortedMap String Binding) (name : String) =>
      match bs.get? name with
      | some b => bs.insert name { b with exported := true }
      | none => bs
    some { t with
      place := place, path := path, bindings := exported (exported t.bindings "OLDPWD") "PWD" }
  | _, _ => none

/-- The directories in which a relative path is looked for, with whether the result is shown. -/
def directoriesFor (s : State) (target : String) : List (String × Bool) :=
  let first := (Path.pieces target).headD ""
  if Path.isAbsolute target || first = "." || first = ".." then [(target, false)]
  else
    let below := ((s.value? "CDPATH").getD "").toList.splitOn ':'
    let found := below.filterMap fun dir =>
      let path := if dir.isEmpty then target else Path.join (String.ofList dir) target
      if s.find path matches .ok .directory then some (path, !dir.isEmpty) else none
    found ++ [(target, false)]

/-- Changes the working directory. -/
def cd : List String → State → State :=
  withOptions "LP" fun given arguments s =>
    let physical := (given.getLast?.map (·.1)) = some 'P'
    let back := arguments.head? = some "-"
    let target := match arguments.head? with
      | none => (s.value? "HOME").getD ""
      | some "-" => (s.value? "OLDPWD").getD ""
      | some dir => dir
    let target := if target = "" then "." else target
    let (path, shown) := ((directoriesFor s target).head?).getD (target, false)
    match enter (s.done 0) physical path with
    | some s => if back || shown then printLine s s.path else s
    | none => s.fail s!"can't cd to {target}"

/-- Shows the working directory. -/
def pwd : List String → State → State :=
  withOptions "LP" fun given _ s =>
    let physical := (given.getLast?.map (·.1)) = some 'P'
    printLine (s.done 0) (if physical then Tools.absolute s.place else s.path)

/-- Shows or sets which rights new files do not have. -/
def umask : List String → State → State :=
  withOptions "S" fun given arguments s =>
    match arguments with
    | [] =>
      if given.isEmpty then print (s.done 0) (Tools.inBase 8 4 s.mask ++ ['\n'])
      else printLine (s.done 0) (Mode.clauses s.mask)
    | a :: _ =>
      let isNumber := (a.toList.head?.map Char.isDigit).getD false
      let changed := if isNumber then Mode.change? a false 0 0
        else (Mode.change? a false 0 (511 ^^^ s.mask)).map (511 ^^^ ·)
      match changed with
      | some mask => { s.done 0 with mask := mask % 512 }
      | none => if isNumber then illegalNumber s a else s.fail s!"Illegal mode: {a}"

/-! ### Options of scripts -/

/-- Looks at the next option of arguments. -/
def getopts (arguments : List String) (s : State) : State :=
  match arguments with
  | allowed :: name :: given =>
    let given := if given.isEmpty then s.arguments else given
    let index := (((s.value? "OPTIND").bind Number.whole?).getD 1).toNat
    let quiet := allowed.toList.head? = some ':'
    let offset := s.optionOffset
    let word := ((given[index - 1]?).getD "").toList
    let finish := fun (s : State) (index offset : Nat) (status : Nat) =>
      { (s.assign "OPTIND" (Decimal.text index)) with optionOffset := offset, status := status }
    let finished := fun (index : Nat) =>
      finish ((s.assign name "?").assign "OPTARG" "") index 0 1
    if offset = 0 && (word.length < 2 || word.head? ≠ some '-') then finished index
    else if offset = 0 && word = ['-', '-'] then finished (index + 1)
    else
      let place := if offset = 0 then 1 else offset
      let c := (word[place]?).getD '?'
      let ended := word.length ≤ place + 1
      let next := if ended then (index + 1, 0) else (index, place + 1)
      let without := fun (s : State) => { s with bindings := s.bindings.erase "OPTARG" }
      match allowed.toList.idxOf? c with
      | none => unknown s name c quiet without next finish
      | some i =>
        if c = ':' then unknown s name c quiet without next finish
        else if (allowed.toList)[i + 1]? = some ':' then
          if !ended then
            finish ((s.assign "OPTARG" (String.ofList (word.drop (place + 1)))).assign name
              (String.singleton c)) (index + 1) 0 0
          else
            match given[index]? with
            | some v =>
              finish ((s.assign "OPTARG" v).assign name (String.singleton c)) (index + 2) 0 0
            | none =>
              if quiet then
                finish ((s.assign "OPTARG" (String.singleton c)).assign name ":") (index + 1) 0 0
              else
                let s := without (s.complain s!"No arg for -{c} option")
                finish (s.assign name "?") (index + 1) 0 0
        else finish ((s.assign "OPTARG" "").assign name (String.singleton c)) next.1 next.2 0
  | _ => s.fail "Usage: getopts optstring var [arg...]"
where
  /-- The state after an option that is not allowed. -/
  unknown (s : State) (name : String) (c : Char) (quiet : Bool) (without : State → State)
      (next : Nat × Nat) (finish : State → Nat → Nat → Nat → State) : State :=
    if quiet then finish ((s.assign "OPTARG" (String.singleton c)).assign name "?") next.1 next.2 0
    else
      let s := without (s.complain s!"Illegal option -{c}")
      finish (s.assign name "?") next.1 next.2 0

/-! ### Scripts -/

/-- Runs its arguments as a script. -/
def eval (go : Runner) (manner : Manner) (arguments : List String) (s : State) : State :=
  let arguments := if arguments.head? = some "--" then arguments.drop 1 else arguments
  runText go { manner with last := false } (joined " " arguments) s

/-- The path of a script that is to be run by the shell itself. -/
def scriptPath? (s : State) (name : String) : Option String :=
  if name.toList.contains '/' then some name
  else
    let paths := s.searchPath.map fun dir => if dir = "" then name else dir ++ "/" ++ name
    paths.find? fun path => s.find path matches .ok (.file _)

/-- Runs a script in the shell itself. -/
def source (go : Runner) (arguments : List String) (s : State) : State :=
  match arguments with
  | [] => s.done 0
  | name :: _ =>
    match scriptPath? s name with
    | none => s.fail s!"{name}: not found"
    | some path =>
      match s.readFile path with
      | .error e =>
        let reason := match e with
          | .notFound | .notDirectory => "No such file"
          | e => e.reason
        s.fail s!"cannot open {path}: {reason}"
      | .ok content =>
        let line := s.line
        let s := runText go {} (String.ofList content) { s with task := some path }
        let s := { s with line := line }
        if s.flow = some .returning then { s with flow := none } else s

/-! ### All commands -/

/-- Runs a command that the shell runs itself, unless it is one that stands for another command. -/
def run (go : Runner) (manner : Manner) (name : String) (arguments : List String) (s : State) :
    State :=
  match name with
  | ":" | "true" => s.done 0
  | "false" => s.done 1
  | "echo" => echo arguments s
  | "printf" => printf arguments s
  | "test" => test false arguments s
  | "[" => test true arguments s
  | "break" => leaveLoops .breaking arguments s
  | "continue" => leaveLoops .continuing arguments s
  | "exit" => statusFrom s (s.endStatus.getD s.status) arguments (.leaving false)
  | "return" => statusFrom s s.status arguments .returning
  | "shift" => shift arguments s
  | "export" => declare "export" (fun b => { b with exported := true }) (·.exported) arguments s
  | "readonly" =>
    declare "readonly" (fun b => { b with readOnly := true }) (·.readOnly) arguments s
  | "local" => hide arguments s
  | "unset" => unset arguments s
  | "set" => setAll arguments s
  | "read" => read arguments s
  | "cd" | "chdir" => cd arguments s
  | "pwd" => pwd arguments s
  | "umask" => umask arguments s
  | "trap" => Jobs.trap arguments s
  | "kill" => Jobs.kill arguments s
  | "wait" => Jobs.wait go arguments s
  | "type" => Names.type arguments s
  | "getopts" => getopts arguments s
  | "eval" => eval go manner arguments s
  | "." => source go arguments s
  | "times" => print (s.done 0) "0m0.000000s 0m0.000000s\n0m0.000000s 0m0.000000s\n".toList
  | "ulimit" => printLine (s.done 0) "unlimited"
  | "fg" => Jobs.resume arguments s
  | "bg" => Jobs.resume arguments s
  | "jobs" => Jobs.list arguments s
  | "alias" => Names.defineAlias arguments s
  | "unalias" => Names.unalias arguments s
  | "hash" => Names.hash arguments s
  | _ => s.done 0

end Builtins

end FaultDrill.Shell
