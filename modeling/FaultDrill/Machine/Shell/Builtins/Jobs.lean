import FaultDrill.Machine.Ending
import FaultDrill.Machine.Shell.Builtins.Basic
import FaultDrill.Machine.Shell.Lifetime
import FaultDrill.Machine.Shell.Number

/-!
# FaultDrill.Machine.Shell.Builtins.Jobs

Signals by their names in the shell, what is done on them, sending them, and the commands that run
beside a shell. The end of a shell is signal zero; some signals have no names but numbers.
-/

namespace FaultDrill.Shell

/-! ### The names of signals -/

/-- More than the number of any signal. -/
def signalBound : Nat := 65

/-- The name of a signal in the shell. -/
def signalName (n : Nat) : String :=
  if n = 0 then "EXIT"
  else if n < 34 then (if n = 16 then none else signalNames.lookup n).getD (toString n)
  else if n = 34 then "RTMIN"
  else if n < 50 then s!"RTMIN+{n - 34}"
  else if n < 64 then s!"RTMAX-{64 - n}"
  else "RTMAX"

/-- The number of the signal that a word names, from some number on. -/
def signal? (least : Nat) (word : String) : Option Nat :=
  if word ≠ "" && word.toList.all Char.isDigit then
    (Number.natural? word).filter fun n => n < signalBound
  else
    let name := String.ofList (word.toList.map Char.toUpper)
    (List.range signalBound).find? fun n => least ≤ n && signalName n = name

open FaultDrill.Text

namespace Builtins

namespace Jobs

/-! ### Signals -/

/-- Sets what is done on signals, up to the first word that names none. -/
def setTraps (action : Option String) : List String → State → State
  | [], s => s.done 0
  | name :: rest, s =>
    match signal? 0 name with
    | none => (s.complain s!"trap: {name}: bad trap").done 1
    | some n =>
      setTraps action rest { s with traps := match action with
        | some action => s.traps.insert n action
        | none => s.traps.erase n }

/-- Says what is done on signals, or shows it. -/
def trap : List String → State → State :=
  withOptions "" fun _ arguments s =>
    match arguments with
    | [] =>
      let lines := s.traps.toList.map fun (n, action) =>
        s!"trap -- {singleQuoted action} {signalName n}\n"
      print (s.done 0) (lines.foldl (· ++ ·) "").toList
    | first :: rest =>
      let isNumber := first ≠ "" && first.toList.all Char.isDigit && (signal? 0 first).isSome
      if rest.isEmpty || isNumber then setTraps none arguments s
      else setTraps (if first = "-" then none else some first) rest s

/-- Sends a signal to a process. -/
def sendSignal (n pid : Nat) (s : State) : Except String State :=
  if pid = s.pid || pid = s.shellPid || pid = 0 then
    let pid := if pid = 0 then s.pid else pid
    .ok { s with world.signals := s.world.signals ++ [(pid, n)] }.heed
  else
    match s.jobs.find? fun j => j.pid = pid with
    | some j =>
      if j.outcome.isSome then .error "No such process"
      else if j.stopped.isSome || [0, 17, 18, 23, 28].contains n then .ok s
      else
        .ok { s with jobs := s.jobs.map fun k =>
          if k.pid = pid then { k with stopped := some (n, s.now) } else k }
    | none => .error "No such process"

/-- The usage of `kill`. -/
def killUsage : String :=
  "Usage: kill [-s sigspec | -signum | -sigspec] [pid | job]... or\nkill -l [exitstatus]"

/-- The names of signals, or the name of the one that a status stands for. -/
def listSignals (arguments : List String) (s : State) : State :=
  match arguments with
  | [] =>
    let names := ((List.range signalBound).drop 1).map fun n => signalName n ++ "\n"
    print (s.done 0) ("0\n" ++ names.foldl (· ++ ·) "").toList
  | a :: _ =>
    match natural? a with
    | none => illegalNumber s a
    | some status =>
      let n := if 128 < status then status - 128 else status
      if 0 < n && n < signalBound then printLine (s.done 0) (signalName n)
      else s.fail s!"invalid signal number or exit status: {a}"

/-! ### Jobs -/

/-- The jobs, those that were started last first. -/
def latest (s : State) : List Job :=
  s.jobs.reverse

/-- The job that a word names. -/
def find (s : State) (name : String) : Except String Job :=
  let given := fun (j : Option Job) (message : String) => match j with
    | some j => Except.ok j
    | none => .error message
  let unknown := s!"No such job: {name}"
  match name.toList with
  | ['%'] | ['%', '%'] | ['%', '+'] => given (latest s).head? "No current job"
  | ['%', '-'] => given (latest s)[1]? "No previous job"
  | '%' :: rest =>
    match Number.natural? (String.ofList rest) with
    | some n => given (s.jobs.find? fun j => j.number = n) unknown
    | none => .error unknown
  | _ => .error unknown

/-- A job in a line, with its process if that is wanted. -/
def line (s : State) (withPid : Bool) (j : Job) : String :=
  let numbers := (latest s).map (·.number)
  let mark := if numbers.head? = some j.number then "+ "
    else if numbers[1]? = some j.number then "- "
    else "  "
  let state := match j.outcome with
    | none => "Running"
    | some (.exited 0, _) => "Done"
    | some (.exited n, _) => s!"Done({n})"
    | some (.signaled n, _) => State.signalText n
    | some (.expired, _) => "Running"
  let pid := if withPid then s!"{j.pid} " else ""
  let shown := s!"[{j.number}] {mark}{pid}{state}"
  shown ++ String.ofList (List.replicate (33 - shown.length) ' ')

/-- Shows jobs. Those that have ended are shown once. -/
def list : List String → State → State :=
  withOptions "lp" fun given arguments s =>
    let chosen := arguments.foldl (fun (r : Except String (List Job)) a => do
      let read ← r
      let j ← find s a
      return read ++ [j]) (.ok [])
    match chosen with
    | .error message => s.fail message
    | .ok named =>
      let shown := if arguments.isEmpty then latest s else named
      let lines := shown.map fun j => match given.getLast? with
        | some ('p', _) => Decimal.text j.pid
        | some _ => line s true j
        | none => line s false j
      let t := print (s.done 0) (lines.foldl (fun text l => text ++ l ++ "\n") "").toList
      { t with jobs := t.jobs.filter fun j =>
          j.outcome.isNone || !shown.any fun k => k.pid = j.pid }

/-- Takes jobs to the foreground or lets them go on, which needs a terminal. -/
def resume (arguments : List String) (s : State) : State :=
  match arguments with
  | [] =>
    if s.jobs.isEmpty then s.fail "No current job"
    else s.fail "job (null) not created under job control"
  | name :: _ =>
    match find s name with
    | .ok _ => s.fail s!"job {name} not created under job control"
    | .error message => s.fail message

/-- Sends a signal to those that words name, up to a word that names nothing. -/
def sendAll (n : Nat) : List String → State → State
  | [], s => s
  | a :: rest, s =>
    let failed := fun (s : State) => (s.warn "No such process\n").done 1
    match a.toList with
    | '%' :: _ =>
      -- a job is a group of processes only if there is a terminal
      match find s a with
      | .ok _ => sendAll n rest (failed s)
      | .error message => s.fail message
    | '-' :: digits =>
      match natural? (String.ofList digits) with
      | some _ => sendAll n rest (failed s)
      | none => illegalNumber s (String.ofList digits)
    | _ =>
      match natural? a with
      | none => illegalNumber s a
      | some pid =>
        match sendSignal n pid s with
        | .ok s => if s.isActive then sendAll n rest s else s
        | .error _ => sendAll n rest (failed s)

/-- Sends signals. -/
def kill (arguments : List String) (s : State) : State :=
  let send := fun (n : Nat) (targets : List String) (s : State) =>
    if targets.isEmpty then s.fail killUsage else sendAll n targets (s.done 0)
  match arguments with
  | [] => s.fail killUsage
  | a :: rest =>
    match a.toList with
    | '-' :: name =>
      match signal? 1 (String.ofList name) with
      | some n => send n rest s
      | none =>
        withOptions "ls:" (fun given rest s =>
          match given.reverse.head? with
          | some ('l', _) => listSignals rest s
          | some (_, name) =>
            match signal? 1 name with
            | some n => send n rest s
            | none => s.fail s!"invalid signal number or name: {name}"
          | none => send 15 rest s) arguments s
    | _ => send 15 arguments s

/-- Waits for the jobs that words name. -/
def waitEach (go : Runner) : List String → State → State
  | [], s => s
  | a :: rest, s =>
    if !s.isActive then s
    else
      match a.toList with
      | '%' :: _ =>
        match find s a with
        | .ok j => waitEach go rest (waitForJob go s j)
        | .error message => s.fail message
      | _ =>
        match natural? a with
        | none => illegalNumber s a
        | some pid =>
          match s.jobs.find? fun j => j.pid = pid with
          | some j => waitEach go rest (waitForJob go s j)
          | none => waitEach go rest (s.done 127)

/-- Waits for jobs. -/
def wait (go : Runner) : List String → State → State :=
  withOptions "" fun _ arguments s =>
    if arguments.isEmpty then
      let s := waitForAll go s
      if s.isActive then s.done 0 else s
    else waitEach go arguments s

end Jobs

end Builtins

end FaultDrill.Shell
