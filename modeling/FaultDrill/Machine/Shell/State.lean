import FaultDrill.Collections.SortedMap
import FaultDrill.Duration.Basic
import FaultDrill.Machine.Shell.Basic
import FaultDrill.Machine.Shell.World
import FaultDrill.Text.Decimal

/-!
# FaultDrill.Machine.Shell.State

The state of a process of a run: a shell, or a tool that a shell has started. The clock of a process
goes on only when it sleeps or waits for another process. When the time for the run is over,
whatever has been done so far stands and the rest does not happen.
-/

namespace FaultDrill.Shell

open FaultDrill.Text

/-- A parameter with a name. -/
structure Binding where
  value : Option String
  /-- Whether programs see it in their environment. -/
  exported : Bool := false
  readOnly : Bool := false

/-- Why the commands that follow are passed over. -/
inductive Flow where
  /-- Leaves so many loops. -/
  | breaking (loops : Nat)
  /-- Goes on with the next round of a loop, after leaving all but one of so many. -/
  | continuing (loops : Nat)
  /-- Leaves a function or a script. -/
  | returning
  /-- Ends the shell, because of an error or because it is told to. -/
  | leaving (isError : Bool)
  | ended (e : Ending)
  deriving DecidableEq

/-- What belongs to one process. -/
structure Process where
  name : String
  bindings : SortedMap String Binding
  functions : SortedMap String Command := .empty
  arguments : List String := []
  status : Nat := 0
  /-- The status of the last command whose output became a part of a word. -/
  outputStatus : Nat := 0
  options : List Char := []
  /-- What is done at the end, which is signal zero, and on signals. -/
  traps : SortedMap Nat String := .empty
  /-- Signals that have come and whose traps have not been run yet. -/
  pending : List Nat := []
  place : List String := System.workingPlace
  /-- The path by which the working directory has been reached. -/
  path : String := "/" ++ "/".intercalate System.workingPlace
  descriptors : SortedMap Nat Descriptor
  pid : Nat
  /-- The process of the shell that the script sees as its own. -/
  shellPid : Nat
  /-- The last process that has been left to itself. -/
  asidePid : Option Nat := none
  flow : Option Flow := none
  /-- How many loops stand around the command that is run. -/
  loops : Nat := 0
  /-- What parameters had as values before functions made them their own, by functions. -/
  hidden : List (List (String × Option Binding)) := []
  /-- The status that a trap at the end must keep. -/
  endStatus : Option Nat := none
  /-- The built-in command that is run. -/
  task : Option String := none
  line : Nat := 1
  /-- The texts in the script, by their numbers. -/
  documents : List (Nat × Word) := []
  nextDocument : Nat := 0
  /-- How many characters of an argument with options have been looked at. -/
  optionOffset : Nat := 0
  mask : Nat := 18
  /-- Words that stand for the starts of commands. -/
  aliases : List (String × String) := []
  /-- The programs that have been found by their names, with their paths. -/
  located : List (String × String) := []

/-- A command that runs beside the shell. -/
structure Job where
  number : Nat
  pid : Nat
  process : Process
  command : Command
  started : Nat
  /-- How it has ended, and when, once that is known. -/
  outcome : Option (Ending × Nat) := none
  /-- The signal that stops it, and when it comes. -/
  stopped : Option (Nat × Nat) := none
  /-- Whether the shell has waited for it. -/
  waited : Bool := false

/-- A process with what it shares. -/
structure State extends Process where
  world : World
  /-- The clock, in nanoseconds. -/
  now : Nat
  jobs : List Job := []

/-- How a command is run. -/
structure Manner where
  /-- Whether its failure is only looked at, and ends nothing. -/
  tested : Bool := false
  /-- Whether the shell ends with it. -/
  last : Bool := false

/-- Runs a command in a process. -/
abbrev Runner := Manner → State → Command → State

/-- The options of a shell with their letters, some of which cannot be given. -/
def optionNames : List (String × Char) :=
  [("errexit", 'e'), ("noglob", 'f'), ("ignoreeof", 'I'), ("interactive", 'i'), ("monitor", 'm'),
    ("noexec", 'n'), ("stdin", 's'), ("xtrace", 'x'), ("verbose", 'v'), ("vi", 'V'),
    ("emacs", 'E'), ("noclobber", 'C'), ("allexport", 'a'), ("notify", 'b'), ("nounset", 'u'),
    ("privileged", 'p'), ("nolog", '1'), ("debug", '2')]

/-- The letter of the option that a letter names. -/
def optionLetter? (c : Char) : Option Char :=
  if c.isAlpha then (optionNames.find? (·.2 = c)).map (·.2) else none

/-- The process that starts the first one of a run. -/
def parentPid : Nat := 4241

/-- The separators of fields if none have been chosen. -/
def standardSeparators : String := " \t\n"

namespace State

/-! ### Flow -/

/-- Whether the next command is run. -/
def isActive (s : State) : Bool :=
  s.flow.isNone

/-- The state after a command with a status and nothing else. -/
def done (s : State) (status : Nat) : State :=
  { s with status := status }

/-- The process after its time is over. -/
def expire (s : State) : State :=
  { s with now := max s.now (s.world.deadline.getD s.now), flow := some (.ended .expired) }

/-- The process after its clock has reached a time. -/
def waitUntil (s : State) (time : Nat) : State :=
  let time := max s.now time
  match s.world.deadline with
  | some deadline =>
    if deadline ≤ time then { s with now := deadline, flow := some (.ended .expired) }
    else { s with now := time }
  | none => { s with now := time }

/-- The process after some time. -/
def pass (s : State) (nanos : Nat) : State :=
  s.waitUntil (s.now + nanos)

/-- The process after it has counted a command. -/
def countStep (s : State) : State :=
  match s.world.steps with
  | 0 => s.expire
  | n + 1 => { s with world.steps := n }

/-- Whether an option is set. -/
def has (s : State) (option : Char) : Bool :=
  s.options.contains option

/-! ### Streams -/

/-- Writes to a stream. -/
def write (s : State) (stream : Nat) (text : List Char) : Except FileError State :=
  match s.descriptors.get? stream with
  | some d =>
    if d.writes then (s.world.write s.now d.opening text).map fun w => { s with world := w }
    else .error .notConnected
  | none => .error .notConnected

/-- Writes to a stream, if it can be written. -/
def tell (s : State) (stream : Nat) (text : String) : State :=
  match s.write stream text.toList with
  | .ok s => s
  | .error _ => s

/-- Writes a line about an error. -/
def complain (s : State) (line : String) : State :=
  s.tell 2 (line ++ "\n")

/-- Writes about an error of the shell, with the place where it has been seen. -/
def warn (s : State) (message : String) : State :=
  let task := match s.task with
    | some task => task ++ ": "
    | none => ""
  s.complain s!"{s.name}: {s.line}: {task}{message}"

/-- An error that ends the shell, unless it is one of a command that can fail. -/
def fail (s : State) (message : String) : State :=
  { s.warn message with status := 2, flow := some (.leaving true) }

/-- Reads with a reader from a stream that can be read. -/
def readWith {α : Type} (s : State) (stream : Nat) (read : World → Nat → Except FileError α × World)
    (time : α → Nat) : Except FileError α × State :=
  match s.descriptors.get? stream with
  | some d =>
    if d.reads then
      let (answer, w) := read s.world d.opening
      let s := { s with world := w }
      match answer with
      | .ok a => (.ok a, s.waitUntil (time a))
      | .error e => (.error e, s)
    else (.error .notConnected, s)
  | none => (.error .notConnected, s)

/-- Reads all that is left of a stream. -/
def readAll (s : State) (stream : Nat) : Except FileError (List Char) × State :=
  let (answer, s) := s.readWith stream World.readAll (·.2)
  (answer.map (·.1), s)

/-- Reads a line of a stream. The flag says whether it has an end, which is not given. -/
def readLine (s : State) (stream : Nat) : Except FileError (List Char × Bool) × State :=
  let (answer, s) := s.readWith stream World.readLine (·.2.2)
  (answer.map fun (line, found, _) => (line, found), s)

/-- The process with a stream connected. -/
def connect (s : State) (stream : Nat) (d : Option Descriptor) : State :=
  { s with descriptors := match d with
      | some d => s.descriptors.insert stream d
      | none => s.descriptors.erase stream }

/-- The process with a stream connected with a new opening. -/
def connectNew (s : State) (stream : Nat) (o : Opening) (reads writes : Bool) : State :=
  let (w, n) := s.world.addOpening o
  { s with world := w }.connect stream (some ⟨n, reads, writes⟩)

/-! ### Files -/

/-- The path of a file as all processes would name it. -/
def pathOf (s : State) (path : String) : String :=
  let path := Octets.toText path
  if Path.isAbsolute path || path = "" || s.place = System.workingPlace then path
  else "/" ++ "/".intercalate s.place ++ "/" ++ path

/-- The files. -/
def files (s : State) : FileTree :=
  s.world.files

/-- The process after a change of the files. -/
def withFiles (s : State) (t : FileTree) : State :=
  { s with world.files := t }

/-- What a path leads to. -/
def find (s : State) (path : String) : Except FileError Entry :=
  s.files.find (s.pathOf path)

/-- What a path names, with its place. It may be a link. -/
def findOwn (s : State) (path : String) : Except FileError (Entry × List String) := do
  return (← s.files.findOwn (s.pathOf path), ← s.files.ownPlace (s.pathOf path))

/-- The files after something has been put at a place, without the rights that new files do not
have. -/
def restricted (s : State) (t : FileTree) (place : List String) : FileTree :=
  if s.mask = 18 || (s.files.entryAt? place).isSome then t
  else
    match t.entryAt? place with
    | some .directory => t.setMode place (511 &&& (511 ^^^ s.mask))
    | some (.file _) => t.setMode place (438 &&& (511 ^^^ s.mask))
    | _ => t

/-- The content of a file. -/
def readFile (s : State) (path : String) : Except FileError (List Char) :=
  (s.files.read (s.pathOf path)).map fun content => content.map Octets.char

/-! ### Parameters -/

/-- The value of a parameter with a name. -/
def value? (s : State) (name : String) : Option String :=
  (s.bindings.get? name).bind (·.value)

/-- The characters that separate fields. -/
def separators (s : State) : List Char :=
  ((s.value? "IFS").getD standardSeparators).toList

/-- Gives a parameter a value. -/
def assign? (s : State) (name value : String) : Option State :=
  match s.bindings.get? name with
  | some b =>
    if b.readOnly then none
    else some { s with bindings := s.bindings.insert name { b with value := some value } }
  | none =>
    some { s with bindings :=
      s.bindings.insert name { value := some value, exported := s.has 'a' } }

/-- Gives a parameter a value, which is an error if it must keep the one it has. -/
def assign (s : State) (name value : String) : State :=
  match s.assign? name value with
  | some t =>
    -- looking for options starts again, and so does looking for programs
    if name = "OPTIND" then { t with optionOffset := 0 }
    else if name = "PATH" then { t with located := [] }
    else t
  | none => s.fail s!"{name}: is read only"

/-- The environment that programs see. -/
def environment (s : State) : List (String × String) :=
  s.bindings.toList.filterMap fun (name, b) =>
    if b.exported then b.value.map (name, ·) else none

/-- The letters of the options that are set, those that are shown last first. -/
def optionLetters (s : State) : String :=
  String.ofList ((optionNames.reverse.map (·.2)).filter fun c => c.isAlpha && s.has c)

/-- The value of a parameter of any kind, unless it stands for all arguments. -/
def parameter? (s : State) (name : String) : Option String :=
  match name with
  | "$" => some (Decimal.text s.shellPid)
  | "?" => some (Decimal.text s.status)
  | "#" => some (Decimal.text s.arguments.length)
  | "!" => s.asidePid.map Decimal.text
  | "-" => some s.optionLetters
  | _ =>
    match Decimal.read? 2147483648 name.toList with
    | some 0 => some s.name
    | some n => s.arguments[n - 1]?
    | none => s.value? name

/-! ### Processes -/

/-- A process that a shell starts. It has no jobs of its own, and of the traps only those that
ignore signals. -/
def child (s : State) : State :=
  { s with
    pid := s.world.nextPid
    world.nextPid := s.world.nextPid + 1
    jobs := []
    traps := .ofList (s.traps.toList.filter fun (signal, action) => signal ≠ 0 && action = "")
    pending := []
    flow := none }

/-- The process after the signals on their way to it have come. -/
def heed (s : State) : State :=
  let mine := s.world.signals.filter (·.1 = s.pid)
  let s := if mine.isEmpty then s
    else { s with world.signals := s.world.signals.filter (·.1 ≠ s.pid) }
  mine.foldl (fun s (_, n) =>
    match s.flow, s.traps.get? n with
    | some (.ended _), _ => s
    | _, some action =>
      if n = 9 || n = 19 then { s with flow := some (.ended (.signaled n)) }
      else if action = "" then s else { s with pending := s.pending ++ [n] }
    | _, none =>
      -- some signals do nothing if nobody waits for them, and some only stop a process
      if [0, 17, 18, 23, 28].contains n then s
      else if [19, 20, 21, 22].contains n then s.expire
      else { s with flow := some (.ended (.signaled n)) }) s

/-- How a process that has run its commands ends. -/
def ending (s : State) : Ending :=
  match s.flow with
  | some (.ended e) => e
  | _ => .exited (s.status % 256)

/-- The process at its end, when it can write nowhere any more. -/
def close (s : State) : State :=
  { s with world := s.descriptors.toList.foldl (fun w (_, d) =>
      if d.writes then w.closeAt s.now d.opening else w) s.world }

/-- The wording of a signal that has ended a process. -/
def signalText (n : Nat) : String :=
  match n with
  | 1 => "Hangup"
  | 2 => "Interrupt"
  | 3 => "Quit"
  | 4 => "Illegal instruction"
  | 5 => "Trace/breakpoint trap"
  | 6 => "Aborted"
  | 7 => "Bus error"
  | 8 => "Floating point exception"
  | 9 => "Killed"
  | 10 => "User defined signal 1"
  | 11 => "Segmentation fault"
  | 12 => "User defined signal 2"
  | 13 => "Broken pipe"
  | 14 => "Alarm clock"
  | 15 => "Terminated"
  | 16 => "Stack fault"
  | 24 => "CPU time limit exceeded"
  | 25 => "File size limit exceeded"
  | 26 => "Virtual timer expired"
  | 27 => "Profiling timer expired"
  | 29 => "I/O possible"
  | 30 => "Power failure"
  | 31 => "Bad system call"
  | n => s!"Unknown signal {n}"

/-- The shell after it has seen how a process ended that it waited for. -/
def seen (s : State) (e : Ending) : State :=
  match e with
  | .exited code => s.done code
  | .signaled n =>
    let s := if n = 2 || n = 13 then s else s.complain (signalText n)
    s.done (128 + n)
  | .expired => s.expire

end State

end FaultDrill.Shell
