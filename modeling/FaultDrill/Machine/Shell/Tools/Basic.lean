import FaultDrill.Machine.Shell.Number
import FaultDrill.Machine.Shell.State
import FaultDrill.Text.Pieces

/-!
# FaultDrill.Machine.Shell.Tools.Basic

What the tools have in common: options, inputs that are files or the standard input, and the wording
of errors, which go on with the next input.
-/

namespace FaultDrill.Shell

open FaultDrill.Text

/-- A program that runs in a process with its arguments. -/
abbrev Tool := List String → State → State

namespace Tools

/-! ### Errors -/

/-- The characters that need no quotation marks in messages. -/
def isSafe (c : Char) : Bool :=
  c.isAlphanum || ['/', '.', '_', '-', '+', ',', ':', '@', '%', '=', '~', '#'].contains c

/-- A name in messages, with quotation marks if it needs them. -/
def nameText (name : String) : String :=
  if name ≠ "" && name.toList.all isSafe then name
  else "'" ++ replaced name "'" "'\\''" ++ "'"

/-- A name with quotation marks in any case. -/
def quoted (name : String) : String :=
  "'" ++ replaced name "'" "'\\''" ++ "'"

/-- Writes about an error of a tool, and goes on. -/
def report (s : State) (tool message : String) (status : Nat) : State :=
  (s.complain s!"{tool}: {message}").done status

/-- Writes to the standard output. -/
def emit (s : State) (tool : String) (text : List Char) : State :=
  match s.write 1 text with
  | .ok s => s
  | .error e => report s tool s!"write error: {e.reason}" 1

/-- Writes a line to the standard output. -/
def emitLine (s : State) (tool line : String) : State :=
  emit s tool (line.toList ++ ['\n'])

/-! ### Options -/

/-- Options with their values, and the arguments that are none. -/
structure Options where
  given : List (Char × String) := []
  operands : List String := []
  /-- Why the arguments cannot be understood. -/
  fault : Option String := none

namespace Options

/-- Whether an option is given. -/
def has (o : Options) (c : Char) : Bool :=
  o.given.any (·.1 = c)

/-- The value of an option that is given last. -/
def value? (o : Options) (c : Char) : Option String :=
  (o.given.reverse.find? (·.1 = c)).map (·.2)

/-- The values of an option in their order. -/
def values (o : Options) (c : Char) : List String :=
  (o.given.filter (·.1 = c)).map (·.2)

end Options

/-- Which options a tool takes: letters without and with values, and the long names of letters. -/
structure Grammar where
  flags : String := ""
  valued : String := ""
  long : List (String × Char) := []
  /-- Whether an argument that is no option ends the options. -/
  ordered : Bool := false

/-- The options of letters after a dash. A letter with a value takes the rest, or the next argument,
of which the answer says whether it has been taken. -/
def Grammar.letters (g : Grammar) (next : Option String) :
    List Char → Except String (List (Char × String) × Bool)
  | [] => .ok ([], false)
  | c :: rest =>
    if g.flags.toList.contains c then do
      let (others, taken) ← g.letters next rest
      return ((c, "") :: others, taken)
    else if g.valued.toList.contains c then
      if rest.isEmpty then
        match next with
        | some v => .ok ([(c, v)], true)
        | none => .error s!"option requires an argument -- '{c}'"
      else .ok ([(c, String.ofList rest)], false)
    else .error s!"invalid option -- '{c}'"

/-- The option of a long name. -/
def Grammar.longOption (g : Grammar) (next : Option String) (text : String) :
    Except String ((Char × String) × Bool) :=
  let (name, value?) := match cut? '=' text.toList with
    | some (name, value) => (String.ofList name, some (String.ofList value))
    | none => (text, none)
  let exact := g.long.filter (·.1 = name)
  let found := if exact.isEmpty then g.long.filter fun (n, _) => name.toList.isPrefixOf n.toList
    else exact
  match found with
  | [(full, c)] =>
    if g.valued.toList.contains c then
      match value?, next with
      | some v, _ => .ok ((c, v), false)
      | none, some v => .ok ((c, v), true)
      | none, none => .error s!"option '--{full}' requires an argument"
    else if value?.isSome then .error s!"option '--{full}' doesn't allow an argument"
    else .ok ((c, ""), false)
  | [] => .error s!"unrecognized option '--{text}'"
  | _ => .error s!"option '--{text}' is ambiguous"

/-- The options among arguments. -/
def Grammar.read (g : Grammar) : Nat → List String → Options
  | 0, _ | _, [] => {}
  | fuel + 1, a :: rest =>
    match a.toList with
    | ['-', '-'] => { operands := rest }
    | '-' :: '-' :: name =>
      match g.longOption rest.head? (String.ofList name) with
      | .ok (option, taken) =>
        let o := g.read fuel (if taken then rest.drop 1 else rest)
        { o with given := option :: o.given }
      | .error message => { fault := some message }
    | '-' :: c :: letters =>
      match g.letters rest.head? (c :: letters) with
      | .ok (options, taken) =>
        let o := g.read fuel (if taken then rest.drop 1 else rest)
        { o with given := options ++ o.given }
      | .error message => { fault := some message }
    | _ =>
      if g.ordered then { operands := a :: rest }
      else
        let o := g.read fuel rest
        { o with operands := a :: o.operands }

/-- The state after arguments that cannot be understood. -/
def refuse (s : State) (tool message : String) (status : Nat) : State :=
  (s.complain s!"{tool}: {message}\nTry '{tool} --help' for more information.").done status

/-- Runs a tool with its options. -/
def withOptions (tool : String) (g : Grammar) (status : Nat) (run : Options → State → State) :
    Tool := fun arguments s =>
  let o := g.read (arguments.length + 1) arguments
  match o.fault with
  | some message => refuse s tool message status
  | none => run o (s.done 0)

/-! ### Inputs -/

/-- The content of an input, which is a file or the standard input. -/
def inputOf (s : State) (name : String) : Except FileError (List Char) × State :=
  if name = "-" then s.readAll 0 else (s.readFile name, s)

/-- Goes through inputs, or through the standard input if none is named. -/
def eachInput (tool : String) (names : List String) (status : Nat)
    (use : String → List Char → State → State) (s : State) : State :=
  (if names.isEmpty then ["-"] else names).foldl (fun s name =>
    if s.isActive then
      match inputOf s name with
      | (.ok content, s) => use name content s
      | (.error e, s) => report s tool s!"{nameText name}: {e.reason}" status
    else s) s

/-- All inputs one after the other. -/
def joinedInput (tool : String) (names : List String) (status : Nat) (s : State) :
    List Char × State :=
  (if names.isEmpty then ["-"] else names).foldl (fun (read, s) name =>
    match inputOf s name with
    | (.ok content, s) => (read ++ content, s)
    | (.error e, s) => (read, report s tool s!"{nameText name}: {e.reason}" status)) ([], s)

/-- The lines of a text, and whether the last one has an end. -/
def linesOf (s : List Char) : List (List Char) × Bool :=
  match (s.splitOn '\n').reverse with
  | [] :: rest => (rest.reverse, true)
  | all => (all.reverse, false)

/-- The lines of a text, each with its end if it has one. -/
def wholeLines (s : List Char) : List (List Char) :=
  let (lines, ended) := linesOf s
  let closed := fun (l : List Char) => l ++ ['\n']
  if ended then lines.map closed else lines.dropLast.map closed ++ lines.getLast?.toList

/-- The lines of inputs one after the other, or the first input that cannot be read. -/
def inputLines : List String → State → Except (String × FileError) (List (List Char)) × State
  | [], s => (.ok [], s)
  | name :: rest, s =>
    match inputOf s name with
    | (.error e, s) => (.error (name, e), s)
    | (.ok content, s) =>
      let (others, s) := inputLines rest s
      (others.map ((linesOf content).1 ++ ·), s)

/-- Lines as a text, in which each has an end. -/
def unlines (lines : List (List Char)) : List Char :=
  lines.flatMap (· ++ ['\n'])

/-- Lines as a text, in which the last one may have no end. -/
def joinLines (lines : List (List Char)) (ended : Bool) : List Char :=
  if ended then unlines lines else (unlines lines).dropLast

/-- A number at the right of a field. -/
def rightAligned (width n : Nat) : List Char :=
  let digits := Decimal.write n
  List.replicate (width - digits.length) ' ' ++ digits

/-! ### Amounts -/

/-- A number in a base with at least so many digits. -/
def inBase (base width n : Nat) : List Char :=
  let digits := Nat.toDigits base n
  List.replicate (width - digits.length) '0' ++ digits

/-- A number of seconds, possibly with a fraction and a unit, in nanoseconds. -/
def seconds? (s : String) : Option Nat :=
  let chars := s.toList
  let whole := chars.takeWhile Char.isDigit
  let (fraction, rest) := match chars.drop whole.length with
    | '.' :: rest => (rest.takeWhile Char.isDigit, rest.dropWhile Char.isDigit)
    | rest => ([], rest)
  let unit? := match rest with
    | [] | ['s'] => some 1
    | ['m'] => some 60
    | ['h'] => some 3600
    | ['d'] => some 86400
    | _ => none
  if whole.isEmpty && fraction.isEmpty then
    if s = "infinity" || s = "inf" then some (10000000000 * nanosPerSecond) else none
  else
    unit?.map fun unit => unit * (Decimal.value 0 whole * nanosPerSecond +
      Decimal.value 0 (fraction.take 9) * Nat.pow 10 (9 - min 9 fraction.length))

/-- A count with a unit of bytes. -/
def count? (s : String) : Option Nat :=
  let digits := s.toList.takeWhile Char.isDigit
  let unit? := match String.ofList (s.toList.drop digits.length) with
    | "" => some 1
    | "b" => some 512
    | "k" | "K" | "KiB" => some 1024
    | "kB" | "KB" => some 1000
    | "M" | "MiB" => some 1048576
    | "MB" => some 1000000
    | "G" | "GiB" => some 1073741824
    | _ => none
  if digits.isEmpty then none else unit?.map (Decimal.value 0 digits * ·)

end Tools

end FaultDrill.Shell
