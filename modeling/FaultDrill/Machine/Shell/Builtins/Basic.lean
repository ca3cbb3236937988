import FaultDrill.Machine.Shell.Programs

/-!
# FaultDrill.Machine.Shell.Builtins.Basic

What the commands that a shell runs itself have in common. Some of them are special: they are found
before functions, what is assigned before them stays, and an error in them ends the shell.
-/

namespace FaultDrill.Shell

open FaultDrill.Text

/-- The special commands. -/
def specialBuiltins : List String :=
  [".", ":", "break", "continue", "eval", "exec", "exit", "export", "local", "readonly", "return",
    "set", "shift", "times", "trap", "unset"]

/-- The other commands that a shell runs itself. -/
def regularBuiltins : List String :=
  ["[", "alias", "bg", "cd", "chdir", "command", "echo", "false", "fg", "getopts", "hash", "jobs",
    "kill", "printf", "pwd", "read", "test", "true", "type", "ulimit", "umask", "unalias", "wait"]

/-- Whether a shell runs a command itself. -/
def isBuiltin (name : String) : Bool :=
  specialBuiltins.contains name || regularBuiltins.contains name

namespace Builtins

/-- Writes to the standard output. -/
def print (s : State) (text : List Char) : State :=
  match s.write 1 text with
  | .ok s => s
  | .error _ => (s.warn (s.task.getD "" ++ ": I/O error")).done 1

/-- Writes a line to the standard output. -/
def printLine (s : State) (line : String) : State :=
  print s (line.toList ++ ['\n'])

/-- A number among the arguments. -/
def number? (a : String) : Option Int :=
  (Number.whole? a).filter fun n => -2147483648 ≤ n && n < 2147483648

/-- A number among the arguments that is not below zero. -/
def natural? (a : String) : Option Nat :=
  (number? a).bind Int.toNat?

/-- The state after an argument that is no number. -/
def illegalNumber (s : State) (a : String) : State :=
  s.fail s!"Illegal number: {a}"

/-- Letters of options at the start of arguments, and what follows them. A letter with a colon after
it takes a value. -/
def options (allowed : List Char) : Nat → List String →
    Except String (List (Char × String) × List String)
  | 0, arguments => .ok ([], arguments)
  | fuel + 1, arguments =>
    match arguments with
    | a :: rest =>
      match a.toList with
      | ['-', '-'] => .ok ([], rest)
      | '-' :: c :: letters => do
        let (read, rest) ← run (c :: letters) rest
        let (others, rest) ← options allowed fuel rest
        return (read ++ others, rest)
      | _ => .ok ([], arguments)
    | [] => .ok ([], [])
where
  /-- The letters of one argument. -/
  run : List Char → List String → Except String (List (Char × String) × List String)
    | [], rest => .ok ([], rest)
    | c :: letters, rest =>
      let place := allowed.idxOf? c
      match place with
      | none => .error s!"Illegal option -{c}"
      | some i =>
        if c = ':' then .error s!"Illegal option -{c}"
        else if allowed[i + 1]? = some ':' then
          match letters, rest with
          | [], v :: rest => .ok ([(c, v)], rest)
          | [], [] => .error s!"No arg for -{c} option"
          | letters, rest => .ok ([(c, String.ofList letters)], rest)
        else do
          let (others, rest) ← run letters rest
          return ((c, "") :: others, rest)

/-- Runs a command with its options. -/
def withOptions (allowed : String) (run : List (Char × String) → List String → State → State)
    (arguments : List String) (s : State) : State :=
  match options allowed.toList (arguments.length + 1) arguments with
  | .ok (given, rest) => run given rest s
  | .error message => s.fail message

/-- A text in quotation marks. -/
def singleQuoted (s : String) : String :=
  "'" ++ replaced s "'" "'\"'\"'" ++ "'"

end Builtins

end FaultDrill.Shell
