import FaultDrill.Machine.Shell.Builtins.Basic
import FaultDrill.Machine.Shell.Source

/-!
# FaultDrill.Machine.Shell.Builtins.Names

What words name as commands: keywords, words that stand for others, functions, commands that the
shell runs itself, and programs, whose paths are remembered.
-/

namespace FaultDrill.Shell

open FaultDrill.Text

/-- The shell after it has remembered the path of a program. -/
def State.locate (s : State) (name : String) : State :=
  if name.toList.contains '/' || s.located.any (·.1 = name) then s
  else
    match s.programPath name with
    | .ok path =>
      if (s.imageOf path) matches .ok _ then { s with located := s.located ++ [(name, path)] }
      else s
    | .error _ => s

namespace Builtins

namespace Names

/-- What a word names as a command: a short text, and one in a sentence. -/
def describe? (s : State) (name : String) : Option (String × String) :=
  if keywords.contains name then some (name, s!"{name} is a shell keyword")
  else
    match s.aliases.lookup name with
    | some value =>
      some (s!"alias {name}={singleQuoted value}", s!"{name} is an alias for {value}")
    | none =>
      if specialBuiltins.contains name then some (name, s!"{name} is a special shell builtin")
      else if (s.functions.get? name).isSome then some (name, s!"{name} is a shell function")
      else if regularBuiltins.contains name then some (name, s!"{name} is a shell builtin")
      else
        match s.located.lookup name, s.programPath name with
        | some path, _ => some (path, s!"{name} is a tracked alias for {path}")
        | none, .ok path =>
          if (s.imageOf path) matches .ok _ then some (path, s!"{name} is {path}") else none
        | none, .error _ => none

/-- Shows what words name as commands. -/
def type (arguments : List String) (s : State) : State :=
  arguments.foldl (fun s name => match describe? s name with
    | some (_, text) => printLine (s.locate name) text
    | none => (printLine s s!"{name}: not found").done 127) (s.done 0)

/-- Shows what a word names as a command, in short or in a sentence. -/
def showCommand (short : Bool) (arguments : List String) (s : State) : State :=
  match arguments with
  | [] => s.done 0
  | name :: _ =>
    match describe? s name with
    | some (brief, text) => printLine ((s.done 0).locate name) (if short then brief else text)
    | none => if short then s.done 127 else (printLine s s!"{name}: not found").done 127

/-- In which of so many rows a name is kept. Rows are shown one after the other. -/
def rowOf (rows : Nat) (name : String) : Nat :=
  let codes := name.toList.map Char.toNat
  codes.foldl (· + ·) (codes.headD 0 * 16) % 32768 % rows

/-- Names with what they stand for, row after row. -/
def byRows (rows : Nat) (names : List (String × String)) : List (String × String) :=
  names.mergeSort fun a b => rowOf rows a.1 ≤ rowOf rows b.1

/-- Shows a word that stands for others. -/
def showAlias (s : State) (name value : String) : State :=
  printLine s s!"{name}={singleQuoted value}"

/-- Lets words stand for others, or shows those that do. -/
def defineAlias (arguments : List String) (s : State) : State :=
  if arguments.isEmpty then
    (byRows 39 s.aliases).foldl (fun s (name, value) => showAlias s name value) (s.done 0)
  else
    arguments.foldl (fun s a =>
      match a.toList with
      | [] => (s.complain s!"alias: {a} not found").done 1
      | c :: rest =>
        match cut? '=' rest with
        | some (name, value) =>
          let name := String.ofList (c :: name)
          let entry := (name, String.ofList value)
          if s.aliases.any (·.1 = name) then
            { s with aliases := s.aliases.map fun e => if e.1 = name then entry else e }
          else { s with aliases := s.aliases ++ [entry] }
        | none =>
          match s.aliases.lookup a with
          | some value => showAlias s a value
          | none => (s.complain s!"alias: {a} not found").done 1) (s.done 0)

/-- Lets words stand for others no more. -/
def unalias : List String → State → State :=
  withOptions "a" fun given arguments s =>
    let s := s.done 0
    if given.isEmpty then
      arguments.foldl (fun s name =>
        if s.aliases.any (·.1 = name) then
          { s with aliases := s.aliases.filter (·.1 ≠ name) }
        else (s.complain s!"unalias: {name} not found").done 1) s
    else { s with aliases := [] }

/-- Remembers programs, or shows or forgets those that are remembered. -/
def hash : List String → State → State :=
  withOptions "r" fun given arguments s =>
    let s := s.done 0
    if !given.isEmpty then { s with located := [] }
    else if arguments.isEmpty then
      (byRows 31 s.located).foldl (fun s (_, path) => printLine s path) s
    else
      arguments.foldl (fun s name =>
        match describe? s name with
        | some _ => if isBuiltin name || (s.functions.get? name).isSome then s else s.locate name
        | none => (s.warn s!"{name}: not found").done 1) s

end Names

end Builtins

end FaultDrill.Shell
