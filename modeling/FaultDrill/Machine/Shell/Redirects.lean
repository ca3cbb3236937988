import FaultDrill.Machine.Shell.Expand

/-!
# FaultDrill.Machine.Shell.Redirects

Connecting the streams of commands. All targets are expanded before the first of them is opened, and
what has been opened before one that cannot be is lost with it.
-/

namespace FaultDrill.Shell

/-- A redirection with its target. -/
structure Connection where
  stream : Nat
  kind : RedirectKind
  target : String

namespace Connection

/-- What the target of a duplication is: another stream, or none. -/
def source? (target : String) : Option (Option Nat) :=
  match target.toList with
  | ['-'] => some none
  | [c] => if c.isDigit then some (some (c.toNat - '0'.toNat)) else none
  | _ => none

/-- Expands the targets of redirections. -/
def expand (go : Runner) : State → List Redirect → List Connection × State
  | s, [] => ([], s)
  | s, .mk stream kind target :: rest =>
    let (text, s) := match kind with
      | .document n =>
        Expand.text go s ((s.documents.lookup n).getD [])
      | _ => Expand.text go s target
    if !s.isActive then ([], s)
    else if kind = .duplicate && (source? text).isNone then
      ([], s.fail (SyntaxFault.message ⟨s.line, .streamNumber⟩))
    else
      let (others, s) := expand go s rest
      (⟨stream, kind, text⟩ :: others, s)

/-- Why a file cannot be opened. -/
def refusal (creates : Bool) (path : String) (e : FileError) : String :=
  let word := if creates then "create" else "open"
  let reason := match e with
    | .notFound | .notDirectory => if creates then "Directory nonexistent" else "No such file"
    | e => e.reason
  s!"cannot {word} {path}: {reason}"

/-- The stream that a path of the system stands for. -/
def streamOf? (path : String) : Option Nat :=
  match path with
  | "/dev/stdin" | "/dev/fd/0" => some 0
  | "/dev/stdout" | "/dev/fd/1" => some 1
  | "/dev/stderr" | "/dev/fd/2" => some 2
  | _ => none

/-- The opening of a file for writing. -/
def openForWriting (s : State) (path : String) (appends keeps : Bool) :
    Except FileError (Opening × FileTree) := do
  let name := s.pathOf path
  let place ← s.files.writable name
  match s.files.entryAt? place with
  | some (.device d) => return (.device d, s.files)
  | some (.file _) =>
    let t ← if appends || keeps then pure s.files else s.files.write name []
    return (.file place 0 appends, t)
  | some _ => throw .notPermitted
  | none => return (.file place 0 appends, s.restricted (← s.files.write name []) place)

/-- The opening of a file for reading. -/
def openForReading (s : State) (path : String) : Except FileError Opening := do
  match ← s.find path with
  | .device d => return .device d
  | .directory => return .directory
  | .file _ | .program _ => return .file (← s.files.place (s.pathOf path)) 0 false
  | .link _ => throw .tooManyLinks

/-- Connects a stream. -/
def apply (s : State) (c : Connection) : Except String State :=
  let duplicate := fun (from_ : Nat) => match s.descriptors.get? from_ with
    | some d => Except.ok (s.connect c.stream (some d))
    | none => .error s!"{from_}: {FileError.notConnected.reason}"
  let write := fun (appends keeps reads : Bool) =>
    match openForWriting s c.target appends keeps with
    | .ok (o, t) => Except.ok ((s.withFiles t).connectNew c.stream o reads true)
    | .error e => .error (refusal true c.target e)
  match c.kind, streamOf? c.target with
  | .duplicate, _ =>
    match source? c.target with
    | some (some n) => duplicate n
    | some none => .ok (s.connect c.stream none)
    | none => .error (SyntaxFault.message ⟨s.line, .streamNumber⟩)
  | .document _, _ =>
    .ok (s.connectNew c.stream (.pipe { unread := [(s.now, c.target.toList)] }) true false)
  | .append, some n | .write _, some n | .read, some n | .readWrite, some n => duplicate n
  | .append, none => write true true false
  | .readWrite, none => write false true true
  | .write force, none =>
    if !force && s.has 'C' && (s.find c.target matches .ok (.file _)) then
      .error (refusal true c.target .alreadyThere)
    else write false false false
  | .read, none =>
    match openForReading s c.target with
    | .ok o => .ok (s.connectNew c.stream o true false)
    | .error e => .error (refusal false c.target e)

/-- Connects streams in their order. If one cannot be connected, that is written to what the errors
go to by then, and the process keeps the streams that it had. -/
def applyAll (s : State) (cs : List Connection) : Except State State :=
  let connected := cs.foldl (fun (r : Except (String × State) State) c => match r with
    | .ok s =>
      match apply s c with
      | .ok s => .ok s
      | .error message => .error (message, s)
    | .error e => .error e) (.ok s)
  match connected with
  | .ok s => .ok s
  | .error (message, t) =>
    .error ({ t.warn message with descriptors := s.descriptors }.done 2)

end Connection

end FaultDrill.Shell
