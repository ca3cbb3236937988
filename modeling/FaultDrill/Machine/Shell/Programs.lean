import FaultDrill.Machine.Shell.Awk.Run
import FaultDrill.Machine.Shell.Tools.Calendar
import FaultDrill.Machine.Shell.Tools.Columns
import FaultDrill.Machine.Shell.Tools.Copying
import FaultDrill.Machine.Shell.Tools.Facts
import FaultDrill.Machine.Shell.Tools.Lines
import FaultDrill.Machine.Shell.Tools.Listing
import FaultDrill.Machine.Shell.Tools.Paths
import FaultDrill.Machine.Shell.Tools.Editing
import FaultDrill.Machine.Shell.Tools.Search
import FaultDrill.Machine.Shell.Tools.Summing
import FaultDrill.Text.Blank

/-!
# FaultDrill.Machine.Shell.Programs

Finding the program that a word names, and what is run then: a tool of the system, or a script with
the program that its first line names.
-/

namespace FaultDrill.Shell

open FaultDrill.Text

/-- The tools that run no other programs. -/
def tool? (name : String) : Option Tool :=
  match name with
  | "[" => some (Tools.test true)
  | "awk" | "mawk" => some Tools.awk
  | "arch" => some fun _ s => Tools.emitLine (s.done 0) "arch" "x86_64"
  | "base64" => some Tools.base64
  | "basename" => some Tools.basename
  | "cat" => some Tools.cat
  | "chmod" => some Tools.chmod
  | "cksum" => some Tools.cksum
  | "cmp" => some Tools.cmp
  | "comm" => some Tools.comm
  | "cp" => some Tools.cp
  | "cut" => some Tools.cut
  | "date" => some Tools.date
  | "diff" => some Tools.diff
  | "dirname" => some Tools.dirname
  | "echo" => some Tools.echo
  | "egrep" => some Tools.egrep
  | "expr" => some Tools.expr
  | "false" => some fun _ s => s.done 1
  | "fgrep" => some Tools.fgrep
  | "fold" => some Tools.fold
  | "grep" => some Tools.grep
  | "groups" => some fun _ s => Tools.emitLine (s.done 0) "groups" "root"
  | "head" => some Tools.head
  | "hostname" => some Tools.hostname
  | "id" => some Tools.id
  | "ln" => some Tools.ln
  | "logname" => some fun _ s => Tools.report s "logname" "no login name" 1
  | "ls" => some Tools.ls
  | "md5sum" => some (Tools.digestTool "md5sum" Digest.md5)
  | "mkdir" => some Tools.mkdir
  | "mktemp" => some Tools.mktemp
  | "mv" => some Tools.mv
  | "nl" => some Tools.nl
  | "nproc" => some Tools.nproc
  | "od" => some Tools.od
  | "paste" => some Tools.paste
  | "printenv" => some Tools.printenv
  | "printf" => some Tools.printf
  | "pwd" => some Tools.pwd
  | "readlink" => some Tools.readlink
  | "realpath" => some Tools.realpath
  | "rev" => some Tools.rev
  | "rm" => some Tools.rm
  | "rmdir" => some Tools.rmdir
  | "sed" => some Tools.sed
  | "seq" => some Tools.seq
  | "sha1sum" => some (Tools.digestTool "sha1sum" Digest.sha1)
  | "sha256sum" => some (Tools.digestTool "sha256sum" Digest.sha256)
  | "sleep" => some Tools.sleep
  | "sort" => some Tools.sort
  | "stat" => some Tools.stat
  | "sync" | "true" => some fun _ s => s.done 0
  | "tac" => some Tools.tac
  | "tail" => some Tools.tail
  | "tee" => some Tools.tee
  | "test" => some (Tools.test false)
  | "touch" => some Tools.touch
  | "tr" => some Tools.tr
  | "truncate" => some Tools.truncate
  | "tty" => some fun _ s => (Tools.emitLine s "tty" "not a tty").done 1
  | "uname" => some Tools.uname
  | "uniq" => some Tools.uniq
  | "unlink" => some Tools.unlink
  | "wc" => some Tools.wc
  | "whoami" => some Tools.whoami
  | "yes" => some Tools.yes
  | _ => none

/-- What a file is when it is run. -/
inductive Image where
  | tool (name : String)
  /-- A script with the words of the program that its first line names. -/
  | script (interpreter : List String)
  /-- A script that names no program. -/
  | plain

/-- The words of the first line of a script after its mark. -/
def interpreterOf? (content : List Char) : Option (List String) :=
  match content with
  | '#' :: '!' :: rest =>
    let line := (rest.takeWhile (· ≠ '\n')).dropWhile fun c => c = ' ' || c = '\t'
    let program := line.takeWhile fun c => c ≠ ' ' && c ≠ '\t'
    let argument := trim (line.drop program.length)
    some (String.ofList program :: (if argument.isEmpty then [] else [String.ofList argument]))
  | _ => none

namespace State

/-- What the file that a path names is when it is run. -/
def imageOf (s : State) (path : String) : Except FileError Image := do
  let entry ← s.find path
  let place ← s.files.place (s.pathOf path)
  match entry with
  | .program name => return .tool name
  | .directory | .device _ | .link _ => throw .notPermitted
  | .file content =>
    if !s.files.mayRun place then throw .notPermitted
    else
      match interpreterOf? (content.map Octets.char) with
      | some words => return .script words
      | none => return .plain

/-- The directories in which programs are looked for. -/
def searchPath (s : State) : List String :=
  match s.value? "PATH" with
  | some path => (path.toList.splitOn ':').map String.ofList
  | none => []

/-- The path of the program that a word names. -/
def programPath (s : State) (name : String) : Except FileError String :=
  if name.toList.contains '/' then .ok name
  else
    let paths := s.searchPath.map fun dir => if dir = "" then name else dir ++ "/" ++ name
    let found := paths.filterMap fun path => match s.imageOf path with
      | .ok _ => some (.ok path)
      | .error .notPermitted => some (.error FileError.notPermitted)
      | .error _ => none
    match found.find? fun r => (r matches .ok _), found with
    | some r, _ => r
    | none, [] => .error .notFound
    | none, _ => .error .notPermitted

/-- The status of a program that cannot be run. -/
def unrunnableStatus : FileError → Nat
  | .notFound | .notDirectory | .nameTooLong => 127
  | _ => 126

/-- The wording for a program that cannot be run. -/
def unrunnableReason : FileError → String
  | .notFound | .notDirectory => "not found"
  | e => e.reason

end State

end FaultDrill.Shell
