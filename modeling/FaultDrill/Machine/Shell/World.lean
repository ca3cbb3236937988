import FaultDrill.Files.Tree
import FaultDrill.Machine.Ending
import FaultDrill.Text.Utf8

/-!
# FaultDrill.Machine.Shell.World

What all processes of a run share: the files, the places that streams lead to, and the time when
everything is stopped. A process that writes to a pipe has ended, or has written all that it is
going to write, before the next one reads from it, so a pipe is the list of what has been written
with the times of writing; who reads it waits until then.
-/

namespace FaultDrill.Shell

open FaultDrill.Text

/-! ### Pipes -/

/-- What has been written to a pipe and not been read. -/
structure Pipe where
  /-- Texts with the times when they were written, in their order. -/
  unread : List (Nat × List Char) := []
  /-- Texts that were written since, the latest first. -/
  written : List (Nat × List Char) := []
  /-- When the last process that could write has ended. -/
  closed : Nat := 0

namespace Pipe

/-- All texts in their order. -/
def chunks (p : Pipe) : List (Nat × List Char) :=
  p.unread ++ p.written.reverse

/-- All that has not been read. -/
def text (p : Pipe) : List Char :=
  p.chunks.flatMap (·.2)

/-- The pipe after a text has been written. -/
def write (p : Pipe) (now : Nat) (s : List Char) : Pipe :=
  { p with written := (now, s) :: p.written }

/-- Takes characters up to the first that does not satisfy a condition, and that one too. Gives
them, whether there was such a one, and the time when the last of them was written. -/
def takeThrough (p : Char → Bool) : List (Nat × List Char) →
    List Char × Bool × Nat × List (Nat × List Char)
  | [] => ([], false, 0, [])
  | (time, s) :: rest =>
    let taken := s.takeWhile p
    match s.drop taken.length with
    | c :: left => (taken ++ [c], true, time, (time, left) :: rest)
    | [] =>
      let (more, found, later, rest) := takeThrough p rest
      (taken ++ more, found, max time later, rest)

end Pipe

/-! ### Openings -/

/-- What a stream leads to. -/
inductive Opening where
  | device (d : Device)
  | directory
  /-- A file, and the position in it. Some files are only written at their end. -/
  | file (place : List String) (position : Nat) (appends : Bool)
  | pipe (p : Pipe)

instance : Inhabited Opening := ⟨.device .null⟩

/-- A stream of a process. -/
structure Descriptor where
  opening : Nat
  reads : Bool
  writes : Bool

/-! ### The world -/

/-- What the processes of a run share. -/
structure World where
  files : FileTree
  openings : Array Opening := #[]
  nextPid : Nat
  /-- When everything is stopped. -/
  deadline : Option Nat
  /-- How many commands can still be run. -/
  steps : Nat
  /-- Signals on their way to processes. -/
  signals : List (Nat × Nat) := []

namespace World

/-- The opening with a number. -/
def opening (w : World) (n : Nat) : Opening :=
  w.openings.getD n default

/-- The world with another opening in the place of one. -/
def setOpening (w : World) (n : Nat) (o : Opening) : World :=
  { w with openings := w.openings.setIfInBounds n o }

/-- The world with one more opening, and its number. -/
def addOpening (w : World) (o : Opening) : World × Nat :=
  ({ w with openings := w.openings.push o }, w.openings.size)

/-- The content of a file at a place. -/
def contentAt (w : World) (place : List String) : Bytes :=
  match w.files.entryAt? place with
  | some (.file content) => content
  | some (.program _) => System.programImage
  | some (.device d) => d.content
  | _ => []

/-- Bytes with others in their place from a position on. -/
def overwritten (old : Bytes) (position : Nat) (new : Bytes) : Bytes :=
  old.take position ++ List.replicate (position - old.length) 0 ++ new ++
    old.drop (position + new.length)

/-- Writes to an opening. -/
def write (w : World) (now n : Nat) (s : List Char) : Except FileError World :=
  match w.opening n with
  | .device d => if s.isEmpty || d ≠ .full then .ok w else .error .noSpace
  | .directory => .error .isDirectory
  | .pipe p => .ok (if s.isEmpty then w else w.setOpening n (.pipe (p.write now s)))
  | .file place position appends =>
    match w.files.entryAt? place with
    | some (.file old) =>
      let new := s.map Octets.byte
      let position := if appends then old.length else position
      let files := w.files.put place (overwritten old position new)
      .ok ({ w with files := files }.setOpening n (.file place (position + new.length) appends))
    -- what is written to a file that has been removed is lost
    | _ => .ok w

/-- Reads all that is left of an opening. Gives the time when that can be done. -/
def readAll (w : World) (n : Nat) : Except FileError (List Char × Nat) × World :=
  match w.opening n with
  | .device d => (.ok (d.content.map Octets.char, 0), w)
  | .directory => (.error .isDirectory, w)
  | .pipe p =>
    let time := p.chunks.foldl (fun t (chunk : Nat × List Char) => max t chunk.1) p.closed
    (.ok (p.text, time), w.setOpening n (.pipe { p with unread := [], written := [] }))
  | .file place position appends =>
    let content := w.contentAt place
    (.ok ((content.drop position).map Octets.char, 0),
      w.setOpening n (.file place (max position content.length) appends))

/-- Reads up to the end of a line. The flag says whether the line has an end, which is not given. -/
def readLine (w : World) (n : Nat) : Except FileError (List Char × Bool × Nat) × World :=
  match w.opening n with
  | .device d =>
    (.ok ((d.content.map Octets.char).takeWhile (· ≠ '\n'), false, 0), w)
  | .directory => (.error .isDirectory, w)
  | .pipe p =>
    let (line, found, time, left) := Pipe.takeThrough (· ≠ '\n') p.chunks
    let time := if found then time else max time p.closed
    (.ok (if found then line.dropLast else line, found, time),
      w.setOpening n (.pipe { p with unread := left, written := [] }))
  | .file place position appends =>
    let rest := ((w.contentAt place).drop position).map Octets.char
    let line := rest.takeWhile (· ≠ '\n')
    let found := line.length < rest.length
    (.ok (line, found, 0),
      w.setOpening n (.file place (position + line.length + (if found then 1 else 0)) appends))

/-- The world after a process that could write to an opening has ended. -/
def closeAt (w : World) (now n : Nat) : World :=
  match w.opening n with
  | .pipe p => w.setOpening n (.pipe { p with closed := max p.closed now })
  | _ => w

/-- What has been written to a pipe and not been read, with the times of writing. -/
def pipeAt (w : World) (n : Nat) : Pipe :=
  match w.opening n with
  | .pipe p => p
  | _ => {}

/-- Gives back what has been read of an opening and not been used, if it can take it. -/
def unread (w : World) (n count : Nat) : World :=
  match w.opening n with
  | .file place position appends => w.setOpening n (.file place (position - count) appends)
  | _ => w

end World

end FaultDrill.Shell
