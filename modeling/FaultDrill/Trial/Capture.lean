import FaultDrill.Collections.SortedMap
import FaultDrill.Text.Pieces
import FaultDrill.Text.Utf8

/-!
# FaultDrill.Trial.Capture

The output of a driver, line by line. Only the last lines are kept, but for each watched marker the
first line with it is kept as well, however long ago it came.
-/

namespace FaultDrill

open FaultDrill.Text

/-- The output of a driver. -/
structure Capture where
  /-- How many lines are kept. -/
  limit : Nat
  watched : List String
  tail : List String := []
  /-- The first line with a marker. -/
  hits : SortedMap String String := .empty
  total : Nat := 0

namespace Capture

/-- The capture before any line; at least one line is kept. -/
def new (limit : Nat) (watched : List String) : Capture where
  limit := max 1 limit
  watched := watched

/-- The first lines with a marker, after one more line. -/
def hitsAfter (c : Capture) (line : String) : SortedMap String String :=
  c.watched.foldl (fun hits marker =>
    if contains line marker then hits.insertIfNew marker line else hits) c.hits

/-- Takes one more line. -/
def push (c : Capture) (line : String) : Capture :=
  { c with
    tail := if c.tail.length = c.limit then c.tail.drop 1 ++ [line] else c.tail ++ [line]
    hits := c.hitsAfter line
    total := c.total + 1 }

/-- Takes lines in order. -/
def pushAll (c : Capture) (lines : List String) : Capture :=
  lines.foldl push c

end Capture

/-- The lines of a stream of bytes. A line feed ends a line and takes one carriage return before it
along. -/
def streamLines (bytes : Bytes) : List Bytes :=
  let parts := bytes.splitOn 10
  let ended := parts.dropLast.map fun line =>
    match line.reverse with
    | 13 :: rest => rest.reverse
    | _ => line
  match parts.getLast? with
  | none | some [] => ended
  | some last => ended ++ [last]

/-- The lines of a stream that are read: all those before the first one that is no text. -/
def readableLines (bytes : Bytes) : List String :=
  ((streamLines bytes).map Utf8.decode?).takeWhile (·.isSome) |>.filterMap id

/-! ### Two streams -/

/-- The streams to which a driver writes. -/
inductive Stream where
  | stdout
  | stderr
  deriving DecidableEq, Repr

/-- All that was written to one stream. -/
def streamBytes (s : Stream) (chunks : List (Stream × Bytes)) : Bytes :=
  chunks.flatMap fun c => if c.1 = s then c.2 else []

/-- Puts the lines of two streams in the order in which they were ended, where lines without an end
come last. -/
def mergeLines (out err : List String) : List (Stream × Bytes) → List String
  | [] => out ++ err
  | (.stdout, bytes) :: rest =>
    out.take (bytes.count 10) ++ mergeLines (out.drop (bytes.count 10)) err rest
  | (.stderr, bytes) :: rest =>
    err.take (bytes.count 10) ++ mergeLines out (err.drop (bytes.count 10)) rest

/-- The lines of both streams that are read, in the order in which they were ended. -/
def outputLines (chunks : List (Stream × Bytes)) : List String :=
  mergeLines (readableLines (streamBytes .stdout chunks))
    (readableLines (streamBytes .stderr chunks)) chunks

end FaultDrill
