import FaultDrill.Collections.SortedMap
import FaultDrill.Files.Path
import FaultDrill.Target.Endpoint
import FaultDrill.Text.Utf8

/-!
# FaultDrill.Injection.Ledger

The ledger of the faults that can be taken back: which targets are paused, which connections are
cut, and which files are damaged, with all that is needed to undo each of them.
-/

namespace FaultDrill

/-- The components of paths are ordered as lists. -/
instance transOrdComponents : Std.TransOrd (List (Nat × String)) := inferInstance

/-- The saved content of a damaged file. -/
structure Backup where
  path : String
  target : String
  content : Bytes
  deriving DecidableEq, Repr

/-- The ledger of the faults that can be taken back. -/
structure Ledger where
  /-- The processes of paused targets. -/
  paused : SortedMap String UInt32 := .empty
  /-- The endpoints of a target and a peer that are cut off from each other. -/
  partitions : SortedMap (String × String) (Endpoint × Endpoint) := .empty
  /-- The damaged files, told apart by the components of their paths. -/
  corrupted : SortedMap (List (Nat × String)) Backup := .empty
  deriving DecidableEq

namespace Ledger

/-- Whether nothing has to be taken back. -/
def isEmpty (l : Ledger) : Bool :=
  l.paused.isEmpty && l.partitions.isEmpty && l.corrupted.isEmpty

/-- Saves the content of a file, unless it has been saved already. -/
def saveFile (l : Ledger) (target path : String) (content : Bytes) : Ledger :=
  { l with corrupted := l.corrupted.insertIfNew (Path.components path) ⟨path, target, content⟩ }

/-- The line for a paused target. -/
def pausedText (target : String) (pid : UInt32) : String :=
  s!"paused {target} (pid {pid.toNat})"

/-- The line for a cut connection. -/
def partitionText (target peer : String) : String :=
  s!"partition {target} <-> {peer}"

/-- The line for a damaged file. -/
def corruptedText (b : Backup) : String :=
  s!"corrupted {b.path} on {b.target}"

end Ledger

end FaultDrill
