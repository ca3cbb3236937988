import FaultDrill.Collections.SortedMap
import FaultDrill.Files.Error
import FaultDrill.Files.Path
import FaultDrill.Files.System

/-!
# FaultDrill.Files.Tree

The files that can be reached: directories and files below one root, each named by the steps that
lead to it. A path is followed step by step, from the root or from the working directory, so that a
missing directory, a file in the place of a directory, and a directory in the place of a file are
told apart. A link is followed too, unless it is the link itself that matters. What has been put at
a place hides what the system has there. The main statement is that a file stands where it has been
put (`entryAt?_put_self`).
-/

namespace FaultDrill

/-- The entries that have been put below the root, and the permissions that differ from those that
entries have otherwise. -/
structure FileTree where
  entries : SortedMap (List String) Entry := .empty
  modes : SortedMap (List String) Nat := .empty

namespace FileTree

/-- The tree in which nothing has been put. -/
def empty : FileTree where

instance : Inhabited FileTree := ⟨empty⟩

/-- The entry at a place. -/
def entryAt? (t : FileTree) (place : List String) : Option Entry :=
  match t.entries.get? place with
  | some entry => some entry
  | none => System.entry? place

/-! ### Following a path -/

/-- How many bytes a name has at most. -/
def maxNameBytes : Nat := 255

/-- How many bytes are too many for a path. -/
def maxPathBytes : Nat := 4096

/-- How many links are followed at most. -/
def maxLinks : Nat := 40

/-- Where a path starts from that is taken from a directory. -/
def originIn (here : List String) (path : String) : List String :=
  if Path.isAbsolute path then [] else here

/-- Where a path starts from. -/
def origin (path : String) : List String :=
  originIn System.workingPlace path

/-- Takes steps from a directory. All but the last must lead to a directory; the last gives the
place, whether something is there or not. Nothing is above the root. What a link leads to is left
open; the flag says whether one at the end counts. -/
def walk (t : FileTree) (atEnd : Bool)
    (onLink : List String → List String → Except FileError (List String)) (here : List String) :
    List String → Except FileError (List String)
  | [] => .ok here
  | step :: rest =>
    if step = ".." then walk t atEnd onLink here.dropLast rest
    else if maxNameBytes < step.utf8ByteSize then .error .nameTooLong
    else
      match t.entryAt? (here ++ [step]) with
      | some (.link target) =>
        if rest.isEmpty && !atEnd then .ok (here ++ [step])
        else onLink (originIn here target) (Path.steps target ++ rest)
      | some .directory => walk t atEnd onLink (here ++ [step]) rest
      | some _ => if rest.isEmpty then .ok (here ++ [step]) else .error .notDirectory
      | none => if rest.isEmpty then .ok (here ++ [step]) else .error .notFound

/-- Follows steps from a directory over so many links at most. -/
def follow (t : FileTree) (atEnd : Bool) :
    Nat → List String → List String → Except FileError (List String)
  | 0 => walk t atEnd fun _ _ => .error .tooManyLinks
  | links + 1 => walk t atEnd (follow t atEnd links)

/-- Refuses the texts that are no paths. -/
def checkPath (path : String) : Except FileError Unit :=
  if path.toList.contains '\x00' then .error .nulInName
  else if maxPathBytes ≤ path.utf8ByteSize then .error .nameTooLong
  else .ok ()

/-- The place that a path names. The flag says whether a link at its end is followed. -/
def placeBy (t : FileTree) (atEnd : Bool) (path : String) : Except FileError (List String) := do
  checkPath path
  if path = "" then throw .notFound
  t.follow atEnd maxLinks (origin path) (Path.steps path)

/-- The place that a path leads to. -/
def place (t : FileTree) (path : String) : Except FileError (List String) :=
  t.placeBy true path

/-- The place of the entry that a path names, which may be a link. -/
def ownPlace (t : FileTree) (path : String) : Except FileError (List String) :=
  t.placeBy (Path.namesDirectory path) path

/-- The entry that a path names with its place, which has been found already. -/
def entryOf (t : FileTree) (path : String) (place : List String) : Except FileError Entry :=
  match t.entryAt? place with
  | none => .error .notFound
  | some .directory => .ok .directory
  | some entry => if Path.namesDirectory path then .error .notDirectory else .ok entry

/-- The entry that a path leads to. -/
def find (t : FileTree) (path : String) : Except FileError Entry := do
  t.entryOf path (← t.place path)

/-- The entry that a path names, which may be a link. -/
def findOwn (t : FileTree) (path : String) : Except FileError Entry := do
  t.entryOf path (← t.ownPlace path)

/-! ### Reading -/

/-- The content of a file. -/
def read (t : FileTree) (path : String) : Except FileError Bytes := do
  match ← t.find path with
  | .file content => return content
  | .directory => throw .isDirectory
  | .device d => return d.content
  | .program _ => return System.programImage
  | .link _ => throw .tooManyLinks

/-- The content of a file as text. -/
def readText (t : FileTree) (path : String) : Except FileError String := do
  match Text.Utf8.decode? (← t.read path) with
  | some text => return text
  | none => throw .invalidText

/-- The size of what a path names. A directory has a small size of its own. -/
def sizeOf (t : FileTree) (path : String) : Except FileError Nat := do
  match ← t.find path with
  | .file content => return content.length
  | .directory => return 4096
  | .device _ => return 0
  | .program _ => return System.programImage.length
  | .link target => return target.utf8ByteSize

/-- Whether a path names a file with bytes of its own. -/
def isFile (t : FileTree) (path : String) : Bool :=
  match t.find path with
  | .ok (.file _) | .ok (.program _) => true
  | _ => false

/-- Whether a path names anything. -/
def exists? (t : FileTree) (path : String) : Bool :=
  match t.find path with
  | .ok _ => true
  | .error _ => false

/-- The names that have been put in a directory, in ascending order. -/
def names (t : FileTree) (place : List String) : List String :=
  t.entries.keys.filterMap fun key =>
    if key ≠ [] ∧ key.dropLast = place then key.getLast? else none

/-- The names in a directory, in ascending order. -/
def listing (t : FileTree) (place : List String) : List String :=
  ((t.names place ++ System.names place).mergeSort fun a b => !(b < a)).eraseDups

/-! ### Writing -/

/-- The permissions that an entry has if none have been chosen: for directories and programs all but
writing by others, for files reading by all and writing by the owner. -/
def standardMode : Entry → Nat
  | .directory | .program _ => 493
  | .file _ => 420
  | .device _ => 438
  | .link _ => 511

/-- The permissions of what stands at a place. -/
def modeAt (t : FileTree) (place : List String) : Nat :=
  match t.modes.get? place, t.entryAt? place with
  | some mode, _ => mode
  | none, some entry => standardMode entry
  | none, none => 0

/-- Sets the permissions of what stands at a place. -/
def setMode (t : FileTree) (place : List String) (mode : Nat) : FileTree :=
  { t with modes := t.modes.insert place mode }

/-- The tree with an entry at a place where nothing is. -/
def add (t : FileTree) (place : List String) (entry : Entry) : FileTree :=
  { t with entries := t.entries.insert place entry }

/-- The tree with a file at a place. -/
def put (t : FileTree) (place : List String) (content : Bytes) : FileTree :=
  { t with entries := t.entries.insert place (.file content) }

/-- The place where a file can be written. -/
def writable (t : FileTree) (path : String) : Except FileError (List String) := do
  let place ← t.place path
  match t.entryAt? place with
  | some .directory => throw .isDirectory
  | some _ => if Path.namesDirectory path then throw .notDirectory else return place
  | none => if Path.namesDirectory path then throw .isDirectory else return place

/-- Writes to a place where a file can be written. -/
def writeAt (t : FileTree) (place : List String) (content : Bytes) : Except FileError FileTree :=
  match t.entryAt? place with
  | some (.device d) => if d.takes content then .ok t else .error .noSpace
  | _ => .ok (t.put place content)

/-- Writes a file, over an older one. -/
def write (t : FileTree) (path : String) (content : Bytes) : Except FileError FileTree := do
  t.writeAt (← t.writable path) content

/-- Writes at the end of a file, which may be new. -/
def append (t : FileTree) (path : String) (content : Bytes) : Except FileError FileTree := do
  let place ← t.writable path
  match t.entryAt? place with
  | some (.file old) => t.writeAt place (old ++ content)
  | _ => t.writeAt place content

/-- Makes the directories that lead to a place and the place itself. -/
def makeDirectories (t : FileTree) (here : List String) : List String → Except FileError FileTree
  | [] => .ok t
  | step :: rest =>
    if step = ".." then makeDirectories t here.dropLast rest
    else if maxNameBytes < step.utf8ByteSize then .error .nameTooLong
    else
      let here := here ++ [step]
      match t.entryAt? here with
      | some .directory => makeDirectories t here rest
      | some (.link target) =>
        match t.follow true maxLinks (originIn here.dropLast target) (Path.steps target) with
        | .ok there =>
          if t.entryAt? there = some .directory then makeDirectories t there rest
          else .error .alreadyThere
        | .error e => .error e
      | some _ => .error (if rest.isEmpty then .alreadyThere else .notDirectory)
      | none => makeDirectories (t.add here .directory) here rest

/-- Makes a directory with all that lead to it. -/
def makeDirectory (t : FileTree) (path : String) : Except FileError FileTree := do
  checkPath path
  t.makeDirectories (origin path) (Path.steps path)

/-- Makes a directory in one that is there. -/
def addDirectory (t : FileTree) (path : String) : Except FileError FileTree := do
  let place ← t.placeBy false path
  match t.entryAt? place with
  | some _ => throw .alreadyThere
  | none => return t.add place .directory

/-- Makes a link to a path. -/
def addLink (t : FileTree) (target path : String) : Except FileError FileTree := do
  let place ← t.ownPlace path
  match t.entryAt? place with
  | some _ => throw .alreadyThere
  | none =>
    if target = "" || path.toList.getLast? = some '/' then throw .notFound
    else return t.add place (.link target)

/-- Writes a file after making the directories that lead to it. -/
def plant (t : FileTree) (path : String) (content : Bytes) : Except FileError FileTree := do
  let t ← t.makeDirectories (origin path) (Path.steps path).dropLast
  t.write path content

/-- Removes a file. -/
def remove (t : FileTree) (path : String) : Except FileError FileTree := do
  let place ← t.ownPlace path
  match t.entryAt? place, t.entries.get? place with
  | none, _ => throw .notFound
  | some .directory, _ => throw .isDirectory
  | some _, none => throw .notPermitted
  | some _, some _ =>
    if Path.namesDirectory path then throw .notDirectory
    else return ⟨t.entries.erase place, t.modes.erase place⟩

/-- The tree without what stands at a place and below it. -/
def dropAll (t : FileTree) (place : List String) : FileTree :=
  ⟨.ofList (t.entries.toList.filter fun (key, _) => !place.isPrefixOf key),
    .ofList (t.modes.toList.filter fun (key, _) => !place.isPrefixOf key)⟩

/-- Removes an entry with all that is below it. -/
def removeAll (t : FileTree) (path : String) : Except FileError FileTree := do
  let place ← t.ownPlace path
  if (t.entryAt? place).isNone then throw .notFound
  return dropAll t place

/-- The tree with what stands at a place and below it at another place as well. -/
def copyAll (t : FileTree) (source target : List String) : FileTree :=
  let moved := fun (place : List String) => target ++ place.drop source.length
  let below := t.entries.toList.filter fun (place, _) => source.isPrefixOf place
  let entries := match t.entries.get? source, t.entryAt? source with
    | none, some (.file content) => t.entries.insert target (.file content)
    | none, some (.program _) => t.entries.insert target (.file System.programImage)
    | _, _ => t.entries
  let modes := (t.modes.toList.filter fun (place, _) => source.isPrefixOf place)
  let modes := match t.entries.get? source, t.entryAt? source with
    | none, some (.program _) => [(source, 493)]
    | _, _ => modes
  { entries := below.foldl (fun es (place, entry) => es.insert (moved place) entry) entries
    modes := modes.foldl (fun ms (place, mode) => ms.insert (moved place) mode) t.modes }

/-! ### Programs -/

/-- Whether what stands at a place may be run. -/
def mayRun (t : FileTree) (place : List String) : Bool :=
  match t.entryAt? place with
  | some (.program _) => true
  | some (.file _) => t.modeAt place &&& 73 ≠ 0
  | _ => false

/-! ### Comparing -/

/-- The path that leads to a place from the working directory. -/
def pathTo (place : List String) : String :=
  if System.workingPlace.isPrefixOf place then
    "/".intercalate (place.drop System.workingPlace.length)
  else "/" ++ "/".intercalate place

/-- The entries that another tree does not have in the same way, with their paths. -/
def changesFrom (t before : FileTree) : List (String × Entry) :=
  (t.entries.toList.filter fun (place, entry) => before.entries.get? place ≠ some entry).map
    fun (place, entry) => (pathTo place, entry)

/-! ### Laws -/

/-- A file stands where it has been put. -/
theorem entryAt?_put_self (t : FileTree) (place : List String) (content : Bytes) :
    (t.put place content).entryAt? place = some (.file content) := by
  simp [entryAt?, put, SortedMap.get?_insert_self]

end FileTree

end FaultDrill
