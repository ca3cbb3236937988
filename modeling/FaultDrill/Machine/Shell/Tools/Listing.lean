import FaultDrill.Machine.Shell.Format
import FaultDrill.Machine.Shell.Tools.Paths

/-!
# FaultDrill.Machine.Shell.Tools.Listing

Tools that show or change facts about files: their names, kinds, sizes and permissions.
-/

namespace FaultDrill.Shell.Tools

open FaultDrill.Text

/-! ### Modes -/

/-- Changes the permissions of what stands at a place. -/
def changeMode (o : Options) (mode path : String) (place : List String) (s : State) : State :=
  let old := s.files.modeAt place
  let isDirectory := s.files.entryAt? place = some .directory
  match Mode.change? mode isDirectory s.mask old with
  | none => s
  | some new =>
    let octal := fun (n : Nat) => String.ofList (inBase 8 4 n)
    let now := s!"{octal new} ({Mode.text new})"
    let s := s.withFiles (s.files.setMode place new)
    if new ≠ old && (o.has 'v' || o.has 'c') then
      let before := s!"{octal old} ({Mode.text old})"
      emitLine s "chmod" s!"mode of {quoted path} changed from {before} to {now}"
    else if o.has 'v' then emitLine s "chmod" s!"mode of {quoted path} retained as {now}"
    else s

/-- Changes the permissions of files. -/
def chmod : Tool := fun arguments s =>
  let isMode := fun (a : String) => match a.toList with
    | '-' :: c :: _ => ['r', 'w', 'x', 'X', 's', 't'].contains c
    | _ => false
  let modes := arguments.filter isMode
  withOptions "chmod"
    { flags := "Rfvc", valued := "="
      long := [("recursive", 'R'), ("verbose", 'v'), ("changes", 'c'), ("reference", '=')] } 1
    (fun o s =>
      let like := (o.value? '=').bind fun path => match s.files.place (s.pathOf path) with
        | .ok place => some (String.ofList (inBase 8 4 (s.files.modeAt place)))
        | .error _ => none
      let (mode?, paths) := match like, modes, o.operands with
        | some m, _, paths => (some m, paths)
        | none, m :: _, paths => (some m, paths)
        | none, [], m :: paths => (some m, paths)
        | none, [], [] => (none, [])
      match mode?, paths with
      | none, _ => refuse s "chmod" "missing operand" 1
      | some mode, [] => refuse s "chmod" s!"missing operand after {quoted mode}" 1
      | some mode, paths =>
        if (Mode.change? mode false 0 0).isNone then
          refuse s "chmod" s!"invalid mode: {quoted mode}" 1
        else paths.foldl (fun s path =>
          match s.find path, s.files.place (s.pathOf path) with
          | .error e, _ | .ok _, .error e =>
            report s "chmod" s!"cannot access {quoted path}: {e.reason}" 1
          | .ok _, .ok place =>
            let s := changeMode o mode path place s
            if o.has 'R' then
              (s.files.entries.keys.filter fun p => place.isPrefixOf p && p ≠ place).foldl
                (fun s p =>
                  let name := path ++ "/" ++ Octets.ofText ("/".intercalate (p.drop place.length))
                  changeMode o mode name p s) s
            else s) s)
    (arguments.filter fun a => !isMode a) (s.done 0)

/-! ### Facts -/

/-- The letter of a kind of entry. -/
def kindLetter : Entry → Char
  | .directory => 'd'
  | .device _ => 'c'
  | .link _ => 'l'
  | .file _ | .program _ => '-'

/-- A kind of entry in words. -/
def kindText : Entry → String
  | .directory => "directory"
  | .device _ => "character special file"
  | .link _ => "symbolic link"
  | .file [] => "regular empty file"
  | .file _ | .program _ => "regular file"

/-- The size of an entry. -/
def sizeOfEntry : Entry → Nat
  | .file content => content.length
  | .directory => 4096
  | .device _ => 0
  | .program _ => System.programImage.length
  | .link target => target.utf8ByteSize

/-- How many blocks of 1024 bytes an entry takes. -/
def blocksOf : Entry → Nat
  | .directory => 4
  | .device _ | .link _ => 0
  | e => (sizeOfEntry e + 4095) / 4096 * 4

/-- The kind and the permissions of an entry in letters. -/
def modeText (t : FileTree) (place : List String) (e : Entry) : String :=
  String.singleton (kindLetter e) ++ Mode.text (t.modeAt place)

/-- How many names lead to an entry. -/
def linksOf (t : FileTree) (place : List String) : Entry → Nat
  | .directory => 2 + ((t.listing place).filter fun n =>
      t.entryAt? (place ++ [n]) = some .directory).length
  | _ => 1

/-! ### Listings -/

/-- A line about an entry, or its name alone. -/
def entryLine (o : Options) (t : FileTree) (place : List String) (name : String) : String :=
  match t.entryAt? place with
  | none => name
  | some e =>
    let target := match e with
      | .link path => if o.has 'l' then " -> " ++ Octets.ofText path else ""
      | _ => ""
    let mark := match e with
      | .directory => if o.has 'F' || o.has 'p' then "/" else ""
      | .link _ => if o.has 'F' && !o.has 'l' then "@" else ""
      | _ => if o.has 'F' && t.mayRun place then "*" else ""
    let name := if o.has 'Q' then "\"" ++ name ++ "\"" else name
    let line := if o.has 'l' || o.has 'n' || o.has 'g' || o.has 'o' then
        let owner := if o.has 'n' then "0 0" else "root root"
        s!"{modeText t place e} {linksOf t place e} {owner} {sizeOfEntry e} Jan  1 00:00 {name}"
      else name
    let line := line ++ mark ++ target
    let line := if o.has 's' then s!"{blocksOf e} {line}" else line
    if o.has 'i' then s!"{1000 + t.entries.keys.idxOf place} {line}" else line

/-- The names that a listing of a directory shows, in their order. -/
def shownNames (o : Options) (t : FileTree) (place : List String) : List String :=
  let names := t.listing place
  let shown := names.filter fun n => o.has 'a' || o.has 'A' || !(['.'].isPrefixOf n.toList)
  let shown := if o.has 'S' then shown.mergeSort fun a b =>
      ((t.entryAt? (place ++ [b])).map sizeOfEntry).getD 0 ≤
        ((t.entryAt? (place ++ [a])).map sizeOfEntry).getD 0
    else shown
  let shown := if o.has 'a' then "." :: ".." :: shown else shown
  if o.has 'r' then shown.reverse else shown

/-- The place of a name in a directory. -/
def placeOfName (place : List String) (name : String) : List String :=
  if name = "." then place else if name = ".." then place.dropLast else place ++ [name]

/-- Lines one below the other, or in one row. -/
def arranged (o : Options) (lines : List String) : String :=
  let row := "  ".intercalate lines
  if lines.isEmpty then ""
  else if o.has 'm' then ", ".intercalate lines ++ "\n"
  else if (o.has 'C' || o.has 'x') && row.length ≤ 80 then row ++ "\n"
  else lines.foldl (fun text l => text ++ l ++ "\n") ""

/-- The content of a directory as a text. -/
def directoryText (o : Options) (t : FileTree) (place : List String) : String :=
  let names := shownNames o t place
  let entries := names.filterMap fun n => t.entryAt? (placeOfName place n)
  let total := if o.has 'l' || o.has 's' then
      s!"total {entries.foldl (fun n e => n + blocksOf e) 0}\n"
    else ""
  total ++ arranged o (names.map fun n =>
    entryLine o t (placeOfName place n) (Octets.ofText n))

/-- The directories below one, each with its path, if all are to be listed. -/
def nestedDirectories (o : Options) (t : FileTree) (path : String) (place : List String) :
    List (String × List String) :=
  if o.has 'R' then
    (t.entries.toList.filter fun (p, e) =>
      e = .directory && place.isPrefixOf p && p ≠ place).map fun (p, _) =>
      (path ++ "/" ++ Octets.ofText ("/".intercalate (p.drop place.length)), p)
  else []

/-- Shows what stands in directories. -/
def ls : Tool :=
  withOptions "ls"
    { flags := "1aAdRFplhtrSUCmxnogisQLHv"
      long := [("all", 'a'), ("almost-all", 'A'), ("directory", 'd'), ("recursive", 'R'),
        ("reverse", 'r'), ("classify", 'F'), ("size", 's'), ("inode", 'i')] } 2 fun o s =>
    let o := if o.has 'f' then { o with given := ('a', "") :: o.given } else o
    let operands := if o.operands.isEmpty then ["."] else o.operands
    let operands := operands.mergeSort fun a b => !(b < a)
    let look := fun (s : State) (path : String) =>
      let own := s.findOwn path
      match own, s.find path, s.files.place (s.pathOf path) with
      | .ok (.link _, _), .ok .directory, .ok place =>
        if o.has 'l' || o.has 'd' || o.has 'F' then own else .ok (.directory, place)
      | own, _, _ => own
    let (files, directories, s) := operands.foldl (fun (files, directories, s) path =>
      match look s path with
      | .ok (.directory, place) =>
        if o.has 'd' then (files ++ [entryLine o s.files place path], directories, s)
        else (files, directories ++ [(path, place)], s)
      | .ok (_, place) => (files ++ [entryLine o s.files place path], directories, s)
      | .error e =>
        (files, directories, report s "ls" s!"cannot access {quoted path}: {e.reason}" 2))
      (([] : List String), ([] : List (String × List String)), s)
    let titled := 1 < operands.length || o.has 'R'
    let directories := directories.flatMap fun (path, place) =>
      (path, place) :: nestedDirectories o s.files path place
    let texts := directories.map fun (path, place) =>
      (if titled then s!"{path}:\n" else "") ++ directoryText o s.files place
    let parts := (if files.isEmpty then [] else [arranged o files]) ++ texts
    emit s "ls" ("\n".intercalate parts).toList

/-- A fact about an entry by the letter of a directive. -/
def factOf (s : State) (path : String) (place : List String) (e : Entry) : Char → String
  | 'n' => path
  | 'N' => quoted path
  | 's' => Decimal.text (sizeOfEntry e)
  | 'b' => Decimal.text (2 * blocksOf e)
  | 'B' => "512"
  | 'o' => "4096"
  | 'F' => kindText e
  | 'a' => String.ofList (inBase 8 1 (s.files.modeAt place))
  | 'A' => modeText s.files place e
  | 'h' => Decimal.text (linksOf s.files place e)
  | 'i' => Decimal.text (1000 + s.files.entries.keys.idxOf place)
  | 'U' | 'G' => "root"
  | 'u' | 'g' => "0"
  | _ => "?"

/-- A format with its directives replaced by facts. -/
def filled (fact : Char → String) : Nat → List Char → String
  | 0, _ | _, [] => ""
  | fuel + 1, '%' :: '%' :: rest => "%" ++ filled fact fuel rest
  | fuel + 1, '%' :: c :: rest => fact c ++ filled fact fuel rest
  | fuel + 1, c :: rest => String.singleton c ++ filled fact fuel rest

/-- Shows facts about files. -/
def stat : Tool :=
  withOptions "stat"
    { flags := "Lft", valued := "cp"
      long := [("format", 'c'), ("printf", 'p'), ("dereference", 'L')] } 1 fun o s =>
    if o.operands.isEmpty then refuse s "stat" "missing operand" 1
    else o.operands.foldl (fun s path =>
      let found := if o.has 'L' then do
          return (← s.find path, ← s.files.place (s.pathOf path))
        else s.findOwn path
      match found with
      | .error e => report s "stat" s!"cannot statx {quoted path}: {e.reason}" 1
      | .ok (entry, place) =>
        let fact := factOf s path place entry
        match o.value? 'p' with
        | some format =>
          let format := (Format.unescape (format.length + 1) format.toList).1
          emit s "stat" (filled fact (format.length + 1) format).toList
        | none =>
          let format := ((o.value? 'c').getD "%n").toList
          emitLine s "stat" (filled fact (format.length + 1) format)) s

end FaultDrill.Shell.Tools
