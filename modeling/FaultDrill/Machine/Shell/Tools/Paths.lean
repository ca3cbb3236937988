import FaultDrill.Machine.Shell.Mode
import FaultDrill.Machine.Shell.Tools.Basic

/-!
# FaultDrill.Machine.Shell.Tools.Paths

Tools that work on paths, and tools that make and remove what paths name.
-/

namespace FaultDrill.Shell.Tools

open FaultDrill.Text

/-! ### Texts of paths -/

/-- A path without slashes at its end. -/
def withoutSlashes (path : String) : String :=
  let s := (path.toList.reverse.dropWhile (· = '/')).reverse
  if s.isEmpty && path ≠ "" then "/" else String.ofList s

/-- The last step of a path. -/
def lastStep (path : String) : String :=
  let path := withoutSlashes path
  if path = "/" then path
  else (Path.pieces path).getLastD ""

/-- The path without its last step. -/
def withoutLastStep (path : String) : String :=
  let s := (withoutSlashes path).toList
  let start := (s.reverse.dropWhile (· ≠ '/')).reverse
  if start.isEmpty then "." else withoutSlashes (String.ofList start)

/-- A path without an ending, unless nothing else is left. -/
def withoutEnding (path ending : String) : String :=
  match beforeEnd? ending.toList path.toList with
  | some [] | none => path
  | some rest => String.ofList rest

/-- Shows the last steps of paths. -/
def basename : Tool :=
  withOptions "basename"
    { flags := "az", valued := "s", ordered := true
      long := [("multiple", 'a'), ("suffix", 's')] } 1 fun o s =>
    let show_ := fun (s : State) (path ending : String) =>
      emitLine s "basename" (withoutEnding (lastStep path) ending)
    match o.operands, o.has 'a' || o.has 's' with
    | [], _ => refuse s "basename" "missing operand" 1
    | paths, true => paths.foldl (fun s path => show_ s path ((o.value? 's').getD "")) s
    | [path], false => show_ s path ""
    | [path, ending], false => show_ s path ending
    | _ :: _ :: extra :: _, false => refuse s "basename" s!"extra operand {quoted extra}" 1

/-- Shows paths without their last steps. -/
def dirname : Tool :=
  withOptions "dirname" { flags := "z" } 1 fun o s =>
    if o.operands.isEmpty then refuse s "dirname" "missing operand" 1
    else o.operands.foldl (fun s path => emitLine s "dirname" (withoutLastStep path)) s

/-- The path of a place from the root, as octets. -/
def absolute (place : List String) : String :=
  Octets.ofText ("/" ++ "/".intercalate place)

/-- Shows where paths lead. -/
def realpath : Tool :=
  withOptions "realpath"
    { flags := "emsqzLP", long := [("canonicalize-existing", 'e'), ("canonicalize-missing", 'm')] }
    1 fun o s =>
    if o.operands.isEmpty then refuse s "realpath" "missing operand" 1
    else o.operands.foldl (fun s path =>
      let name := s.pathOf path
      match s.files.place name with
      | .ok place =>
        if o.has 'e' && (s.files.entryAt? place).isNone then
          report s "realpath" s!"{nameText path}: {FileError.notFound.reason}" 1
        else emitLine s "realpath" (absolute place)
      | .error e =>
        if o.has 'm' then emitLine s "realpath" (absolute (origin s path ++ Path.steps name))
        else report s "realpath" s!"{nameText path}: {e.reason}" 1) s
where
  /-- The place from which a path is taken. -/
  origin (s : State) (path : String) : List String :=
    if Path.isAbsolute path then [] else s.place

/-- Shows what links stand for, or where paths lead. -/
def readlink : Tool :=
  withOptions "readlink"
    { flags := "femnqsvz"
      long := [("canonicalize", 'f'), ("canonicalize-existing", 'e'), ("no-newline", 'n')] }
    1 fun o s =>
    let put := fun (s : State) (text : String) =>
      emit s "readlink" (text.toList ++ if o.has 'n' then [] else ['\n'])
    if o.operands.isEmpty then refuse s "readlink" "missing operand" 1
    else o.operands.foldl (fun s path =>
      if o.has 'f' || o.has 'e' || o.has 'm' then
        match s.files.place (s.pathOf path) with
        | .ok place =>
          if o.has 'e' && (s.files.entryAt? place).isNone then s.done 1
          else put s (absolute place)
        | .error _ => s.done 1
      else
        match s.findOwn path with
        | .ok (.link target, _) => put s target
        | _ => s.done 1) s

/-! ### Making and removing -/

/-- Makes one directory, or all that lead to it as well. -/
def makeDirectory (o : Options) (path : String) (s : State) : State :=
  let name := s.pathOf path
  let steps := (path.toList.splitOn '/').length
  let paths := if o.has 'p' then (List.range steps).filterMap fun n =>
      let pieces := (path.toList.splitOn '/').take (n + 1)
      let prefix_ := String.ofList (['/'].intercalate pieces)
      if prefix_ = "" || pieces.getLast? = some [] then none else some prefix_
    else [path]
  let made := paths.filter fun p => !s.files.exists? (s.pathOf p)
  match if o.has 'p' then s.files.makeDirectory name else s.files.addDirectory name with
  | .error e =>
    let failing := (paths.find? fun p => match s.find p with
      | .ok .directory => false
      | .ok _ => true
      | .error _ => false).getD path
    report s "mkdir" s!"cannot create directory {quoted failing}: {e.reason}" 1
  | .ok t =>
    let t := made.foldl (fun t p => match t.place (s.pathOf p) with
      | .ok place => s.restricted t place
      | .error _ => t) t
    let t := match (o.value? 'm').bind fun m => Mode.change? m true s.mask 511, t.place name with
      | some mode, .ok place => t.setMode place mode
      | _, _ => t
    let s := s.withFiles t
    if o.has 'v' then
      made.foldl (fun s p => emitLine s "mkdir" s!"mkdir: created directory {quoted p}") s
    else s

/-- Makes directories. -/
def mkdir : Tool :=
  withOptions "mkdir"
    { flags := "pv", valued := "m"
      long := [("parents", 'p'), ("mode", 'm'), ("verbose", 'v')] } 1 fun o s =>
    if o.operands.isEmpty then refuse s "mkdir" "missing operand" 1
    else
      match (o.value? 'm').map fun m => (m, Mode.change? m true s.mask 511) with
      | some (m, none) => report s "mkdir" s!"invalid mode {quoted m}" 1
      | _ => o.operands.foldl (fun s path => makeDirectory o path s) s

/-- The tree without an empty directory. -/
def removeDirectory (path : String) (t : FileTree) : Except FileError FileTree := do
  let place ← t.ownPlace path
  match ← t.findOwn path with
  | .directory => if (t.listing place).isEmpty then t.removeAll path else throw .notEmpty
  | _ => throw .notDirectory

/-- Removes empty directories, and those that lead to them if that is wanted. -/
def rmdir : Tool :=
  withOptions "rmdir"
    { flags := "pv", long := [("parents", 'p'), ("verbose", 'v')] } 1 fun o s =>
    if o.operands.isEmpty then refuse s "rmdir" "missing operand" 1
    else o.operands.foldl (fun s path =>
      removeUp o (if o.has 'p' then (Path.steps path).length else 1) path s) s
where
  /-- Removes a directory and so many in all that lead to it. -/
  removeUp (o : Options) : Nat → String → State → State
    | 0, _, s => s
    | n + 1, path, s =>
      let s := if o.has 'v' then emitLine s "rmdir" s!"rmdir: removing directory, {quoted path}"
        else s
      match removeDirectory (s.pathOf path) s.files with
      | .ok t => removeUp o n (withoutLastStep path) (s.withFiles t)
      | .error e => report s "rmdir" s!"failed to remove {quoted path}: {e.reason}" 1

/-- The names of what is below a place, from the bottom up, after a path. -/
def pathsUp (t : FileTree) (path : String) (place : List String) : List (String × Bool) :=
  let below := t.entries.toList.filter fun (p, _) => place.isPrefixOf p && p ≠ place
  let below := below.map fun (p, e) =>
    (path ++ "/" ++ Octets.ofText ("/".intercalate (p.drop place.length)), decide (e = .directory))
  below.reverse

/-- Removes what one path names. -/
def removePath (o : Options) (path : String) (s : State) : State :=
  let recursive := o.has 'r' || o.has 'R'
  let name := s.pathOf path
  let failed := fun (e : FileError) =>
    if o.has 'f' && (e = .notFound || e = .notDirectory) then s
    else report s "rm" s!"cannot remove {quoted path}: {e.reason}" 1
  if recursive && [".", ".."].contains (lastStep path) then
    report s "rm" (s!"refusing to remove '.' or '..' directory: skipping {quoted path}") 1
  else
    match s.findOwn path with
    | .error e => failed e
    | .ok (.directory, []) =>
      if recursive then
        let s := report s "rm" "it is dangerous to operate recursively on '/'" 1
        report s "rm" "use --no-preserve-root to override this failsafe" 1
      else failed .isDirectory
    | .ok (.directory, place) =>
      let removed := if recursive then s.files.removeAll name
        else if o.has 'd' then removeDirectory name s.files
        else .error .isDirectory
      match removed with
      | .error e => failed e
      | .ok t =>
        let line := fun (p : String) (isDirectory : Bool) =>
          if isDirectory then s!"removed directory {quoted p}" else s!"removed {quoted p}"
        let lines := (pathsUp s.files path place).map (fun (p, d) => line p d) ++ [line path true]
        let s := s.withFiles t
        if o.has 'v' then lines.foldl (fun s l => emitLine s "rm" l) s else s
    | .ok _ =>
      match s.files.remove name with
      | .error e => failed e
      | .ok t =>
        let s := s.withFiles t
        if o.has 'v' then emitLine s "rm" s!"removed {quoted path}" else s

/-- Removes files. -/
def rm : Tool :=
  withOptions "rm"
    { flags := "frRiIvd"
      long := [("force", 'f'), ("recursive", 'r'), ("dir", 'd'), ("verbose", 'v')] } 1 fun o s =>
    if o.operands.isEmpty then
      if o.has 'f' then s else refuse s "rm" "missing operand" 1
    else o.operands.foldl (fun s path => removePath o path s) s

/-- Makes a file that is not there. -/
def touchPath (o : Options) (path : String) (s : State) : State :=
  let name := s.pathOf path
  let failed := fun (e : FileError) =>
    let work := if Path.namesDirectory path then "setting times of" else "cannot touch"
    report s "touch" s!"{work} {quoted path}: {e.reason}" 1
  match s.files.find name with
  | .ok _ => s
  | .error .notFound =>
    if o.has 'c' then s
    else if Path.namesDirectory path then failed .notFound
    else
      match s.files.append name [], s.files.place name with
      | .ok t, .ok place => s.withFiles (s.restricted t place)
      | .error e, _ | _, .error e => failed e
  | .error e => failed e

/-- Makes files that are not there. -/
def touch : Tool :=
  withOptions "touch"
    { flags := "acmfh", valued := "dtr"
      long := [("no-create", 'c'), ("date", 'd'), ("reference", 'r')] } 1 fun o s =>
    if o.operands.isEmpty then refuse s "touch" "missing file operand" 1
    else o.operands.foldl (fun s path => touchPath o path s) s

/-- Removes one file. -/
def unlink : Tool :=
  withOptions "unlink" {} 1 fun o s =>
    match o.operands with
    | [] => refuse s "unlink" "missing operand" 1
    | [path] =>
      match s.files.remove (s.pathOf path) with
      | .ok t => s.withFiles t
      | .error e => report s "unlink" s!"cannot unlink {quoted path}: {e.reason}" 1
    | _ :: extra :: _ => refuse s "unlink" s!"extra operand {quoted extra}" 1

/-- Gives files a size. -/
def truncate : Tool :=
  withOptions "truncate"
    { flags := "c", valued := "s", long := [("size", 's'), ("no-create", 'c')] } 1 fun o s =>
    match o.value? 's' with
    | none => refuse s "truncate" "you must specify either '--size' or '--reference'" 1
    | some size =>
      let (sign, digits) := match size.toList with
        | '+' :: rest => (some '+', rest)
        | '-' :: rest => (some '-', rest)
        | rest => (none, rest)
      match count? (String.ofList digits) with
      | none => report s "truncate" s!"Invalid number: {quoted size}" 1
      | some n =>
        if o.operands.isEmpty then refuse s "truncate" "missing file operand" 1
        else o.operands.foldl (fun s path =>
          let name := s.pathOf path
          let resized : Except FileError FileTree := do
            let old ← match s.files.read name with
              | .ok old => pure old
              | .error .notFound => if o.has 'c' then return s.files else pure []
              | .error e => throw e
            let length := match sign with
              | some '+' => old.length + n
              | some _ => old.length - n
              | none => n
            let t ← s.files.write name (old.take length ++ List.replicate (length - old.length) 0)
            return s.restricted t (← t.place name)
          match resized with
          | .ok t => s.withFiles t
          | .error e =>
            report s "truncate" s!"cannot open {quoted path} for writing: {e.reason}" 1) s

/-- Makes a file or a directory with a name of its own, and shows the name. -/
def mktemp : Tool :=
  withOptions "mktemp"
    { flags := "dqtu", valued := "p"
      long := [("directory", 'd'), ("dry-run", 'u'), ("quiet", 'q'), ("tmpdir", 'p')] } 1 fun o s =>
    let template := o.operands.headD "tmp.XXXXXXXXXX"
    let marks := (template.toList.reverse.takeWhile (· = 'X')).length
    if marks < 3 then
      report s "mktemp" s!"too few X's in template {quoted template}" 1
    else
      let directory := (o.value? 'p').getD "/tmp"
      let inside := o.operands.isEmpty || o.has 'p' || o.has 't'
      let start := String.ofList (template.toList.take (template.length - marks))
      let candidate := fun (n : Nat) =>
        let digits := Decimal.write n
        let name := start ++ String.ofList
          (List.replicate (marks - digits.length) 'a' ++ digits.drop (digits.length - marks))
        if inside then directory ++ "/" ++ name else name
      let free := (List.range 1000).find? fun n => !s.files.exists? (s.pathOf (candidate n))
      let path := candidate (free.getD 0)
      let name := s.pathOf path
      let made := if o.has 'u' then .ok s.files
        else if o.has 'd' then s.files.addDirectory name
        else s.files.write name []
      match made with
      | .ok t =>
        let t := match o.has 'u', t.place name with
          | false, .ok place => t.setMode place (if o.has 'd' then 448 else 384)
          | _, _ => t
        emitLine (s.withFiles t) "mktemp" path
      | .error e =>
        let kind := if o.has 'd' then "directory" else "file"
        report s "mktemp" s!"failed to create {kind} via template {quoted template}: {e.reason}" 1

end FaultDrill.Shell.Tools
