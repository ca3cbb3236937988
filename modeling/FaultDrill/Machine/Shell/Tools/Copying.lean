import FaultDrill.Machine.Shell.Tools.Paths

/-!
# FaultDrill.Machine.Shell.Tools.Copying

Tools that copy, move and link files. They take one target after their sources, which may be a
directory. A link as a source stands for what it leads to, unless it is to be kept as it is.
-/

namespace FaultDrill.Shell.Tools

open FaultDrill.Text

/-- The sources, and the path at which each is to be, of arguments with one target. -/
def targets (tool : String) (directory? : Option String) (operands : List String) (s : State) :
    Except String (List (String × String)) :=
  let below := fun (dir : String) (source : String) =>
    (source, if dir.toList.getLast? = some '/' then dir ++ lastStep source
      else dir ++ "/" ++ lastStep source)
  match directory?, operands with
  | _, [] => .error "missing file operand"
  | some dir, sources => .ok (sources.map (below dir))
  | none, [source] =>
    if tool = "ln" then .ok [below "." source]
    else .error s!"missing destination file operand after {quoted source}"
  | none, operands =>
    let target := operands.getLastD ""
    let sources := operands.dropLast
    match s.find target, sources with
    | .ok .directory, _ => .ok (sources.map (below target))
    | _, [source] => .ok [(source, target)]
    | .ok _, _ => .error s!"target {quoted target}: Not a directory"
    | .error e, _ => .error s!"target {quoted target}: {e.reason}"

/-- Runs a change for each source and its path. -/
def eachTarget (tool : String) (o : Options) (change : String → String → State → State)
    (s : State) : State :=
  match targets tool (o.value? 't') o.operands s with
  | .error message =>
    if ['m'].isPrefixOf message.toList then refuse s tool message 1 else report s tool message 1
  | .ok pairs => pairs.foldl (fun s (source, target) => change source target s) s

/-- Tells how a path was copied or moved. -/
def showChange (o : Options) (tool word source target : String) (s : State) : State :=
  if o.has 'v' then emitLine s tool s!"{word}{quoted source} -> {quoted target}" else s

/-- Copies one file, or a directory with all below it. -/
def copyOne (o : Options) (source target : String) (s : State) : State :=
  let recursive := o.has 'r' || o.has 'R' || o.has 'a'
  let keepsLinks := o.has 'P' || o.has 'a' || o.has 'd' || recursive && !o.has 'L'
  let sourceName := s.pathOf source
  let targetName := s.pathOf target
  let entry := if keepsLinks then s.files.findOwn sourceName else s.files.find sourceName
  let sourcePlace := if keepsLinks then s.files.ownPlace sourceName else s.files.place sourceName
  let told := showChange o "cp" "" source target
  match entry, sourcePlace, s.files.place targetName with
  | .error e, _, _ | .ok _, .error e, _ =>
    report s "cp" s!"cannot stat {quoted source}: {e.reason}" 1
  | .ok .directory, .ok a, b =>
    if !recursive then report s "cp" s!"-r not specified; omitting directory {quoted source}" 1
    else
      match b with
      | .error e => report s "cp" s!"cannot create directory {quoted target}: {e.reason}" 1
      | .ok b =>
        if a.isPrefixOf b then
          report s "cp"
            s!"cannot copy a directory, {quoted source}, into itself, {quoted target}" 1
        else
          match s.files.entryAt? b with
          | some .directory | none =>
            let below := (pathsUp s.files source a).reverse
            let t := told (s.withFiles (s.files.copyAll a b))
            below.foldl (fun t (path, _) =>
              showChange o "cp" "" path
                (target ++ String.ofList (path.toList.drop source.length)) t) t
          | some _ =>
            report s "cp"
              s!"cannot overwrite non-directory {quoted target} with directory {quoted source}" 1
  | .ok (.link path), .ok _, _ =>
    match (s.files.remove targetName).toOption.getD s.files |>.addLink path targetName with
    | .ok t => told (s.withFiles t)
    | .error e =>
      report s "cp" s!"cannot create symbolic link {quoted target}: {e.reason}" 1
  | .ok _, .ok a, .ok b =>
    if a = b then
      report s "cp" s!"{quoted source} and {quoted target} are the same file" 1
    else
      match s.files.read sourceName with
      | .error e => report s "cp" s!"error reading {quoted source}: {e.reason}" 1
      | .ok content =>
        let isNew := (s.files.entryAt? b).isNone
        match s.files.write targetName content with
        | .error .isDirectory =>
          let message := if isNew then
              s!"cannot create regular file {quoted target}: Not a directory"
            else s!"cannot overwrite directory {quoted target} with non-directory"
          report s "cp" message 1
        | .error e => report s "cp" s!"cannot create regular file {quoted target}: {e.reason}" 1
        | .ok t =>
          let mode := s.files.modeAt a
          let kept := o.has 'p' || o.has 'a'
          let mode := if kept then mode else mode &&& (511 ^^^ s.mask)
          told (s.withFiles
            (if (isNew || kept) && mode ≠ t.modeAt b then t.setMode b mode else t))
  | .ok _, .ok _, .error e =>
    report s "cp" s!"cannot create regular file {quoted target}: {e.reason}" 1

/-- Copies files. -/
def cp : Tool :=
  withOptions "cp"
    { flags := "rRapfvundTLPHi", valued := "t"
      long := [("recursive", 'r'), ("archive", 'a'), ("force", 'f'), ("verbose", 'v'),
        ("no-clobber", 'n'), ("target-directory", 't'), ("no-dereference", 'P')] } 1 fun o s =>
    eachTarget "cp" o (fun source target s =>
      if o.has 'n' && s.files.exists? (s.pathOf target) then s else copyOne o source target s) s

/-- Moves one file, or a directory with all below it. -/
def moveOne (o : Options) (source target : String) (s : State) : State :=
  let targetName := s.pathOf target
  let refused := fun (reason : String) =>
    report s "mv" s!"cannot move {quoted source} to {quoted target}: {reason}" 1
  match s.findOwn source with
  | .error e => report s "mv" s!"cannot stat {quoted source}: {e.reason}" 1
  | .ok (entry, a) =>
    match s.files.ownPlace targetName with
    | .error e => refused e.reason
    | .ok b =>
      let isDirectory := entry matches .directory
      if a = b then report s "mv" s!"{quoted source} and {quoted target} are the same file" 1
      else if isDirectory && a.isPrefixOf b then
        report s "mv"
          s!"cannot move {quoted source} to a subdirectory of itself, {quoted target}" 1
      else
        let moved := fun (t : FileTree) =>
          showChange o "mv" "renamed " source target (s.withFiles ((t.copyAll a b).dropAll a))
        match s.files.entryAt? b, isDirectory with
        | none, false =>
          if Path.namesDirectory target then refused "Not a directory" else moved s.files
        | none, true => moved s.files
        | some .directory, true =>
          if (s.files.listing b).isEmpty then moved s.files else refused "Directory not empty"
        | some .directory, false =>
          report s "mv" s!"cannot overwrite directory {quoted target} with non-directory" 1
        | some _, true =>
          report s "mv"
            s!"cannot overwrite non-directory {quoted target} with directory {quoted source}" 1
        | some _, false => moved (s.files.dropAll b)

/-- Moves files. -/
def mv : Tool :=
  withOptions "mv"
    { flags := "fivnuT", valued := "t"
      long := [("force", 'f'), ("no-clobber", 'n'), ("target-directory", 't'),
        ("verbose", 'v')] } 1 fun o s =>
    eachTarget "mv" o (fun source target s =>
      if o.has 'n' && s.files.exists? (s.pathOf target) then
        report s "mv" s!"not replacing {quoted target}" 1
      else moveOne o source target s) s

/-- Makes one link. A link that is no path of its own has the content of its source. -/
def linkOne (o : Options) (source target : String) (s : State) : State :=
  let kind := if o.has 's' then "symbolic" else "hard"
  let targetName := s.pathOf target
  let failed := fun (e : FileError) =>
    let shown := if o.has 's' then quoted target else s!"{quoted target} => {quoted source}"
    report s "ln" s!"failed to create {kind} link {shown}: {e.reason}" 1
  let t := if o.has 'f' then (s.files.remove targetName).toOption.getD s.files else s.files
  let told := fun (t : FileTree) =>
    let arrow := if o.has 's' then "->" else "=>"
    let s := s.withFiles t
    if o.has 'v' then emitLine s "ln" s!"{quoted target} {arrow} {quoted source}" else s
  if o.has 's' then
    match t.addLink (Octets.toText source) targetName with
    | .ok t => told t
    | .error e => failed e
  else
    match s.findOwn source, t.ownPlace targetName with
    | .error e, _ => report s "ln" s!"failed to access {quoted source}: {e.reason}" 1
    | .ok (.directory, _), _ =>
      report s "ln" s!"{source}: hard link not allowed for directory" 1
    | .ok _, .error e => failed e
    | .ok (_, a), .ok b =>
      if (t.entryAt? b).isSome then
        report s "ln" s!"failed to create hard link {quoted target}: File exists" 1
      else told (t.copyAll a b)

/-- Gives files other names, under which they can be reached as well. -/
def ln : Tool :=
  withOptions "ln"
    { flags := "sfvnrTiLP", valued := "t"
      long := [("symbolic", 's'), ("force", 'f'), ("verbose", 'v'), ("no-dereference", 'n')] }
    1 fun o s => eachTarget "ln" o (linkOne o) s

end FaultDrill.Shell.Tools
