import FaultDrill.Cli.Task
import FaultDrill.Rehearsal.Bench

/-!
# FaultDrill.Main

The command line as a program. It reads the files that an invocation names, does what is asked for
on them, rehearsing the trials, and writes what has changed.
-/

namespace FaultDrill.Cli

/-- The files of the working directory at some paths, as far as they can be read. -/
def readFiles (paths : List String) : IO FileTree :=
  paths.foldlM (fun (files : FileTree) (path : String) => do
    try
      let bytes ← IO.FS.readBinFile path
      return (files.plant path bytes.toList).toOption.getD files
    catch _ => return files) {}

/-- The environment variables that take the place of settings, and the one for the log. -/
def readEnvironment : IO Environment :=
  (logVariable :: Config.overrides.map (·.name)).foldlM (fun env name => do
    match ← IO.getEnv name with
    | some value => return env.insert name value
    | none => return env) .empty

/-- Writes an entry of the working directory. -/
def writeEntry (path : String) : Entry → IO Unit
  | .file content => IO.FS.writeBinFile path ⟨content.toArray⟩
  | .directory => IO.FS.createDirAll path
  | _ => return

/-- Prints the output of a command and the failure, and gives the exit code. -/
def report (r : CommandResult) : IO UInt32 := do
  IO.print r.output
  if let some failure := r.failure then
    IO.eprintln failure.report
  return UInt32.ofNat r.exitCode

/-- Does what an invocation asks for. -/
def runInvocation (i : Invocation) : IO UInt32 := do
  let files ← readFiles i.paths
  match i.task files (← readEnvironment) with
  | .error failure => report ⟨"", some failure⟩
  | .ok task =>
    let scene : Rehearsal.Scene := { machine := { files := files } }
    let scene := match task.settings? with
      | some settings => scene.withProcesses settings.injector
      | none => scene
    match task.carryOut Rehearsal.Scene.bench i.output scene with
    | none => return 101
    | some (result, scene) =>
      for (path, entry) in scene.machine.files.changesFrom files do
        writeEntry path entry
      report result

end FaultDrill.Cli

/-- The program: reads the words of the command line and does what they ask for. -/
def main (words : List String) : IO UInt32 := do
  match FaultDrill.Cli.Invocation.parse words with
  | .error fault =>
    IO.print fault.output
    return UInt32.ofNat fault.exitCode
  | .ok invocation => FaultDrill.Cli.runInvocation invocation
