import FaultDrill.Config.Basic
import FaultDrill.Files.Path
import FaultDrill.Files.Error
import FaultDrill.Injection.Error
import FaultDrill.Target.Endpoint
import FaultDrill.Text.Blank
import FaultDrill.Text.Utf8

/-!
# FaultDrill.Target.Registry

What is known about targets. The process of a target is the one registered while a trial runs, else
the fixed one of the configuration, else the one in its file. A later registration of a name takes
the place of an earlier one, and of two targets of one name in the configuration the later counts.
-/

namespace FaultDrill

open FaultDrill.Text

/-- A target of the configuration. -/
structure TargetSpec where
  name : String
  pid : Option UInt32 := none
  pidFile : Option String := none
  address : Option String := none
  dataDir : Option String := none
  deriving DecidableEq, Repr

/-- The target of a configuration; an empty text is none. -/
def TargetSpec.ofConfig (t : Config.Target) : TargetSpec where
  name := t.name
  pid := t.pid
  pidFile := t.pidFile.filter (· ≠ "")
  address := t.address.filter (· ≠ "")
  dataDir := t.dataDir.filter (· ≠ "")

/-- The known targets. -/
structure Registry where
  /-- The targets of the configuration. -/
  specs : SortedMap String TargetSpec := .empty
  /-- The processes registered while a trial runs. -/
  runtime : SortedMap String UInt32 := .empty

/-- Where the process of a target is found. -/
inductive PidSource where
  | known (pid : UInt32)
  | file (path : String)
  deriving DecidableEq, Repr

namespace Registry

/-- The registry of the targets of a configuration. -/
def ofSpecs (specs : List TargetSpec) : Registry where
  specs := .ofList (specs.map fun t => (t.name, t))

/-- Registers the process of a target. -/
def register (r : Registry) (name : String) (pid : UInt32) : Registry :=
  { r with runtime := r.runtime.insert name pid }

/-- Forgets the registered processes. -/
def clearRuntime (r : Registry) : Registry :=
  { r with runtime := .empty }

/-- Whether a target is known. -/
def contains (r : Registry) (name : String) : Bool :=
  r.specs.contains name || r.runtime.contains name

/-- Where the process of a target is found. -/
def pidSource (r : Registry) (name : String) : Except MissingTarget PidSource :=
  match r.runtime.get? name with
  | some pid => .ok (.known pid)
  | none =>
    match r.specs.get? name with
    | none => .error (.unknown name)
    | some t =>
      match t.pid, t.pidFile with
      | some pid, _ => .ok (.known pid)
      | none, some path => .ok (.file path)
      | none, none => .error (.unlocated name)

/-- The process that the content of a file names. -/
def pidOfFile (name path : String) (content : Except FileError Bytes) :
    Except MissingTarget UInt32 :=
  match content with
  | .error e => .error (.pidFileUnread name path e)
  | .ok bytes =>
    match Utf8.decode? bytes with
    | none => .error (.pidFileUnread name path .invalidText)
    | some text =>
      match Decimal.read32? (trim text.toList) with
      | some pid => .ok pid
      | none => .error (.pidFileWithoutPid name path)

/-- The network address of a target. -/
def endpoint (r : Registry) (name : String) : Except InjectionError Endpoint :=
  match r.specs.get? name with
  | none => .error (.targetNotFound (.unknown name))
  | some t =>
    match t.address with
    | none =>
      .error (.config s!"targets.{name}.address"
        "partition needs an address for every involved target")
    | some address =>
      match Endpoint.ofAddress? name address with
      | some e => .ok e
      | none => .error (.config s!"targets.{name}.address" s!"'{address}' is not host:port")

/-- The path of a file of a target, which is relative to the data directory of the target. -/
def resolvePath (r : Registry) (name path : String) : String :=
  match (r.specs.get? name).bind (·.dataDir) with
  | some dir => Path.join dir path
  | none => path

end Registry

end FaultDrill
