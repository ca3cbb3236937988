import FaultDrill.Files.Tree
import FaultDrill.Json.Writer
import FaultDrill.Plan.Basic
import FaultDrill.Trial.Result

/-!
# FaultDrill.Campaign.Recorder

Records of trials: a log with one line of JSON per result, and for each violation a file that can be
run again. Such a file is the text of the plan, a blank line, which ends the events, and then what
was observed. A record that cannot be written changes nothing else.
-/

namespace FaultDrill

open FaultDrill.Text

/-- Where records are written. -/
structure Recorder where
  resultLog : Option String := none
  violationsDir : Option String := none

namespace Recorder

/-! ### Violations -/

/-- Whether a character stands for itself in the name of a record. -/
def isPlain (c : Char) : Bool :=
  c.isAlphanum || c = '-' || c = '_'

/-- A text as a part of the name of a record. -/
def slug (s : String) : String :=
  match (s.toList.map fun c => if isPlain c then c else '_').take 64 with
  | [] => "unnamed"
  | chars => String.ofList chars

/-- The name of the record of a violation. -/
def violationName (plan : Plan) (id : TrialId) : String :=
  s!"{slug plan.id}-{slug plan.invariant.name}-{id.text}.plan"

/-- What is told about a violation after the plan. -/
def notes (r : TrialResult) : String :=
  s!"# {r.outcome.text}\n" ++ String.join (r.diagnostics.outputTail.map (· ++ "\n"))

/-- The text of the record of a violation. -/
def violationText (plan : Plan) (r : TrialResult) : String :=
  plan.text ++ "\n" ++ notes r

/-- The plan with the invariant that was checked. -/
def checkedPlan (plan : Plan) : Option Reference → Plan
  | some reference => plan.withInvariant reference
  | none => plan

/-- Writes the record of a violation. Gives its path. -/
def recordViolation (dir : String) (plan : Plan) (r : TrialResult) (files : FileTree) :
    Option String × FileTree :=
  match files.makeDirectory dir with
  | .error _ => (none, files)
  | .ok files =>
    let path := Path.join dir (violationName plan r.id)
    match files.write path (Utf8.encode (violationText plan r)) with
    | .ok files => (some path, files)
    | .error _ => (none, files)

/-! ### Results -/

/-- The line of a result in the log. -/
def logLine (r : TrialResult) : String :=
  r.toJson.compact ++ "\n"

/-- Writes the line of a result at the end of the log. -/
def log (rec : Recorder) (r : TrialResult) (files : FileTree) : FileTree :=
  match rec.resultLog with
  | none => files
  | some path =>
    match files.append path (Utf8.encode (logLine r)) with
    | .ok files => files
    | .error _ => files

/-- Records a result, which is one of a plan if there is a plan, with the invariant that was checked
in the place of its own. Gives the path of the record of a violation. -/
def record (rec : Recorder) (r : TrialResult) (plan : Option Plan) (reference : Option Reference)
    (files : FileTree) : Option String × FileTree :=
  let files := rec.log r files
  match r.outcome.isViolation, rec.violationsDir, plan with
  | true, some dir, some plan => recordViolation dir (checkedPlan plan reference) r files
  | _, _, _ => (none, files)

end Recorder

end FaultDrill
