import FaultDrill.Campaign.Report
import FaultDrill.Check.Basic
import FaultDrill.Cli.Invocation
import FaultDrill.Config.Load
import FaultDrill.Json.Writer
import FaultDrill.Plan.Basic
import FaultDrill.Plan.Codec
import FaultDrill.Plan.Parser
import FaultDrill.Text.Column
import FaultDrill.Text.Pieces

/-!
# FaultDrill.Cli.Page

What a command prints: a text for people and a JSON value for programs, of which the invocation
chooses one. The pages on configurations show the one that is in force, or one section of it, and
say what is wrong with the file of a configuration. The pages on plans show a plan as it is written
by this program, and the validation of some plans, where a plan is valid if it can be read and if
its invariant can be turned into a check. The page of a campaign has a table with a line for each
trial, the number of trials of each kind, the records of violations, and after a selection the
checkpoints that were reached.
-/

namespace FaultDrill.Cli

open FaultDrill.Text

/-- What a command prints. -/
structure Page where
  text : String
  json : Json

/-- Lines, each with its end. -/
def printed (l : List String) : String :=
  String.join (l.map (· ++ "\n"))

/-- A page in one of its forms. -/
def Page.render (p : Page) : OutputFormat → String
  | .text => p.text
  | .json => p.json.spread ++ "\n"

/-! ### Configurations -/

/-- The page of what is wrong with a configuration, if anything is. -/
def configValidationPage (path : String) (faults : List String) : Page where
  text := match faults with
    | [] => s!"valid {path}\n"
    | faults => printed (s!"invalid {path}" :: faults.map fun fault => s!"  - {fault}")
  json := .obj [("source", .str path), ("valid", .bool faults.isEmpty), ("errors", .strings faults)]

/-- The page of a text that shows a configuration, or the section of a name. -/
def configPage (path : String) (part : Option String) (shown : String) : Page where
  text := (match part with
    | some name => s!"# {path} [{name}]\n"
    | none => s!"# {path}\n") ++ shown
  json := .obj (("source", .str path) :: (part.map fun name => ("section", Json.str name)).toList)

/-! ### Plans -/

/-- What is found out about the file of a plan. -/
structure PlanValidation where
  source : String
  planId : Option String := none
  events : Nat := 0
  strategy : Option Strategy := none
  /-- What is wrong. -/
  fault : Option String := none
  deriving DecidableEq, Repr

namespace PlanValidation

/-- Validates the file of a plan. -/
def ofFile (files : FileTree) (settings : CheckSettings) (path : String) : PlanValidation :=
  match Plan.load files path with
  | .error e => { source := path, fault := some e.message }
  | .ok plan =>
    let found : PlanValidation :=
      { source := path, planId := plan.id, events := plan.events.length }
    match Check.resolve settings plan.invariant with
    | .ok check => { found with strategy := some check.strategy }
    | .error e => { found with fault := some e.message }

/-- Whether nothing is wrong. -/
def isValid (v : PlanValidation) : Bool :=
  v.fault.isNone

/-- The lines of a validation. -/
def lines (v : PlanValidation) : List String :=
  match v.fault with
  | some fault => [s!"invalid {v.source}", s!"  {fault}"]
  | none =>
    let id := v.planId.getD "-"
    let strategy := (v.strategy.map Strategy.token).getD "-"
    [s!"valid {v.source} ({id}, {v.events} events, strategy {strategy})"]

/-- A validation as a JSON value. -/
def toJson (v : PlanValidation) : Json :=
  .obj [("source", .str v.source), ("valid", .bool v.isValid), ("plan_id", .ofOption .str v.planId),
    ("events", .nat v.events), ("strategy", .ofOption (.str ·.token) v.strategy),
    ("error", .ofOption .str v.fault)]

end PlanValidation

/-- The page of some validations. -/
def validationPage (l : List PlanValidation) : Page where
  text := printed (l.flatMap PlanValidation.lines)
  json := .obj [("plans", .arr (l.map PlanValidation.toJson))]

/-- The page of a plan. -/
def planPage (path : String) (plan : Plan) : Page where
  text := s!"# {path}\n" ++ plan.text
  json := .obj [("source", .str path), ("plan", plan.toJson)]

/-! ### Campaigns -/

namespace CampaignPage

/-- A row of the table. -/
def row (invariant plan outcome checkpoints detail : String) : String :=
  Column.cell 24 invariant ++ Column.cell 20 plan ++ Column.cell 14 outcome ++
    Column.cell 12 checkpoints ++ detail

/-- A name that fits its column. -/
def name (width : Nat) (s : String) : String :=
  String.ofList (Column.clipped width s.toList)

/-- What follows the kind in the text of an outcome. -/
def detail (o : Outcome) : String :=
  match cutText? [':', ' '] o.text.toList with
  | some (_, rest) => String.ofList rest
  | none => ""

/-- The lines of a trial: its row, and below it what has been left behind. -/
def trialLines (r : TrialResult) : List String :=
  [row (name 24 r.invariant) (name 20 r.planId) r.outcome.kind
    (Decimal.text r.diagnostics.checkpointsSeen.length) (detail r.outcome)] ++
  (r.cleanupWarning.map fun warning => s!"  cleanup: {warning}").toList ++
  match r.diagnostics.lingeringFaults with
  | [] => []
  | faults => ["  lingering faults: " ++ joined ", " faults]

/-- The line with the number of trials of each kind. -/
def summaryLine (s : Summary) : String :=
  s!"Summary: {s.pass} pass, {s.violation} violation, {s.inconclusive} inconclusive, " ++
    s!"{s.engineError} engine error"

/-- The paths of the records of violations. -/
def recordLines : List String → List String
  | [] => []
  | paths =>
    ["", "Violation records (replay with `faultline replay <file>`):"] ++
      paths.map fun path => s!"  {path}"

/-- The checkpoints that were reached. -/
def reachableLines (m : SortedMap String (List Checkpoint)) : List String :=
  ["", "Reachable checkpoints:"] ++
    m.toList.map fun (invariant, seen) => "  " ++ Column.cell 24 invariant ++ joined " " seen

/-- The text of a report. -/
def text (r : CampaignReport) (selection : Bool) : String :=
  printed (
    [s!"Stage: {r.stage.signal}  Trials: {r.summary.total}  ({r.durationMs.toNat} ms)", "",
      row "Invariant" "Plan" "Outcome" "Checkpoints" "Detail",
      String.ofList (List.replicate 90 '-')] ++
    r.results.flatMap trialLines ++ ["", summaryLine r.summary] ++
    recordLines r.violationRecords ++
    if selection then reachableLines r.reachable else [])

/-- A report as a JSON value. -/
def json (r : CampaignReport) (selection : Bool) : Json :=
  .obj (r.toFields ++ if selection then [("reachable", r.reachableToJson)] else [])

end CampaignPage

/-- The page of a report, with the reached checkpoints if the campaign was a selection. -/
def campaignPage (r : CampaignReport) (selection : Bool) : Page :=
  ⟨CampaignPage.text r selection, CampaignPage.json r selection⟩

end FaultDrill.Cli
