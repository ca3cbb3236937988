import FaultDrill.Campaign.State
import FaultDrill.Trial.Result

/-!
# FaultDrill.Campaign.Report

The report of a campaign: the results in the order in which they came, how many there are of each
kind, and which checkpoints each invariant has reached.
-/

namespace FaultDrill

/-- How many results there are of each kind. -/
structure Summary where
  pass : Nat := 0
  violation : Nat := 0
  inconclusive : Nat := 0
  engineError : Nat := 0
  deriving DecidableEq, Repr

namespace Summary

/-- The summary with one more result. -/
def add (s : Summary) : Outcome → Summary
  | .pass => { s with pass := s.pass + 1 }
  | .violation _ => { s with violation := s.violation + 1 }
  | .inconclusive _ => { s with inconclusive := s.inconclusive + 1 }
  | .engineError _ => { s with engineError := s.engineError + 1 }

/-- The number of all results. -/
def total (s : Summary) : Nat :=
  s.pass + s.violation + s.inconclusive + s.engineError

/-- A summary as a JSON value. -/
def toJson (s : Summary) : Json :=
  .obj [("pass", .nat s.pass), ("violation", .nat s.violation),
    ("inconclusive", .nat s.inconclusive), ("engine_error", .nat s.engineError)]

end Summary

/-- The report of a campaign. -/
structure CampaignReport where
  stage : Stage
  results : List TrialResult := []
  summary : Summary := {}
  /-- The paths of the records of violations. -/
  violationRecords : List String := []
  startedAtMs : UInt64
  durationMs : UInt64 := 0
  /-- Whether trials were left out because a stop was asked for. -/
  interrupted : Bool := false

namespace CampaignReport

/-- Whether there are trials and the harness failed in all of them. -/
def engineFailed (r : CampaignReport) : Bool :=
  !r.results.isEmpty && r.summary.engineError == r.summary.total

/-- Whether some invariant was violated. -/
def hasViolations (r : CampaignReport) : Bool :=
  0 < r.summary.violation

/-! ### Reached checkpoints -/

/-- Adds the checkpoints that are not there yet, in their order. -/
def addNew (seen : List Checkpoint) (more : List Checkpoint) : List Checkpoint :=
  more.foldl (fun seen c => if seen.contains c then seen else seen ++ [c]) seen

/-- The checkpoints of one more result. -/
def reach (m : SortedMap String (List Checkpoint)) (r : TrialResult) :
    SortedMap String (List Checkpoint) :=
  m.insert r.invariant (addNew ((m.get? r.invariant).getD []) r.diagnostics.checkpointsSeen)

/-- For each invariant, the checkpoints that were reached, in the order in which they first were. -/
def reachable (r : CampaignReport) : SortedMap String (List Checkpoint) :=
  r.results.foldl reach .empty

/-! ### As a JSON value -/

/-- The fields of a report. -/
def toFields (r : CampaignReport) : List (String × Json) :=
  [("stage", .str r.stage.name), ("results", .arr (r.results.map TrialResult.toJson)),
    ("summary", r.summary.toJson), ("violation_records", .strings r.violationRecords),
    ("started_at_ms", .nat r.startedAtMs.toNat), ("duration_ms", .nat r.durationMs.toNat),
    ("interrupted", .bool r.interrupted)]

/-- The reached checkpoints as a JSON value. -/
def reachableToJson (r : CampaignReport) : Json :=
  Json.ofMap .strings r.reachable

end CampaignReport

end FaultDrill
