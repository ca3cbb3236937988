import FaultDrill.Files.Error
import FaultDrill.Plan.Reference
import FaultDrill.Text.Utf8

/-!
# FaultDrill.Campaign.State

The state of a campaign between and during its trials, and the signal files in which it is told to
other tools. One trial runs at a time. The files are written in a fixed order, and the first one
that cannot be written ends the attempt.

In the selection stage nothing is injected, and only the checkpoints that can be reached are
recorded; in the injection stage plans are carried out.
-/

namespace FaultDrill

/-! ### Stages -/

/-- A stage of a campaign. -/
inductive Stage where
  | selection
  | injection
  deriving DecidableEq, Repr, Inhabited

namespace Stage

/-- The word for a stage in signal files and in the environment of the driver. -/
def signal : Stage → String
  | .selection => "SELECTION"
  | .injection => "INJECTION"

/-- The name of a stage in records. -/
def name : Stage → String
  | .selection => "selection"
  | .injection => "injection"

/-- The stage of a name in records. -/
def ofName? : String → Option Stage
  | "selection" => some .selection
  | "injection" => some .injection
  | _ => none

end Stage

/-! ### The state -/

/-- The state of a campaign. -/
structure CampaignState where
  stage : Stage
  /-- The invariant that is being checked. -/
  current : Option Reference := none
  /-- The number of trials that have been started. -/
  started : Nat := 0
  deriving Repr

/-- Writes files one after the other, up to the first one that cannot be written. -/
def storeAll {σ : Type} (store : String → Bytes → σ → Except FileError Unit × σ) :
    List (String × String) → σ → Except FileError Unit × σ
  | [], s => (.ok (), s)
  | (path, text) :: rest, s =>
    match store path (Text.Utf8.encode text) s with
    | (.ok (), s) => storeAll store rest s
    | (.error e, s) => (.error e, s)

namespace CampaignState

/-- A trial begins. -/
def beginTrial (c : CampaignState) (r : Reference) : CampaignState :=
  { c with current := some r, started := c.started + 1 }

/-- A trial ends. -/
def endTrial (c : CampaignState) : CampaignState :=
  { c with current := none }

/-- The signal files with their texts, in the order in which they are written. -/
def signals (c : CampaignState) (stageFile invariantFile : Option String) :
    List (String × String) :=
  (stageFile.map fun path => (path, c.stage.signal)).toList ++
    match invariantFile, c.current with
    | some path, some r => [(path, r.text)]
    | _, _ => []

end CampaignState

end FaultDrill
