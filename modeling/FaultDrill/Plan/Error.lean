import FaultDrill.Duration.Text
import FaultDrill.Files.Error
import FaultDrill.Plan.Corruption
import FaultDrill.Plan.Reference

/-!
# FaultDrill.Plan.Error

Why a plan, a reference or a list of references is refused, and the wording of each cause. Lines are
counted from one.
-/

namespace FaultDrill

/-- What is wrong with an event line, or with the header line. -/
inductive LineFault where
  | metadata (token : String)
  | fieldCount
  | checkpoint (name : String)
  | emptyTarget
  | parameterRefused (kind parameter : String)
  | parameterNeeded (kind : String)
  | delay (text : String) (cause : Duration.ParseError)
  | noPeers
  | ownPeer (target : String)
  | corruption (cause : Corruption.ParseError)
  | tooMany (limit : Nat)
  deriving DecidableEq, Repr

/-- The wording of a fault in a line. -/
def LineFault.message : LineFault → String
  | .metadata token => s!"header metadata '{token}' must be key=value"
  | .fieldCount => "expected '<checkpoint> | <target> | <action> [| <params>]'"
  | .checkpoint name => s!"invalid checkpoint id '{name}'"
  | .emptyTarget => "empty target"
  | .parameterRefused kind parameter => s!"'{kind}' takes no parameter, got '{parameter}'"
  | .parameterNeeded kind => s!"'{kind}' requires a parameter"
  | .delay text cause => s!"invalid delay '{text}': {cause.message}"
  | .noPeers => "partition needs at least one peer"
  | .ownPeer target => s!"'{target}' cannot be partitioned from itself"
  | .corruption cause => cause.message
  | .tooMany limit => s!"too many events: max {limit}"

/-- Why a plan or a reference is refused. -/
inductive PlanError where
  | io (path : String) (cause : FileError)
  | tooLarge (size max : Nat)
  | missingHeader
  | missingInvariant
  | noEvents
  | unknownAction (line : Nat) (action : String)
  | invalidEvent (line : Nat) (cause : LineFault)
  | duplicate (line : Nat) (checkpoint target : String)
  | outOfOrder (line : Nat)
  | unknownStrategy (word : String)
  | invalidReference (text reason : String)
  | noInvariants (origin : String)
  deriving DecidableEq, Repr

namespace PlanError

/-- The wording of an error. -/
def message : PlanError → String
  | .io path cause => s!"failed to read {path}: {cause.message}"
  | .tooLarge size max => s!"plan too large: {size} bytes (max: {max})"
  | .missingHeader => "missing plan header (expected 'faultline-plan <id>')"
  | .missingInvariant => "missing invariant reference after plan header"
  | .noEvents => "plan declares no fault events"
  | .unknownAction line action => s!"line {line}: unknown fault action '{action}'"
  | .invalidEvent line cause => s!"line {line}: {cause.message}"
  | .duplicate line checkpoint target =>
    s!"line {line}: duplicate event for checkpoint '{checkpoint}' and target '{target}'"
  | .outOfOrder line => s!"line {line}: checkpoint ids must be non-decreasing"
  | .unknownStrategy word => s!"unknown invariant strategy '{word}'"
  | .invalidReference text reason => s!"invalid invariant reference '{text}': {reason}"
  | .noInvariants origin => s!"invariant list {origin} is empty"

/-- The error of a text that is no reference. -/
def ofReference : Reference.ParseError → PlanError
  | .empty => .invalidReference "" "empty reference"
  | .comparison text => .invalidReference text "comparison needs '<variable> == <value>'"
  | .missingName text => .invalidReference text "missing invariant name before ':'"
  | .missingStrategy text => .invalidReference text "missing strategy after ':'"
  | .manyWords text => .invalidReference text "bare invariant names must be a single word"
  | .unknownStrategy word => .unknownStrategy word

end PlanError

/-- Reads a reference. -/
def readReference (s : List Char) : Except PlanError Reference :=
  (Reference.parse s).mapError .ofReference

end FaultDrill
