import FaultDrill.Campaign.Report
import FaultDrill.Cli.Logging
import FaultDrill.Error
import FaultDrill.Text.Pieces

/-!
# FaultDrill.Cli.Failure

Why a command fails, with the wording and the exit code of each cause. A violation is a finding and
no failure, and so is a trial without a verdict.
-/

namespace FaultDrill

/-- The exit code for an error: two for the configuration, three for plans and lists, ten for files
and processes, one for all others. -/
def DrillError.exitCode : DrillError → Nat
  | .config _ => 2
  | .plan _ => 3
  | .io _ | .scriptNotFound _ | .driverNotStarted .. => 10
  | .channel _ | .targetNotFound _ | .targetUnresponsive .. | .actionFailed .. | .check _ => 1

namespace Cli

/-- Why a command fails. -/
inductive Failure where
  | logLevel (level : String) (cause : LogFault)
  | invalidConfig
  | unknownSection (name : String)
  | invalidPlans (count : Nat)
  /-- The harness failed in all trials. -/
  | engineFailed (count : Nat)
  /-- A stop was asked for, after so many trials. -/
  | interrupted (trials : Nat)
  | drill (cause : DrillError)
  deriving DecidableEq, Repr

namespace Failure

/-- The wording of a failure. -/
def message : Failure → String
  | .logLevel level cause =>
    s!"configuration error: invalid log level '{level}': {cause.message}"
  | .invalidConfig => "configuration error: configuration is invalid"
  | .unknownSection name =>
    s!"unknown section: {name} " ++
      "(expected: general, channel, trial, injector, invariant, campaign)"
  | .invalidPlans count => s!"{count} failure plan(s) invalid"
  | .engineFailed count => s!"no trial completed ({count} failed in the harness)"
  | .interrupted trials => s!"campaign interrupted by shutdown signal after {trials} trial(s)"
  | .drill cause => cause.message

/-- The failure as it is told to the user. -/
def report (f : Failure) : String :=
  "error: " ++ f.message

/-- The last line of the report that starts in the way that reports do. -/
def lastLine? (f : Failure) : Option String :=
  ((Text.lines f.report.toList).filter ("error: ".toList.isPrefixOf ·)).getLast?.map
    String.ofList

/-- The exit code of a failure. -/
def exitCode : Failure → Nat
  | .logLevel .. | .invalidConfig => 2
  | .unknownSection _ => 1
  | .invalidPlans _ => 3
  | .engineFailed _ => 4
  | .interrupted _ => 130
  | .drill cause => cause.exitCode

/-- Whether a campaign has failed. An interrupted one has, whatever its trials have found. -/
def ofReport? (r : CampaignReport) : Option Failure :=
  if r.interrupted then some (.interrupted r.summary.total)
  else if r.engineFailed then some (.engineFailed r.summary.engineError)
  else none

end Failure

end Cli

end FaultDrill
