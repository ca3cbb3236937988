import FaultDrill.Config.Basic
import FaultDrill.Json.Decode

/-!
# FaultDrill.Config.Codec

The configuration as a JSON value. What is missing has its default; what has another type is
refused. Which arrays stand for a section depends on where the value comes from.
-/

namespace FaultDrill.Config

open Json (Listing defaulted?)

/-- Number fields of a record. -/
def u64 (n : UInt64) : Json := .nat n.toNat

/-- Number fields of thirty-two bits. -/
def u32 (n : UInt32) : Json := .nat n.toNat

/-! ### Sections -/

namespace General

/-- The names of the fields in their order. -/
def names : List String := ["log_level", "log_format"]

/-- The section as a JSON value. -/
def toJson (c : General) : Json :=
  .obj [("log_level", .str c.logLevel), ("log_format", .str c.logFormat)]

/-- The section from a JSON value. -/
def ofJson? (listing : Listing) (v : Json) : Option General := do
  let d : General := {}
  match ← v.fields? names listing with
  | [level, format] =>
    return ⟨← defaulted? Json.asString? d.logLevel level,
      ← defaulted? Json.asString? d.logFormat format⟩
  | _ => none

end General

namespace Channel

/-- The names of the fields in their order. -/
def names : List String :=
  ["bind_addr", "checkpoint_timeout_secs", "max_connections", "max_line_bytes", "queue_capacity"]

/-- The section as a JSON value. -/
def toJson (c : Channel) : Json :=
  .obj [("bind_addr", .str c.bindAddr), ("checkpoint_timeout_secs", u64 c.checkpointTimeoutSecs),
    ("max_connections", u64 c.maxConnections), ("max_line_bytes", u64 c.maxLineBytes),
    ("queue_capacity", u64 c.queueCapacity)]

/-- The section from a JSON value. -/
def ofJson? (listing : Listing) (v : Json) : Option Channel := do
  let d : Channel := {}
  match ← v.fields? names listing with
  | [addr, timeout, connections, line, queue] =>
    return ⟨← defaulted? Json.asString? d.bindAddr addr,
      ← defaulted? Json.asUInt64? d.checkpointTimeoutSecs timeout,
      ← defaulted? Json.asUInt64? d.maxConnections connections,
      ← defaulted? Json.asUInt64? d.maxLineBytes line,
      ← defaulted? Json.asUInt64? d.queueCapacity queue⟩
  | _ => none

end Channel

namespace Trial

/-- The names of the fields in their order. -/
def names : List String :=
  ["trial_timeout_secs", "settle_ms", "heal_before_check", "trials_per_invariant",
    "output_tail_lines", "cleanup_timeout_secs"]

/-- The section as a JSON value. -/
def toJson (c : Trial) : Json :=
  .obj [("trial_timeout_secs", u64 c.trialTimeoutSecs), ("settle_ms", u64 c.settleMs),
    ("heal_before_check", .bool c.healBeforeCheck),
    ("trials_per_invariant", u32 c.trialsPerInvariant),
    ("output_tail_lines", u64 c.outputTailLines),
    ("cleanup_timeout_secs", u64 c.cleanupTimeoutSecs)]

/-- The section from a JSON value. -/
def ofJson? (listing : Listing) (v : Json) : Option Trial := do
  let d : Trial := {}
  match ← v.fields? names listing with
  | [timeout, settle, heal, trials, tail, cleanup] =>
    return ⟨← defaulted? Json.asUInt64? d.trialTimeoutSecs timeout,
      ← defaulted? Json.asUInt64? d.settleMs settle,
      ← defaulted? Json.asBool? d.healBeforeCheck heal,
      ← defaulted? Json.asUInt32? d.trialsPerInvariant trials,
      ← defaulted? Json.asUInt64? d.outputTailLines tail,
      ← defaulted? Json.asUInt64? d.cleanupTimeoutSecs cleanup⟩
  | _ => none

end Trial

namespace Target

/-- The names of the fields in their order. -/
def names : List String := ["name", "pid", "pid_file", "address", "data_dir"]

/-- A target as a JSON value. -/
def toJson (t : Target) : Json :=
  .obj [("name", .str t.name), ("pid", .ofOption u32 t.pid), ("pid_file", .ofOption .str t.pidFile),
    ("address", .ofOption .str t.address), ("data_dir", .ofOption .str t.dataDir)]

/-- A target from a JSON value. -/
def ofJson? (listing : Listing) (v : Json) : Option Target := do
  match ← v.fields? names listing with
  | [name, pid, pidFile, address, dataDir] =>
    return ⟨← defaulted? Json.asString? "" name,
      ← defaulted? (Json.asOption? Json.asUInt32?) none pid,
      ← defaulted? (Json.asOption? Json.asString?) none pidFile,
      ← defaulted? (Json.asOption? Json.asString?) none address,
      ← defaulted? (Json.asOption? Json.asString?) none dataDir⟩
  | _ => none

end Target

namespace Injector

/-- The names of the fields in their order. -/
def names : List String :=
  ["action_timeout_secs", "retry_max_attempts", "retry_backoff_base_ms", "kill_grace_ms",
    "partition_command", "heal_command", "targets"]

/-- The section as a JSON value. -/
def toJson (c : Injector) : Json :=
  .obj [("action_timeout_secs", u64 c.actionTimeoutSecs),
    ("retry_max_attempts", u32 c.retryMaxAttempts),
    ("retry_backoff_base_ms", u64 c.retryBackoffBaseMs), ("kill_grace_ms", u64 c.killGraceMs),
    ("partition_command", .str c.partitionCommand), ("heal_command", .str c.healCommand),
    ("targets", .arr (c.targets.map Target.toJson))]

/-- The section from a JSON value. -/
def ofJson? (listing : Listing) (v : Json) : Option Injector := do
  let d : Injector := {}
  match ← v.fields? names listing with
  | [timeout, attempts, backoff, grace, partition, heal, targets] =>
    return ⟨← defaulted? Json.asUInt64? d.actionTimeoutSecs timeout,
      ← defaulted? Json.asUInt32? d.retryMaxAttempts attempts,
      ← defaulted? Json.asUInt64? d.retryBackoffBaseMs backoff,
      ← defaulted? Json.asUInt64? d.killGraceMs grace,
      ← defaulted? Json.asString? d.partitionCommand partition,
      ← defaulted? Json.asString? d.healCommand heal,
      ← defaulted? (Json.asList? (Target.ofJson? listing)) d.targets targets⟩
  | _ => none

end Injector

namespace Invariant

/-- The names of the fields in their order. -/
def names : List String :=
  ["default_strategy", "failure_marker", "probe_timeout_secs", "probes"]

/-- The section as a JSON value. -/
def toJson (c : Invariant) : Json :=
  .obj [("default_strategy", .str c.defaultStrategy), ("failure_marker", .str c.failureMarker),
    ("probe_timeout_secs", u64 c.probeTimeoutSecs),
    ("probes", Json.ofMap .str c.probes)]

/-- The section from a JSON value. -/
def ofJson? (listing : Listing) (v : Json) : Option Invariant := do
  let d : Invariant := {}
  match ← v.fields? names listing with
  | [strategy, marker, timeout, probes] =>
    return ⟨← defaulted? Json.asString? d.defaultStrategy strategy,
      ← defaulted? Json.asString? d.failureMarker marker,
      ← defaulted? Json.asUInt64? d.probeTimeoutSecs timeout,
      ← defaulted? (Json.asMap? Json.asString?) d.probes probes⟩
  | _ => none

end Invariant

namespace Campaign

/-- The names of the fields in their order. -/
def names : List String := ["stage_file", "invariant_file", "result_log", "violations_dir"]

/-- The section as a JSON value. -/
def toJson (c : Campaign) : Json :=
  .obj [("stage_file", .str c.stageFile), ("invariant_file", .str c.invariantFile),
    ("result_log", .str c.resultLog), ("violations_dir", .str c.violationsDir)]

/-- The section from a JSON value. -/
def ofJson? (listing : Listing) (v : Json) : Option Campaign := do
  match ← v.fields? names listing with
  | [stage, invariant, log, violations] =>
    return ⟨← defaulted? Json.asString? "" stage, ← defaulted? Json.asString? "" invariant,
      ← defaulted? Json.asString? "" log, ← defaulted? Json.asString? "" violations⟩
  | _ => none

end Campaign

/-! ### The whole -/

/-- The names of the sections in their order. -/
def sections : List String :=
  ["general", "channel", "trial", "injector", "invariant", "campaign"]

/-- The configuration as a JSON value. -/
def toJson (c : Config) : Json :=
  .obj [("general", c.general.toJson), ("channel", c.channel.toJson), ("trial", c.trial.toJson),
    ("injector", c.injector.toJson), ("invariant", c.invariant.toJson),
    ("campaign", c.campaign.toJson)]

/-- The configuration from a JSON value. -/
def ofJson? (listing : Listing) (v : Json) : Option Config := do
  match ← v.fields? sections listing with
  | [general, channel, trial, injector, invariant, campaign] =>
    return ⟨← defaulted? (General.ofJson? listing) {} general,
      ← defaulted? (Channel.ofJson? listing) {} channel,
      ← defaulted? (Trial.ofJson? listing) {} trial,
      ← defaulted? (Injector.ofJson? listing) {} injector,
      ← defaulted? (Invariant.ofJson? listing) {} invariant,
      ← defaulted? (Campaign.ofJson? listing) {} campaign⟩
  | _ => none

end FaultDrill.Config
