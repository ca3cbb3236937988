import FaultDrill.Collections.SortedMap

/-!
# FaultDrill.Config.Basic

The configuration as it stands in a file: six sections, every field with a default.
-/

namespace FaultDrill

namespace Config

/-- General settings. -/
structure General where
  logLevel : String := "info"
  logFormat : String := "pretty"
  deriving DecidableEq, Repr

/-- The channel through which the system under test reports. -/
structure Channel where
  bindAddr : String := "127.0.0.1:31569"
  checkpointTimeoutSecs : UInt64 := 60
  maxConnections : UInt64 := 64
  maxLineBytes : UInt64 := 8192
  queueCapacity : UInt64 := 64
  deriving DecidableEq, Repr

/-- How trials run. -/
structure Trial where
  trialTimeoutSecs : UInt64 := 600
  settleMs : UInt64 := 3000
  healBeforeCheck : Bool := true
  trialsPerInvariant : UInt32 := 1
  outputTailLines : UInt64 := 200
  cleanupTimeoutSecs : UInt64 := 300
  deriving DecidableEq, Repr

/-- A process or node that faults can strike. -/
structure Target where
  name : String := ""
  pid : Option UInt32 := none
  pidFile : Option String := none
  address : Option String := none
  dataDir : Option String := none
  deriving DecidableEq, Repr

/-- The command that changes a packet filter, for the given operation. -/
def packetFilter (operation : String) : String :=
  "iptables -" ++ operation ++
    " INPUT -s \x7bpeer_host\x7d -d \x7btarget_host\x7d -p tcp --dport \x7btarget_port\x7d -j DROP"

/-- How faults are injected. -/
structure Injector where
  actionTimeoutSecs : UInt64 := 10
  retryMaxAttempts : UInt32 := 2
  retryBackoffBaseMs : UInt64 := 100
  killGraceMs : UInt64 := 5000
  partitionCommand : String := packetFilter "I"
  healCommand : String := packetFilter "D"
  targets : List Target := []
  deriving DecidableEq, Repr

/-- How invariants are checked. -/
structure Invariant where
  defaultStrategy : String := "output-marker"
  failureMarker : String := "test has failed"
  probeTimeoutSecs : UInt64 := 30
  /-- The probe command of an invariant name. -/
  probes : SortedMap String String := .empty
  deriving DecidableEq

/-- Where a campaign writes. An empty path turns the file off. -/
structure Campaign where
  stageFile : String := ""
  invariantFile : String := ""
  resultLog : String := ""
  violationsDir : String := ""
  deriving DecidableEq, Repr

end Config

/-- The whole configuration. -/
structure Config where
  general : Config.General := {}
  channel : Config.Channel := {}
  trial : Config.Trial := {}
  injector : Config.Injector := {}
  invariant : Config.Invariant := {}
  campaign : Config.Campaign := {}
  deriving DecidableEq

instance : Inhabited Config := ⟨{}⟩

end FaultDrill
