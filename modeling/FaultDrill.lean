import FaultDrill.Campaign.Campaign
import FaultDrill.Campaign.Recorder
import FaultDrill.Campaign.Report
import FaultDrill.Campaign.State
import FaultDrill.Channel.Address
import FaultDrill.Channel.Command
import FaultDrill.Channel.Connection
import FaultDrill.Channel.Message
import FaultDrill.Channel.Inbox
import FaultDrill.Channel.Lobby
import FaultDrill.Check.Basic
import FaultDrill.Check.Codec
import FaultDrill.Check.Error
import FaultDrill.Check.Evaluate
import FaultDrill.Check.Observation
import FaultDrill.Check.Settings
import FaultDrill.Cli.Failure
import FaultDrill.Cli.Grammar
import FaultDrill.Cli.Invocation
import FaultDrill.Cli.Logging
import FaultDrill.Cli.Page
import FaultDrill.Cli.Reader
import FaultDrill.Cli.Task
import FaultDrill.Collections.SortedMap
import FaultDrill.Config.Basic
import FaultDrill.Config.Codec
import FaultDrill.Config.Environment
import FaultDrill.Config.Error
import FaultDrill.Config.Load
import FaultDrill.Config.Validation
import FaultDrill.Duration.Basic
import FaultDrill.Duration.Text
import FaultDrill.Error
import FaultDrill.Files.Error
import FaultDrill.Files.Path
import FaultDrill.Files.System
import FaultDrill.Files.Tree
import FaultDrill.Injection.Error
import FaultDrill.Injection.Injector
import FaultDrill.Injection.Ledger
import FaultDrill.Injection.Retry
import FaultDrill.Injection.Settings
import FaultDrill.Injection.Site
import FaultDrill.Json.Decode
import FaultDrill.Json.Reader
import FaultDrill.Json.Value
import FaultDrill.Json.Writer
import FaultDrill.Machine.Controller
import FaultDrill.Machine.Ending
import FaultDrill.Machine.Probe
import FaultDrill.Machine.Shell.Arithmetic
import FaultDrill.Machine.Shell.Awk.Basic
import FaultDrill.Machine.Shell.Awk.Parser
import FaultDrill.Machine.Shell.Awk.Run
import FaultDrill.Machine.Shell.Basic
import FaultDrill.Machine.Shell.Builtins
import FaultDrill.Machine.Shell.Builtins.Basic
import FaultDrill.Machine.Shell.Builtins.Jobs
import FaultDrill.Machine.Shell.Builtins.Names
import FaultDrill.Machine.Shell.Condition
import FaultDrill.Machine.Shell.Expand
import FaultDrill.Machine.Shell.Fields
import FaultDrill.Machine.Shell.Format
import FaultDrill.Machine.Shell.Lifetime
import FaultDrill.Machine.Shell.Mode
import FaultDrill.Machine.Shell.Number
import FaultDrill.Machine.Shell.Parser
import FaultDrill.Machine.Shell.Pattern
import FaultDrill.Machine.Shell.Programs
import FaultDrill.Machine.Shell.Redirects
import FaultDrill.Machine.Shell.Regex
import FaultDrill.Machine.Shell.Run
import FaultDrill.Machine.Shell.Source
import FaultDrill.Machine.Shell.Starting
import FaultDrill.Machine.Shell.State
import FaultDrill.Machine.Shell.Token
import FaultDrill.Machine.Shell.Tools.Basic
import FaultDrill.Machine.Shell.Tools.Calendar
import FaultDrill.Machine.Shell.Tools.Columns
import FaultDrill.Machine.Shell.Tools.Copying
import FaultDrill.Machine.Shell.Tools.Editing
import FaultDrill.Machine.Shell.Tools.Edits
import FaultDrill.Machine.Shell.Tools.Facts
import FaultDrill.Machine.Shell.Tools.Finding
import FaultDrill.Machine.Shell.Tools.Launching
import FaultDrill.Machine.Shell.Tools.Lines
import FaultDrill.Machine.Shell.Tools.Listing
import FaultDrill.Machine.Shell.Tools.Paths
import FaultDrill.Machine.Shell.Tools.Search
import FaultDrill.Machine.Shell.Tools.Summing
import FaultDrill.Machine.Shell.World
import FaultDrill.Main
import FaultDrill.Plan.Basic
import FaultDrill.Plan.Codec
import FaultDrill.Plan.Corruption
import FaultDrill.Plan.Error
import FaultDrill.Plan.Fault
import FaultDrill.Plan.Parser
import FaultDrill.Plan.Reference
import FaultDrill.Proofs.Campaign.Replay
import FaultDrill.Proofs.Campaign.Tally
import FaultDrill.Proofs.Collections.SortedMap
import FaultDrill.Proofs.Duration.RoundTrip
import FaultDrill.Proofs.Files.Tree
import FaultDrill.Proofs.Injection.Calls
import FaultDrill.Proofs.Injection.Failure
import FaultDrill.Proofs.Injection.Files
import FaultDrill.Proofs.Injection.Frame
import FaultDrill.Proofs.Injection.Healing
import FaultDrill.Proofs.Injection.Network
import FaultDrill.Proofs.Injection.Processes
import FaultDrill.Proofs.Injection.Repetition
import FaultDrill.Proofs.Injection.Retention
import FaultDrill.Proofs.Injection.Retry
import FaultDrill.Proofs.Injection.Reversal
import FaultDrill.Proofs.Injection.Sandbox
import FaultDrill.Proofs.Injection.Simulation
import FaultDrill.Proofs.Injection.Spelling
import FaultDrill.Proofs.Injection.Timing
import FaultDrill.Proofs.Injection.Trace
import FaultDrill.Proofs.Outcome
import FaultDrill.Proofs.Plan.Canonical
import FaultDrill.Proofs.Plan.Corruption
import FaultDrill.Proofs.Plan.Field
import FaultDrill.Proofs.Plan.Reference
import FaultDrill.Proofs.Plan.RoundTrip
import FaultDrill.Proofs.Plan.WellFormed
import FaultDrill.Proofs.Text.Blank
import FaultDrill.Proofs.Text.Decimal
import FaultDrill.Proofs.Text.Pieces
import FaultDrill.Proofs.Text.Utf8
import FaultDrill.Proofs.Trial.Clock
import FaultDrill.Proofs.Trial.Course
import FaultDrill.Proofs.Trial.Identity
import FaultDrill.Proofs.Trial.Isolation
import FaultDrill.Proofs.Trial.Moves
import FaultDrill.Proofs.Trial.Order
import FaultDrill.Proofs.Trial.Queue
import FaultDrill.Proofs.Trial.Overrun
import FaultDrill.Proofs.Trial.Playback
import FaultDrill.Proofs.Trial.Protocol
import FaultDrill.Proofs.Trial.Registration
import FaultDrill.Proofs.Trial.Release
import FaultDrill.Proofs.Trial.Reports
import FaultDrill.Proofs.Trial.Teardown
import FaultDrill.Rehearsal.Bench
import FaultDrill.Rehearsal.Codec
import FaultDrill.Rehearsal.Process
import FaultDrill.Rehearsal.Scene
import FaultDrill.Settings
import FaultDrill.Target.Endpoint
import FaultDrill.Target.Registry
import FaultDrill.Text.Blank
import FaultDrill.Text.Column
import FaultDrill.Text.Decimal
import FaultDrill.Text.Digest
import FaultDrill.Text.Radix
import FaultDrill.Text.Pieces
import FaultDrill.Text.Utf8
import FaultDrill.Toml.Document
import FaultDrill.Toml.Reader
import FaultDrill.Toml.Scalar
import FaultDrill.Toml.Value
import FaultDrill.Toml.Writer
import FaultDrill.Trial.Bench
import FaultDrill.Trial.Capture
import FaultDrill.Trial.Script
import FaultDrill.Trial.Coordinate
import FaultDrill.Trial.EventQueue
import FaultDrill.Trial.Id
import FaultDrill.Trial.Journal
import FaultDrill.Trial.Result
import FaultDrill.Trial.Run
import FaultDrill.Trial.Runner
import FaultDrill.Proofs.Trial.Closing
import FaultDrill.Proofs.Trial.Settling
import FaultDrill.Proofs.Json.RoundTrip
import FaultDrill.Proofs.Trial.ResultCodec
import FaultDrill.Proofs.Campaign.Log
import FaultDrill.Proofs.Trial.Capture
import FaultDrill.Proofs.Check.Verdict
import FaultDrill.Proofs.Check.Comparison
import FaultDrill.Proofs.Check.Equality
import FaultDrill.Proofs.Check.Marker
import FaultDrill.Proofs.Trial.Output
import FaultDrill.Proofs.Plan.Window
import FaultDrill.Proofs.Config.Precedence
import FaultDrill.Proofs.Trial.Range
import FaultDrill.Proofs.Channel.Command
import FaultDrill.Proofs.Channel.Connection
import FaultDrill.Proofs.Channel.Inbox
import FaultDrill.Proofs.Plan.NodeVariable
import FaultDrill.Proofs.Plan.FirstFault
import FaultDrill.Proofs.Plan.Layout
import FaultDrill.Proofs.Channel.Lobby
import FaultDrill.Proofs.Channel.Shutdown
import FaultDrill.Proofs.Campaign.Reached
import FaultDrill.Proofs.Config.Environment
