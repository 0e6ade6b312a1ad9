import Overseer.Agent.Rehearsal
import Overseer.Agent.Settings
import Overseer.Boot.Cohort
import Overseer.Boot.Entry
import Overseer.Boot.Rendezvous
import Overseer.Boot.Tree
import Overseer.Clock
import Overseer.Decimal.Binary64
import Overseer.Decimal.Read
import Overseer.Decimal.Shortest
import Overseer.Decimal.Whole
import Overseer.Exec.Arguments
import Overseer.Exec.Meter
import Overseer.Exec.Prepare
import Overseer.Exec.Pump
import Overseer.Exec.Template
import Overseer.Exposition
import Overseer.Host.Children
import Overseer.Host.ExitStatus
import Overseer.Host.FileError
import Overseer.Host.FileTree
import Overseer.Host.Registry
import Overseer.Job.Command
import Overseer.Job.Level
import Overseer.Job.Message
import Overseer.Job.Result
import Overseer.Job.State
import Overseer.Job.Usage
import Overseer.Json.Decode
import Overseer.Json.Document
import Overseer.Json.Value
import Overseer.Log.Config
import Overseer.Log.Event
import Overseer.Log.Filter
import Overseer.Main
import Overseer.Manager.Builtin
import Overseer.Manager.Config
import Overseer.Manager.Queue
import Overseer.Manager.Step
import Overseer.Manager.System
import Overseer.Pattern.Basic
import Overseer.Pattern.CharSet
import Overseer.Pattern.Meaning
import Overseer.Pattern.Parser
import Overseer.Pattern.Property
import Overseer.Pattern.Size
import Overseer.Pattern.Tree
import Overseer.Proofs.Boot.Gating
import Overseer.Proofs.Boot.Slice
import Overseer.Proofs.Boot.Weight
import Overseer.Proofs.Manager.Capacity
import Overseer.Proofs.Manager.Carriage
import Overseer.Proofs.Manager.Chronicle
import Overseer.Proofs.Manager.Contents
import Overseer.Proofs.Manager.Conservation
import Overseer.Proofs.Manager.Conveyance
import Overseer.Proofs.Manager.Handlers
import Overseer.Proofs.Manager.Identity
import Overseer.Proofs.Manager.Lanes
import Overseer.Proofs.Manager.Ledger
import Overseer.Proofs.Manager.Move
import Overseer.Proofs.Manager.Registry
import Overseer.Proofs.Manager.Rest
import Overseer.Proofs.Manager.Sequence
import Overseer.Proofs.Manager.Tasks
import Overseer.Proofs.Manager.Tokens
import Overseer.Proofs.Runner.Attempt
import Overseer.Proofs.Runner.Digest
import Overseer.Proofs.Runner.Restart
import Overseer.Proofs.Runner.Result
import Overseer.Proofs.Runner.Rule
import Overseer.Proofs.Runner.Sights
import Overseer.Proofs.Runner.Stall
import Overseer.Proofs.Runner.Trace
import Overseer.Proofs.Stats.Collector
import Overseer.Runner.Attempt
import Overseer.Runner.Hook
import Overseer.Runner.Lifecycle
import Overseer.Runner.Restart
import Overseer.Simulation.Child
import Overseer.Simulation.Files
import Overseer.Simulation.Machine
import Overseer.Simulation.Script
import Overseer.Simulation.Shell.Arithmetic
import Overseer.Simulation.Shell.Commands
import Overseer.Simulation.Shell.Fields
import Overseer.Simulation.Shell.Format
import Overseer.Simulation.Shell.Glob
import Overseer.Simulation.Shell.Jobs
import Overseer.Simulation.Shell.Number
import Overseer.Simulation.Shell.Octets
import Overseer.Simulation.Shell.Programs
import Overseer.Simulation.Shell.Reader
import Overseer.Simulation.Shell.Run
import Overseer.Simulation.Shell.State
import Overseer.Simulation.Shell.Test
import Overseer.Simulation.Shell.Tree
import Overseer.Stats.Aggregator
import Overseer.Stats.Collector
import Overseer.Stats.Sample
import Overseer.Stats.Snapshot
import Overseer.Stream.Parser
import Overseer.Stream.Pipe
import Overseer.Stream.Ring
import Overseer.Text.Blank
import Overseer.Text.Folding
import Overseer.Text.Quoted
import Overseer.Text.Ranges
import Overseer.Text.Unicode.Age
import Overseer.Text.Unicode.Break
import Overseer.Text.Unicode.Category
import Overseer.Text.Unicode.Property
import Overseer.Text.Unicode.Script
import Overseer.Text.Unicode.Word
import Overseer.Text.Utf8
import Overseer.Proofs.Boot.Acceptance
import Overseer.Proofs.Boot.Order
import Overseer.Proofs.Host.Delivery
import Overseer.Proofs.Runner.Kill
import Overseer.Stream.Reader
import Overseer.Exec.Relay
import Overseer.Proofs.Boot.Turn
import Overseer.Proofs.Boot.Record
import Overseer.Proofs.Boot.Fate
import Overseer.Proofs.Boot.Permission
import Overseer.Proofs.Boot.Partition
import Overseer.Proofs.Boot.Completion
import Overseer.Proofs.Stream.Reader
import Overseer.Proofs.Exec.Relay
import Overseer.Proofs.Exec.Outcome
import Overseer.Proofs.Host.Lock
import Overseer.Proofs.Stream.Encoding
import Overseer.Proofs.Stream.Pipe
import Overseer.Proofs.Stats.Aggregator
import Overseer.Proofs.Boot.Readiness
import Overseer.Proofs.Text.Utf8
import Overseer.Proofs.Stats.Gauges
import Overseer.Proofs.Decimal.Digits
import Overseer.Proofs.Json.Reading
import Overseer.Proofs.Json.Records
import Overseer.Proofs.Job.Wire
import Overseer.Proofs.Decimal.Rounding
import Overseer.Proofs.Decimal.Shortest
import Overseer.Proofs.Decimal.RoundTrip
import Overseer.Proofs.Stats.Levels
import Overseer.Proofs.Stats.Line
import Overseer.Proofs.Runner.Metering
import Overseer.Proofs.Boot.Report
import Overseer.Proofs.Boot.Cycles
import Overseer.Host.Signal
import Overseer.Exec.Supervision
import Overseer.Proofs.Exec.Supervision
import Overseer.Proofs.Runner.FirstAttempt
import Overseer.Proofs.Boot.Failure
import Overseer.Boot.Meeting
import Overseer.Proofs.Boot.Rendezvous
import Overseer.Proofs.Boot.Meeting
import Overseer.Proofs.Boot.Refusal
import Overseer.Proofs.Runner.Budget
import Overseer.Proofs.Stream.Grammar
import Overseer.Proofs.Table
import Overseer.Proofs.Text.Cutting
import Overseer.Proofs.Exec.Template
import Overseer.Stats.Call
import Overseer.Stats.Service
import Overseer.Proofs.Stats.Refusal
import Overseer.Proofs.Stats.Windows
import Overseer.Proofs.Stats.Service
import Overseer.Proofs.Stats.Timeline
import Overseer.Proofs.Exec.Placeholder
import Overseer.Proofs.Stats.Timestamp
import Overseer.Boot.Descent
import Overseer.Proofs.Boot.Return
import Overseer.Proofs.Boot.Descent
