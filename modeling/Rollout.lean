import Rollout.Cli.Grammar
import Rollout.Cli.Operation
import Rollout.Cli.Run
import Rollout.Command
import Rollout.Config.Bindings
import Rollout.Config.Engine
import Rollout.Config.EnvFile
import Rollout.Config.File
import Rollout.Config.Load
import Rollout.Config.Manifest
import Rollout.Config.Review
import Rollout.Deploy.Apply
import Rollout.Deploy.Deployment
import Rollout.Deploy.Setup
import Rollout.Deploy.Steps
import Rollout.Digest.Fingerprint
import Rollout.Digest.Sha256
import Rollout.Doc.Basic
import Rollout.Doc.Decode
import Rollout.Doc.Fault
import Rollout.Doc.Plain
import Rollout.Doc.Record
import Rollout.Doc.Source
import Rollout.Fault
import Rollout.Files.Listing
import Rollout.Files.Tree
import Rollout.Http.Message
import Rollout.Json.Basic
import Rollout.Json.Decode
import Rollout.Json.Printer
import Rollout.Json.Reader
import Rollout.Machine.Basic
import Rollout.Machine.Field
import Rollout.Machine.Launch
import Rollout.Machine.Pattern
import Rollout.Machine.Program
import Rollout.Machine.Script
import Rollout.Machine.Shell
import Rollout.Machine.Sum
import Rollout.Machine.Word
import Rollout.Main
import Rollout.Number.Basic
import Rollout.Number.Binary64
import Rollout.Number.Range
import Rollout.Number.Shortest
import Rollout.Orchestrator.Application
import Rollout.Orchestrator.Call
import Rollout.Orchestrator.CommandLine
import Rollout.Orchestrator.Wait
import Rollout.Outcome
import Rollout.Path
import Rollout.Plan.Bulletin
import Rollout.Plan.Report
import Rollout.Plan.Run
import Rollout.Proofs.Access
import Rollout.Proofs.Cli.Load
import Rollout.Proofs.Config.Bindings
import Rollout.Proofs.Config.Review
import Rollout.Proofs.Deploy.Apply
import Rollout.Proofs.Deploy.Destroy
import Rollout.Proofs.Deploy.Isolation
import Rollout.Proofs.Deploy.Loaded
import Rollout.Proofs.Deploy.Retried
import Rollout.Proofs.Deploy.Settled
import Rollout.Proofs.Deploy.Steps
import Rollout.Proofs.Doc.Reads
import Rollout.Proofs.Doc.Values
import Rollout.Proofs.Doc.Yields
import Rollout.Proofs.Files
import Rollout.Proofs.Host
import Rollout.Proofs.Json.Quoted
import Rollout.Proofs.Json.Sorted
import Rollout.Proofs.Names
import Rollout.Proofs.Obliging
import Rollout.Proofs.Orchestrator.Wait
import Rollout.Proofs.Plan
import Rollout.Proofs.Precedence
import Rollout.Proofs.Provisioner
import Rollout.Proofs.Provisioner.Backend
import Rollout.Proofs.Provisioner.Retry
import Rollout.Proofs.Registry.Agree
import Rollout.Proofs.Registry.Answers
import Rollout.Proofs.Registry.Directory
import Rollout.Proofs.Registry.Keys
import Rollout.Proofs.Registry.Server
import Rollout.Proofs.Table
import Rollout.Proofs.Text.Order
import Rollout.Proofs.Time.Calendar
import Rollout.Proofs.Time.Written
import Rollout.Proofs.Trace
import Rollout.Proofs.Turns
import Rollout.Proofs.Upgrade.Arrival
import Rollout.Proofs.Upgrade.Eligible
import Rollout.Proofs.Upgrade.Failures
import Rollout.Proofs.Upgrade.Grown
import Rollout.Proofs.Upgrade.History
import Rollout.Proofs.Upgrade.Keys
import Rollout.Proofs.Upgrade.Moves
import Rollout.Proofs.Upgrade.Phases
import Rollout.Proofs.Upgrade.Record
import Rollout.Proofs.Upgrade.Resume
import Rollout.Proofs.Upgrade.Scale
import Rollout.Proofs.Url.Parse
import Rollout.Proofs.Url.Segments
import Rollout.Proofs.Variables.Merge
import Rollout.Proofs.Variables.Pointwise
import Rollout.Proofs.Variables.Reconcile
import Rollout.Proofs.Variables.Refresh
import Rollout.Proofs.Variables.Sources
import Rollout.Provisioner.Backend
import Rollout.Provisioner.Basic
import Rollout.Provisioner.Retry
import Rollout.Provisioner.Signature
import Rollout.Registry.Basic
import Rollout.Registry.Directory
import Rollout.Registry.Lock
import Rollout.Registry.Server
import Rollout.Rehearsal
import Rollout.Rehearsal.Script
import Rollout.Report.Format
import Rollout.Report.Grid
import Rollout.Table
import Rollout.Text.Alphanumeric
import Rollout.Text.Blank
import Rollout.Text.CharSet
import Rollout.Text.Composite
import Rollout.Text.Digit
import Rollout.Text.Mark
import Rollout.Text.Normal
import Rollout.Text.Quoted
import Rollout.Text.Search
import Rollout.Text.Utf8
import Rollout.Text.Width
import Rollout.Text.Width.Class
import Rollout.Time.Instant
import Rollout.Time.Span
import Rollout.Upgrade.Database
import Rollout.Upgrade.Phase
import Rollout.Upgrade.Scale
import Rollout.Upgrade.Tracker
import Rollout.Url.Basic
import Rollout.Url.Domain
import Rollout.Url.Domain.Direction
import Rollout.Url.Domain.Joining
import Rollout.Url.Domain.Mapping
import Rollout.Url.Domain.Punycode
import Rollout.Url.Parse
import Rollout.Variables.Merge
import Rollout.Variables.Overrides
import Rollout.Variables.Reconcile
import Rollout.World.Basic
import Rollout.World.Disk
import Rollout.Yaml.Reader
import Rollout.Yaml.Scalar
import Rollout.Yaml.Scan
import Rollout.Yaml.Token
import Rollout.Proofs.Doc.Members
import Rollout.Proofs.Upgrade.Tells
import Rollout.Proofs.Upgrade.Ranks
import Rollout.Proofs.Upgrade.Uses
import Rollout.Proofs.Upgrade.Restart
import Rollout.Proofs.Provisioner.Init
import Rollout.Proofs.Lineage
import Rollout.Proofs.Config.Find
import Rollout.Proofs.Url.Encoded
import Rollout.Proofs.Registry.Addresses
import Rollout.Proofs.Made
import Rollout.Proofs.Registry.Atomic
import Rollout.Proofs.Number.Shortest
import Rollout.Proofs.Number.Written
import Rollout.Proofs.Json.Reordered
import Rollout.Proofs.Number.Rounded
import Rollout.Proofs.Json.Proper
import Rollout.Proofs.Digest.Fingerprint
import Rollout.Proofs.Orchestrator.Action
import Rollout.Proofs.Provisioner.Clock
import Rollout.Proofs.Provisioner.Log
import Rollout.Proofs.Doc.Closed
import Rollout.Proofs.Outcome
import Rollout.Proofs.Upgrade.Guards
import Rollout.Proofs.Orchestrator.Ordinal
import Rollout.Proofs.Upgrade.Primary
