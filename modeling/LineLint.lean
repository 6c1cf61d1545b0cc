import LineLint.Checker.Basic
import LineLint.Checker.Error
import LineLint.Checker.Status
import LineLint.Checker.SystemError
import LineLint.DataDir
import LineLint.Diagnostics
import LineLint.Documents
import LineLint.Host.Condition
import LineLint.Host.Desk
import LineLint.Host.Files
import LineLint.Host.Format
import LineLint.Host.Letters
import LineLint.Host.Machine
import LineLint.Host.Shell.Arithmetic
import LineLint.Host.Shell.Builtins
import LineLint.Host.Shell.Pattern
import LineLint.Host.Shell.Reader
import LineLint.Host.Shell.Run
import LineLint.Host.Shell.Script
import LineLint.Host.Shell.State
import LineLint.Host.Utilities
import LineLint.Json.Basic
import LineLint.Json.Fault
import LineLint.Json.Numeral
import LineLint.Json.Printer
import LineLint.Json.Reader
import LineLint.Json.Shape
import LineLint.Log
import LineLint.Log.Filter
import LineLint.Main
import LineLint.Number.Binary64
import LineLint.Number.Shortest
import LineLint.Options.Basic
import LineLint.Options.Help
import LineLint.Options.Parse
import LineLint.Options.Scan
import LineLint.Program
import LineLint.Proofs.Documents.History
import LineLint.Proofs.Documents.Numbering
import LineLint.Proofs.Documents.Table
import LineLint.Proofs.Trace
import LineLint.Protocol.Endpoint
import LineLint.Protocol.Params
import LineLint.Protocol.Shape
import LineLint.Protocol.Wire
import LineLint.Report
import LineLint.Rpc.Error
import LineLint.Rpc.Message
import LineLint.Server.Basic
import LineLint.Settings.Basic
import LineLint.Settings.Cache
import LineLint.Settings.Section
import LineLint.Simulation.Lookups
import LineLint.Simulation.Script
import LineLint.Simulation.Service
import LineLint.Simulation.Session
import LineLint.Task.Basic
import LineLint.Task.Configured
import LineLint.Task.Run
import LineLint.Text.Blank
import LineLint.Text.Lines
import LineLint.Text.Printable
import LineLint.Text.Quoted
import LineLint.Text.Utf8
import LineLint.Uri.Basic
import LineLint.Uri.Host
import LineLint.Uri.Path
import LineLint.Uri.Percent
import LineLint.Proofs.Server.Steps
import LineLint.Proofs.Server.View
import LineLint.Proofs.Settings.Cache
import LineLint.Proofs.Server.Freshness
import LineLint.Proofs.Server.Runs
import LineLint.Proofs.Server.Handling
import LineLint.Proofs.Server.Entries
import LineLint.Proofs.Server.Outcomes
import LineLint.Proofs.Settings.Resolver
import LineLint.Proofs.Settings.SingleFlight
import LineLint.Proofs.Settings.Separation
import LineLint.Proofs.Settings.Locality
import LineLint.Proofs.Settings.Invalidation
import LineLint.Proofs.Documents.Independence
import LineLint.Proofs.Server.Limits
import LineLint.Proofs.Server.Lifecycle
import LineLint.Proofs.Server.Renaming
import LineLint.Proofs.Server.Strides
import LineLint.Proofs.Server.Interleaving
import LineLint.Proofs.Server.Snapshot
import LineLint.Proofs.Settings.Modes
import LineLint.Proofs.Server.Modes
import LineLint.Proofs.Server.Linted
import LineLint.Proofs.Server.Routes
import LineLint.Proofs.Server.Resolving
import LineLint.Proofs.Report.Grammar
import LineLint.Proofs.Report.Layout
import LineLint.Proofs.Report.Output
import LineLint.Proofs.Options.RoundTrip
import LineLint.Proofs.Settings.Acceptance
import LineLint.Proofs.Task.Folders
import LineLint.Proofs.Checker.Arguments
import LineLint.Proofs.Number.Rounding
import LineLint.Proofs.Json.Numerals
import LineLint.Proofs.Json.Range
import LineLint.Proofs.Json.Grammar
import LineLint.Proofs.Task.Configuration
import LineLint.Proofs.Task.Running
