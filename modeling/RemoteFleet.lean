import RemoteFleet.Cancel.Token
import RemoteFleet.CommandLine.Parser
import RemoteFleet.CommandLine.Usage
import RemoteFleet.Config.Error
import RemoteFleet.Config.Invocation
import RemoteFleet.Config.RosterFile
import RemoteFleet.Encoding.Report
import RemoteFleet.Encoding.Roster
import RemoteFleet.Encoding.Template
import RemoteFleet.Execution.Capture
import RemoteFleet.Execution.Stage
import RemoteFleet.Files.Basic
import RemoteFleet.Fleet.Dispatch
import RemoteFleet.Fleet.Plan
import RemoteFleet.Fleet.Progress
import RemoteFleet.Fleet.Run
import RemoteFleet.Fleet.Schedule
import RemoteFleet.Json.Basic
import RemoteFleet.Json.Printer
import RemoteFleet.Json.Reader
import RemoteFleet.Json.Record
import RemoteFleet.Log.Event
import RemoteFleet.Main
import RemoteFleet.Number.Binary64
import RemoteFleet.Program
import RemoteFleet.Proofs.Cancel.Reach
import RemoteFleet.Proofs.Config.Interchange
import RemoteFleet.Proofs.Config.Resolution
import RemoteFleet.Proofs.Encoding.RoundTrip
import RemoteFleet.Proofs.Execution.Alone
import RemoteFleet.Proofs.Execution.Capture
import RemoteFleet.Proofs.Execution.CaptureFile
import RemoteFleet.Proofs.Execution.Consistency
import RemoteFleet.Proofs.Execution.Footprint
import RemoteFleet.Proofs.Execution.Lifecycle
import RemoteFleet.Proofs.Execution.Outcome
import RemoteFleet.Proofs.Execution.RemoteFailure
import RemoteFleet.Proofs.Execution.Results
import RemoteFleet.Proofs.Fleet.Abandonment
import RemoteFleet.Proofs.Fleet.Attempts
import RemoteFleet.Proofs.Fleet.Calls
import RemoteFleet.Proofs.Fleet.Cancellation
import RemoteFleet.Proofs.Fleet.Commands
import RemoteFleet.Proofs.Fleet.Consistency
import RemoteFleet.Proofs.Fleet.Deaths
import RemoteFleet.Proofs.Fleet.Delivery
import RemoteFleet.Proofs.Fleet.Departure
import RemoteFleet.Proofs.Fleet.Footprint
import RemoteFleet.Proofs.Fleet.Handling
import RemoteFleet.Proofs.Fleet.Leading
import RemoteFleet.Proofs.Fleet.Moves
import RemoteFleet.Proofs.Fleet.Places
import RemoteFleet.Proofs.Fleet.Recording
import RemoteFleet.Proofs.Fleet.Refusal
import RemoteFleet.Proofs.Fleet.Resolve
import RemoteFleet.Proofs.Fleet.Schedule
import RemoteFleet.Proofs.Fleet.Sequential
import RemoteFleet.Proofs.Fleet.Sessions
import RemoteFleet.Proofs.Fleet.Standing
import RemoteFleet.Proofs.Fleet.Survival
import RemoteFleet.Proofs.Json.Reading
import RemoteFleet.Proofs.Json.Records
import RemoteFleet.Proofs.Json.Scalars
import RemoteFleet.Proofs.Program.ExitStatus
import RemoteFleet.Proofs.Program.LeaderPolicy
import RemoteFleet.Proofs.Program.StandardOutput
import RemoteFleet.Proofs.Report.Identifiers
import RemoteFleet.Proofs.Report.Tail
import RemoteFleet.Proofs.Roster.Acceptance
import RemoteFleet.Proofs.Roster.Building
import RemoteFleet.Proofs.Roster.Inline
import RemoteFleet.Proofs.Roster.Selecting
import RemoteFleet.Proofs.Selection.Display
import RemoteFleet.Proofs.Selection.Grammar
import RemoteFleet.Proofs.Selection.Layout
import RemoteFleet.Proofs.Selection.NormalForm
import RemoteFleet.Proofs.Session.Accounts
import RemoteFleet.Proofs.Session.Events
import RemoteFleet.Proofs.Session.Faithful
import RemoteFleet.Proofs.Session.Ledger
import RemoteFleet.Proofs.Session.Recording
import RemoteFleet.Proofs.Shell.Chaining
import RemoteFleet.Proofs.Shell.Line
import RemoteFleet.Proofs.Ssh.Connecting
import RemoteFleet.Proofs.Ssh.Deadlines
import RemoteFleet.Proofs.Ssh.Output
import RemoteFleet.Proofs.Ssh.Pumping
import RemoteFleet.Proofs.Ssh.Recording
import RemoteFleet.Proofs.Ssh.Release
import RemoteFleet.Proofs.Ssh.Sockets
import RemoteFleet.Proofs.Template.Directory
import RemoteFleet.Proofs.Template.Placeholders
import RemoteFleet.Proofs.Template.Rendering
import RemoteFleet.Proofs.Template.Stages
import RemoteFleet.Proofs.Text.Digits
import RemoteFleet.Proofs.Text.Lines
import RemoteFleet.Proofs.Text.Reading
import RemoteFleet.Proofs.Time.Timestamps
import RemoteFleet.Report.Basic
import RemoteFleet.Report.Output
import RemoteFleet.Report.Uuid
import RemoteFleet.Roster.Basic
import RemoteFleet.Roster.Target
import RemoteFleet.Selection.Basic
import RemoteFleet.Selection.IndexSet
import RemoteFleet.Selection.Parser
import RemoteFleet.Selection.Printer
import RemoteFleet.Session.Basic
import RemoteFleet.Session.Error
import RemoteFleet.Session.Faults
import RemoteFleet.Session.Mock
import RemoteFleet.Session.Table
import RemoteFleet.Ssh.Client
import RemoteFleet.Ssh.Connector
import RemoteFleet.Ssh.Pump
import RemoteFleet.Ssh.Scripted
import RemoteFleet.Template.Basic
import RemoteFleet.Template.Pattern
import RemoteFleet.Text.Classes
import RemoteFleet.Text.Lines
import RemoteFleet.Text.Numeral
import RemoteFleet.Text.Quoted
import RemoteFleet.Text.Split
import RemoteFleet.Text.Utf8
import RemoteFleet.Time.Calendar
import RemoteFleet.Time.Timestamp
import RemoteFleet.Toml.Decode
import RemoteFleet.Toml.Reader
import RemoteFleet.Toml.Scalar
import RemoteFleet.Toml.Table
import RemoteFleet.Toml.Value
import RemoteFleet.Workstation.Basic
import RemoteFleet.Workstation.Local
