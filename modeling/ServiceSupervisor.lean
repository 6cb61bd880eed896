import ServiceSupervisor.Cancellation.Crowd
import ServiceSupervisor.Cancellation.Handles
import ServiceSupervisor.Cancellation.Signal
import ServiceSupervisor.CommandLine.Command
import ServiceSupervisor.CommandLine.Help
import ServiceSupervisor.CommandLine.Invocation
import ServiceSupervisor.Duration
import ServiceSupervisor.Environment
import ServiceSupervisor.Files.FileError
import ServiceSupervisor.Files.Path
import ServiceSupervisor.Files.Tree
import ServiceSupervisor.Interrupt.Forwarder
import ServiceSupervisor.Interrupt.Signals
import ServiceSupervisor.Journal
import ServiceSupervisor.Logging.Filter
import ServiceSupervisor.Logging.Logbook
import ServiceSupervisor.Logging.Stamp
import ServiceSupervisor.Main
import ServiceSupervisor.Monitor.Pass
import ServiceSupervisor.Monitor.Schedule
import ServiceSupervisor.Monitor.Thread
import ServiceSupervisor.Monitor.Watch
import ServiceSupervisor.Program
import ServiceSupervisor.Proofs.Cancellation.SingleUse
import ServiceSupervisor.Proofs.Files.Path
import ServiceSupervisor.Proofs.Files.Tree
import ServiceSupervisor.Proofs.History
import ServiceSupervisor.Proofs.Interrupt.Forwarder
import ServiceSupervisor.Proofs.Monitor.Dialogue
import ServiceSupervisor.Proofs.Monitor.Exit
import ServiceSupervisor.Proofs.Monitor.Isolation
import ServiceSupervisor.Proofs.Monitor.Pass
import ServiceSupervisor.Proofs.Monitor.Trace
import ServiceSupervisor.Proofs.Monitor.WholePasses
import ServiceSupervisor.Proofs.Registry.Reader
import ServiceSupervisor.Proofs.Registry.Snapshot
import ServiceSupervisor.Proofs.Registry.Strings
import ServiceSupervisor.Proofs.Registry.Value
import ServiceSupervisor.Proofs.Scm.Brackets
import ServiceSupervisor.Proofs.Scm.CommandLine
import ServiceSupervisor.Proofs.Scm.Handles
import ServiceSupervisor.Proofs.Scm.Names
import ServiceSupervisor.Proofs.Scm.Service
import ServiceSupervisor.Proofs.Sequence
import ServiceSupervisor.Proofs.Service.AnswerBook
import ServiceSupervisor.Proofs.Service.Replies
import ServiceSupervisor.Proofs.Settings.Backends
import ServiceSupervisor.Proofs.Settings.DefaultPath
import ServiceSupervisor.Proofs.Settings.Listing
import ServiceSupervisor.Proofs.Settings.OwnName
import ServiceSupervisor.Proofs.Settings.Reads
import ServiceSupervisor.Proofs.Settings.Session
import ServiceSupervisor.Proofs.Settings.WatchPlan
import ServiceSupervisor.Proofs.Supervisor.Controller
import ServiceSupervisor.Proofs.Supervisor.Refusal
import ServiceSupervisor.Proofs.Supervisor.Requests
import ServiceSupervisor.Proofs.Supervisor.Run
import ServiceSupervisor.Proofs.Supervisor.Stages
import ServiceSupervisor.Proofs.Systemd.Conversation
import ServiceSupervisor.Proofs.Systemd.Exchanges
import ServiceSupervisor.Proofs.Systemd.Operands
import ServiceSupervisor.Proofs.Systemd.Properties
import ServiceSupervisor.Proofs.Systemd.Registration
import ServiceSupervisor.Proofs.Systemd.UnitFile
import ServiceSupervisor.Proofs.Systemd.UnitText
import ServiceSupervisor.Proofs.Text.Split
import ServiceSupervisor.Proofs.Text.Trim
import ServiceSupervisor.Proofs.Text.Utf16
import ServiceSupervisor.Proofs.Text.Utf8
import ServiceSupervisor.Proofs.Text.Words
import ServiceSupervisor.Registry.Reader
import ServiceSupervisor.Registry.Value
import ServiceSupervisor.Scm.Api
import ServiceSupervisor.Scm.Control
import ServiceSupervisor.Scm.Host
import ServiceSupervisor.Scm.Registration
import ServiceSupervisor.Scm.Service
import ServiceSupervisor.Scm.StatusReport
import ServiceSupervisor.Service.Manager
import ServiceSupervisor.Service.Script
import ServiceSupervisor.Settings.ConfigFile
import ServiceSupervisor.Settings.Error
import ServiceSupervisor.Settings.LogTarget
import ServiceSupervisor.Settings.OwnName
import ServiceSupervisor.Settings.Source
import ServiceSupervisor.Settings.WatchPlan
import ServiceSupervisor.Supervisor.Basic
import ServiceSupervisor.Supervisor.Controller
import ServiceSupervisor.Supervisor.Schedule
import ServiceSupervisor.Supervisor.Stage
import ServiceSupervisor.Systemd.Host
import ServiceSupervisor.Systemd.Registration
import ServiceSupervisor.Systemd.Reporter
import ServiceSupervisor.Systemd.Show
import ServiceSupervisor.Systemd.Systemctl
import ServiceSupervisor.Systemd.Unit
import ServiceSupervisor.Systemd.UnitFile
import ServiceSupervisor.Text.Blank
import ServiceSupervisor.Text.CharRange
import ServiceSupervisor.Text.Combining
import ServiceSupervisor.Text.Invisible
import ServiceSupervisor.Text.Plain
import ServiceSupervisor.Text.Quoted
import ServiceSupervisor.Text.Split
import ServiceSupervisor.Text.Utf16
import ServiceSupervisor.Text.Utf8
import ServiceSupervisor.Toml.Document
import ServiceSupervisor.Toml.Fault
import ServiceSupervisor.Toml.Scalar
import ServiceSupervisor.Toml.Syntax
import ServiceSupervisor.Toml.Table
import ServiceSupervisor.Unsupported
import ServiceSupervisor.Verb
