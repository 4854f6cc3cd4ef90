import SourceWatch.Alert
import SourceWatch.Association
import SourceWatch.Catalog.Basic
import SourceWatch.Catalog.Pattern
import SourceWatch.Catalog.Rule
import SourceWatch.CommandLine.Arguments
import SourceWatch.CommandLine.Help
import SourceWatch.CommandLine.Run
import SourceWatch.Config.Basic
import SourceWatch.Config.Load
import SourceWatch.Decimal.Binary64
import SourceWatch.Decimal.Shortest
import SourceWatch.Detector
import SourceWatch.Dispatcher
import SourceWatch.Environment
import SourceWatch.Files.Path
import SourceWatch.Files.Tree
import SourceWatch.Files.Walk
import SourceWatch.Finding
import SourceWatch.Instant
import SourceWatch.Json.Basic
import SourceWatch.Json.Printer
import SourceWatch.Json.Reader
import SourceWatch.Json.Wire
import SourceWatch.Ledger
import SourceWatch.Log
import SourceWatch.Main
import SourceWatch.Monitor.Basic
import SourceWatch.Monitor.Create
import SourceWatch.Monitor.Lifecycle
import SourceWatch.Monitor.Scan
import SourceWatch.Proofs.Association
import SourceWatch.Proofs.Catalog.Keywords
import SourceWatch.Proofs.Catalog.Language
import SourceWatch.Proofs.Catalog.NormalForm
import SourceWatch.Proofs.Catalog.Overrides
import SourceWatch.Proofs.Catalog.Pattern
import SourceWatch.Proofs.Catalog.QuotedValue
import SourceWatch.Proofs.CommandLine.Agreement
import SourceWatch.Proofs.CommandLine.Interval
import SourceWatch.Proofs.CommandLine.Setup
import SourceWatch.Proofs.Config.Bounds
import SourceWatch.Proofs.Config.Load
import SourceWatch.Proofs.Detector.Earliest
import SourceWatch.Proofs.Detector.Findings
import SourceWatch.Proofs.Detector.Keywords
import SourceWatch.Proofs.Detector.ReadBack
import SourceWatch.Proofs.Detector.Reports
import SourceWatch.Proofs.Detector.Surroundings
import SourceWatch.Proofs.Dispatcher.Effects
import SourceWatch.Proofs.Dispatcher.FanOut
import SourceWatch.Proofs.Dispatcher.Jobs
import SourceWatch.Proofs.Dispatcher.Pool
import SourceWatch.Proofs.Distinct
import SourceWatch.Proofs.Files.Contents
import SourceWatch.Proofs.Files.Extensions
import SourceWatch.Proofs.Files.Faults
import SourceWatch.Proofs.Files.Names
import SourceWatch.Proofs.Files.Resolve
import SourceWatch.Proofs.Files.Walk
import SourceWatch.Proofs.Files.WellFormed
import SourceWatch.Proofs.Instant
import SourceWatch.Proofs.Json.Documents
import SourceWatch.Proofs.Json.Faults
import SourceWatch.Proofs.Json.RoundTrip
import SourceWatch.Proofs.Json.Scalars
import SourceWatch.Proofs.Json.Sendable
import SourceWatch.Proofs.Ledger.Log
import SourceWatch.Proofs.Ledger.Recordings
import SourceWatch.Proofs.Ledger.Round
import SourceWatch.Proofs.Ledger.Spacing
import SourceWatch.Proofs.Ledger.Window
import SourceWatch.Proofs.Monitor.Accounting
import SourceWatch.Proofs.Monitor.Announcements
import SourceWatch.Proofs.Monitor.Attempts
import SourceWatch.Proofs.Monitor.Bounds
import SourceWatch.Proofs.Monitor.Course
import SourceWatch.Proofs.Monitor.Cycle
import SourceWatch.Proofs.Monitor.Firsts
import SourceWatch.Proofs.Monitor.Intake
import SourceWatch.Proofs.Monitor.Isolation
import SourceWatch.Proofs.Monitor.Lifecycle
import SourceWatch.Proofs.Monitor.Lock
import SourceWatch.Proofs.Monitor.Loops
import SourceWatch.Proofs.Monitor.Openings
import SourceWatch.Proofs.Monitor.Operation
import SourceWatch.Proofs.Monitor.Recorded
import SourceWatch.Proofs.Monitor.Records
import SourceWatch.Proofs.Monitor.Report
import SourceWatch.Proofs.Monitor.Rescan
import SourceWatch.Proofs.Monitor.Resilience
import SourceWatch.Proofs.Monitor.Run
import SourceWatch.Proofs.Monitor.Spacing
import SourceWatch.Proofs.Monitor.TextMessages
import SourceWatch.Proofs.Record
import SourceWatch.Proofs.Schema.Check
import SourceWatch.Proofs.Service.Layers
import SourceWatch.Proofs.Service.Orders
import SourceWatch.Proofs.Service.Visits
import SourceWatch.Proofs.Sink.TextMessage
import SourceWatch.Proofs.Text.Capital
import SourceWatch.Proofs.Text.Form
import SourceWatch.Proofs.Text.Lenient
import SourceWatch.Proofs.Text.Reading
import SourceWatch.Proofs.Text.Sigma
import SourceWatch.Proofs.Text.Split
import SourceWatch.Proofs.Text.Strict
import SourceWatch.Proofs.Text.Trimmed
import SourceWatch.Schema.Check
import SourceWatch.Schema.Issue
import SourceWatch.Schema.Record
import SourceWatch.Schema.Report
import SourceWatch.Service.Basic
import SourceWatch.Service.Message
import SourceWatch.Service.Origin
import SourceWatch.Service.Route
import SourceWatch.Service.StartOrder
import SourceWatch.Severity
import SourceWatch.Sink.Basic
import SourceWatch.Sink.Event
import SourceWatch.Sink.TextMessage
import SourceWatch.Sink.Url
import SourceWatch.Sink.Voice
import SourceWatch.Text.Base64
import SourceWatch.Text.Blank
import SourceWatch.Text.CaseData
import SourceWatch.Text.CodePoint
import SourceWatch.Text.DecimalDigit
import SourceWatch.Text.Hexadecimal
import SourceWatch.Text.Lowercase
import SourceWatch.Text.Newline
import SourceWatch.Text.Numeral
import SourceWatch.Text.Percent
import SourceWatch.Text.Printable
import SourceWatch.Text.Quoted
import SourceWatch.Text.RangeTree
import SourceWatch.Text.Search
import SourceWatch.Text.Utf8
import SourceWatch.Text.WordChar
