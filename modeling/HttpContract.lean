import HttpContract.CommandLine.Basic
import HttpContract.CommandLine.Parse
import HttpContract.CommandLine.Usage
import HttpContract.Config.Basic
import HttpContract.Config.Load
import HttpContract.Config.Shape
import HttpContract.Definitions.Block
import HttpContract.Definitions.Document
import HttpContract.Definitions.Naming
import HttpContract.Definitions.Reading
import HttpContract.Definitions.RequestLine
import HttpContract.Definitions.Warning
import HttpContract.FileTree.Basic
import HttpContract.FileTree.Directories
import HttpContract.FileTree.Fault
import HttpContract.Headers.Attachment
import HttpContract.Headers.List
import HttpContract.Headers.Map
import HttpContract.Json.Error
import HttpContract.Json.Parse
import HttpContract.Json.Pretty
import HttpContract.Json.Value
import HttpContract.Main
import HttpContract.Method
import HttpContract.Number.Binary64
import HttpContract.Number.Shortest
import HttpContract.Program
import HttpContract.Proofs.Config.Loading
import HttpContract.Proofs.Config.Settings
import HttpContract.Proofs.Config.Shape
import HttpContract.Proofs.Definitions.Accounting
import HttpContract.Proofs.Definitions.Block
import HttpContract.Proofs.Definitions.Composition
import HttpContract.Proofs.Definitions.Fate
import HttpContract.Proofs.Definitions.JsonBody
import HttpContract.Proofs.Definitions.LineEnding
import HttpContract.Proofs.Definitions.LineNumber
import HttpContract.Proofs.Definitions.Naming
import HttpContract.Proofs.Definitions.Printing
import HttpContract.Proofs.Definitions.Promise
import HttpContract.Proofs.Definitions.Reading
import HttpContract.Proofs.Definitions.RequestForm
import HttpContract.Proofs.Definitions.RequestLine
import HttpContract.Proofs.Definitions.RoundTrip
import HttpContract.Proofs.Definitions.Section
import HttpContract.Proofs.Definitions.Skipped
import HttpContract.Proofs.Definitions.TwoTables
import HttpContract.Proofs.Definitions.Undeclared
import HttpContract.Proofs.Definitions.VersionTarget
import HttpContract.Proofs.Definitions.Warning
import HttpContract.Proofs.Definitions.WellFormed
import HttpContract.Proofs.Definitions.Zones
import HttpContract.Proofs.Except
import HttpContract.Proofs.FileTree.Basic
import HttpContract.Proofs.FileTree.Directories
import HttpContract.Proofs.Headers.Attachment
import HttpContract.Proofs.Headers.Insertion
import HttpContract.Proofs.Headers.List
import HttpContract.Proofs.Headers.Slots
import HttpContract.Proofs.Json.Grammar
import HttpContract.Proofs.Json.Layout
import HttpContract.Proofs.Json.Number
import HttpContract.Proofs.Json.Numeral
import HttpContract.Proofs.Json.Printing
import HttpContract.Proofs.Json.Range
import HttpContract.Proofs.Json.Reads
import HttpContract.Proofs.Json.Relocation
import HttpContract.Proofs.Json.Token
import HttpContract.Proofs.Number.Binary64
import HttpContract.Proofs.Number.Rounding
import HttpContract.Proofs.Number.Shortest
import HttpContract.Proofs.Program.Configuration
import HttpContract.Proofs.Program.Execution
import HttpContract.Proofs.Program.ExitStatus
import HttpContract.Proofs.Program.Reporting
import HttpContract.Proofs.Program.Stages
import HttpContract.Proofs.Program.Strategies
import HttpContract.Proofs.Program.Traceless
import HttpContract.Proofs.Report.Changes
import HttpContract.Proofs.Report.Colors
import HttpContract.Proofs.Report.Console
import HttpContract.Proofs.Report.Delivery
import HttpContract.Proofs.Report.Escaping
import HttpContract.Proofs.Report.Html
import HttpContract.Proofs.Report.Json
import HttpContract.Proofs.Report.Markup
import HttpContract.Proofs.Report.Ordering
import HttpContract.Proofs.Report.Style
import HttpContract.Proofs.Run.Complaint
import HttpContract.Proofs.Run.FailureCode
import HttpContract.Proofs.Run.Pool
import HttpContract.Proofs.Run.Record
import HttpContract.Proofs.Run.Schedule
import HttpContract.Proofs.Run.Summary
import HttpContract.Proofs.Run.Verdict
import HttpContract.Proofs.TestCase
import HttpContract.Proofs.Text.Basic
import HttpContract.Proofs.Text.Decimal
import HttpContract.Proofs.Text.Lines
import HttpContract.Proofs.Text.Pattern
import HttpContract.Proofs.Text.Utf8
import HttpContract.Proofs.Time.Duration
import HttpContract.Proofs.Transport.Failure
import HttpContract.Proofs.Transport.Network
import HttpContract.Proofs.Transport.Request
import HttpContract.Proofs.Unicode.LowerCase
import HttpContract.Proofs.Url.Drive
import HttpContract.Proofs.Url.Path
import HttpContract.Proofs.Variables.Declaration
import HttpContract.Proofs.Variables.Grammar
import HttpContract.Proofs.Variables.Idempotence
import HttpContract.Proofs.Variables.Occurrence
import HttpContract.Proofs.Variables.Reference
import HttpContract.Proofs.Variables.Table
import HttpContract.Report.Console
import HttpContract.Report.Files
import HttpContract.Report.Format
import HttpContract.Report.Html
import HttpContract.Report.Json
import HttpContract.Report.Markup
import HttpContract.Report.Plain
import HttpContract.Report.Style
import HttpContract.Run.Pool
import HttpContract.Run.Result
import HttpContract.Run.Summary
import HttpContract.Run.Verdict
import HttpContract.RunError
import HttpContract.TestCase
import HttpContract.Text.Basic
import HttpContract.Text.Decimal
import HttpContract.Text.Lines
import HttpContract.Text.Quoted
import HttpContract.Text.Utf8
import HttpContract.Time.Duration
import HttpContract.Time.Timestamp
import HttpContract.Toml.Assembly
import HttpContract.Toml.Datetime
import HttpContract.Toml.Number
import HttpContract.Toml.Parse
import HttpContract.Toml.Scan
import HttpContract.Toml.Value
import HttpContract.Transport.Failure
import HttpContract.Transport.Network
import HttpContract.Transport.Request
import HttpContract.Unicode.Alphabetic
import HttpContract.Unicode.Casing
import HttpContract.Unicode.CharClass
import HttpContract.Unicode.CodeRange
import HttpContract.Unicode.LowerCase
import HttpContract.Unicode.Mark
import HttpContract.Unicode.Printable
import HttpContract.Url.Address
import HttpContract.Url.Basic
import HttpContract.Url.Error
import HttpContract.Url.Host
import HttpContract.Url.Parse
import HttpContract.Url.Path
import HttpContract.Url.Percent
import HttpContract.Url.Uri
import HttpContract.Variables.Declaration
import HttpContract.Variables.Reference
import HttpContract.Variables.Table
