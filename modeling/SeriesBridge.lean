import SeriesBridge.Database.Cache
import SeriesBridge.Database.Endpoint
import SeriesBridge.Database.Link
import SeriesBridge.Database.Provider
import SeriesBridge.Database.Report
import SeriesBridge.Database.Result
import SeriesBridge.Database.Session
import SeriesBridge.Database.Table
import SeriesBridge.Dialogue.Basic
import SeriesBridge.Dialogue.Course
import SeriesBridge.Dialogue.Serve
import SeriesBridge.Error
import SeriesBridge.Extraction.Mapping
import SeriesBridge.Extraction.Query
import SeriesBridge.Extraction.Source
import SeriesBridge.Files
import SeriesBridge.Files.Disk
import SeriesBridge.Json.Printer
import SeriesBridge.Json.Tree
import SeriesBridge.Json.Value
import SeriesBridge.Keyed
import SeriesBridge.Line.Decode
import SeriesBridge.Line.Encode
import SeriesBridge.Line.Point
import SeriesBridge.Line.Token
import SeriesBridge.Main
import SeriesBridge.Metrics
import SeriesBridge.Number.Decimal
import SeriesBridge.Number.Double
import SeriesBridge.Offset.Basic
import SeriesBridge.Offset.Cursor
import SeriesBridge.Offset.Store
import SeriesBridge.Pipeline.Assembly
import SeriesBridge.Pipeline.Delivery
import SeriesBridge.Pipeline.Publication
import SeriesBridge.Pipeline.Schedule
import SeriesBridge.Precision
import SeriesBridge.Program.Failure
import SeriesBridge.Program.Machine
import SeriesBridge.Program.Stage
import SeriesBridge.Proofs.Database.Acquisition
import SeriesBridge.Proofs.Database.Attempts
import SeriesBridge.Proofs.Database.Endpoint
import SeriesBridge.Proofs.Database.Issue
import SeriesBridge.Proofs.Database.Lifecycle
import SeriesBridge.Proofs.Database.Release
import SeriesBridge.Proofs.Database.Report
import SeriesBridge.Proofs.Database.Selection
import SeriesBridge.Proofs.Database.Session
import SeriesBridge.Proofs.Database.Table
import SeriesBridge.Proofs.Dialogue.Again
import SeriesBridge.Proofs.Dialogue.Asks
import SeriesBridge.Proofs.Dialogue.Beside
import SeriesBridge.Proofs.Dialogue.Ensures
import SeriesBridge.Proofs.Dialogue.Recording
import SeriesBridge.Proofs.Dialogue.Turns
import SeriesBridge.Proofs.Extraction.Arrangement
import SeriesBridge.Proofs.Extraction.Batch
import SeriesBridge.Proofs.Extraction.Cells
import SeriesBridge.Proofs.Extraction.Passing
import SeriesBridge.Proofs.Extraction.Poll
import SeriesBridge.Proofs.Extraction.Position
import SeriesBridge.Proofs.Extraction.Prepare
import SeriesBridge.Proofs.Extraction.Progress
import SeriesBridge.Proofs.Extraction.Rounds
import SeriesBridge.Proofs.Extraction.Rows
import SeriesBridge.Proofs.Files.Beside
import SeriesBridge.Proofs.Files.Disk
import SeriesBridge.Proofs.Files.Faults
import SeriesBridge.Proofs.Json.Reading
import SeriesBridge.Proofs.Line.Breaks
import SeriesBridge.Proofs.Line.Faults
import SeriesBridge.Proofs.Line.Grammar
import SeriesBridge.Proofs.Line.Lexing
import SeriesBridge.Proofs.Line.Reading
import SeriesBridge.Proofs.Line.RoundTrip
import SeriesBridge.Proofs.Line.Tokens
import SeriesBridge.Proofs.Number.Nearest
import SeriesBridge.Proofs.Number.Numeral
import SeriesBridge.Proofs.Number.ReadBack
import SeriesBridge.Proofs.Number.Whole
import SeriesBridge.Proofs.Offset.Commit
import SeriesBridge.Proofs.Offset.Cursor
import SeriesBridge.Proofs.Offset.Document
import SeriesBridge.Proofs.Offset.Failure
import SeriesBridge.Proofs.Offset.Interruption
import SeriesBridge.Proofs.Offset.Latest
import SeriesBridge.Proofs.Offset.Persistence
import SeriesBridge.Proofs.Offset.Start
import SeriesBridge.Proofs.Offset.Tracker
import SeriesBridge.Proofs.Offset.Units
import SeriesBridge.Proofs.Pipeline.Delivery
import SeriesBridge.Proofs.Pipeline.Ledger
import SeriesBridge.Proofs.Pipeline.Protocol
import SeriesBridge.Proofs.Pipeline.Publication
import SeriesBridge.Proofs.Pipeline.Release
import SeriesBridge.Proofs.Pipeline.Retries
import SeriesBridge.Proofs.Pipeline.Statements
import SeriesBridge.Proofs.Record.Framing
import SeriesBridge.Proofs.Record.Moments
import SeriesBridge.Proofs.Retry
import SeriesBridge.Proofs.Settings.Names
import SeriesBridge.Proofs.Sink
import SeriesBridge.Proofs.Sink.Conservation
import SeriesBridge.Proofs.Sink.Wire
import SeriesBridge.Proofs.Template
import SeriesBridge.Proofs.Text.Blank
import SeriesBridge.Proofs.Text.Identifier
import SeriesBridge.Proofs.Text.Integer
import SeriesBridge.Proofs.Text.Utf8
import SeriesBridge.Proofs.Time.Reading
import SeriesBridge.Proofs.Url.Query
import SeriesBridge.Record.Basic
import SeriesBridge.Record.LineStream
import SeriesBridge.Retry
import SeriesBridge.Settings.Bridge
import SeriesBridge.Settings.Database
import SeriesBridge.Settings.Fields
import SeriesBridge.Settings.Pipeline
import SeriesBridge.Sink
import SeriesBridge.Template
import SeriesBridge.Text.Base64
import SeriesBridge.Text.Blank
import SeriesBridge.Text.CharTable
import SeriesBridge.Text.Escaped
import SeriesBridge.Text.Integer
import SeriesBridge.Text.Mark
import SeriesBridge.Text.Normal
import SeriesBridge.Text.Normal.Class
import SeriesBridge.Text.Normal.Decomposition
import SeriesBridge.Text.Printable
import SeriesBridge.Text.Utf8
import SeriesBridge.Time.Civil
import SeriesBridge.Time.Instant
import SeriesBridge.Toml.Document
import SeriesBridge.Toml.Value
import SeriesBridge.Url.Basic
import SeriesBridge.Url.Domain
import SeriesBridge.Url.Domain.Direction
import SeriesBridge.Url.Domain.Folding
import SeriesBridge.Url.Domain.Joining
import SeriesBridge.Url.Host
import SeriesBridge.Url.Percent
import SeriesBridge.Url.Punycode
import SeriesBridge.Web.Basic
import SeriesBridge.Web.Message
