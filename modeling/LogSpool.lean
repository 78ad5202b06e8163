import LogSpool.Batch
import LogSpool.Buffer
import LogSpool.Clock
import LogSpool.Decimal.Layout
import LogSpool.Decimal.Nearest
import LogSpool.Decimal.Numeral
import LogSpool.Decimal.Shortest
import LogSpool.Engine.Basic
import LogSpool.Engine.Config
import LogSpool.Entry
import LogSpool.Event
import LogSpool.Fault.Engine
import LogSpool.Fault.Status
import LogSpool.Fault.Trouble
import LogSpool.Hands
import LogSpool.Json.Cursor
import LogSpool.Json.Document
import LogSpool.Json.Fault
import LogSpool.Json.Reader.Basic
import LogSpool.Json.Reader.Bracket
import LogSpool.Json.Reader.Kind
import LogSpool.Json.Reader.Number
import LogSpool.Json.Reader.Quoted
import LogSpool.Json.Reader.Record
import LogSpool.Json.Reader.Skip
import LogSpool.Json.Reader.Value
import LogSpool.Ledger
import LogSpool.Logging.Directory
import LogSpool.Logging.Filter
import LogSpool.Logging.Installation
import LogSpool.Logging.Options
import LogSpool.Main
import LogSpool.Metrics
import LogSpool.Network
import LogSpool.Postgres.Config
import LogSpool.Postgres.Session
import LogSpool.Postgres.Statement
import LogSpool.Power
import LogSpool.Program.Choice
import LogSpool.Program.CommandLine
import LogSpool.Program.Config
import LogSpool.Program.HelpText
import LogSpool.Program.Invocation
import LogSpool.Program.Start
import LogSpool.Program.StartError
import LogSpool.Proofs.Buffer.Operations
import LogSpool.Proofs.Custody.Basic
import LogSpool.Proofs.Custody.Conservation
import LogSpool.Proofs.Custody.Order
import LogSpool.Proofs.Sink.Recorded
import LogSpool.Proofs.Sink.Obliging
import LogSpool.Proofs.Station.Operations
import LogSpool.Proofs.Station.Pending
import LogSpool.Rest.Address
import LogSpool.Rest.Body
import LogSpool.Rest.Client
import LogSpool.Rest.Config
import LogSpool.Rest.Error
import LogSpool.Rest.Message
import LogSpool.Rest.Routes
import LogSpool.Settings.Environment
import LogSpool.Settings.Path
import LogSpool.Settings.Reading
import LogSpool.Settings.Value
import LogSpool.Shell.Line
import LogSpool.Shell.Session
import LogSpool.Sink.Basic
import LogSpool.Sink.Memory
import LogSpool.Sink.Scripted
import LogSpool.Station
import LogSpool.Storage
import LogSpool.Text.Blank
import LogSpool.Text.Case
import LogSpool.Text.Cased
import LogSpool.Text.Lines
import LogSpool.Text.Printed
import LogSpool.Text.Quoted
import LogSpool.Text.Ranges
import LogSpool.Text.Utf8
import LogSpool.Toml.Document
import LogSpool.Toml.Scalar
import LogSpool.Toml.Table
import LogSpool.Proofs.Station.Chronicle
import LogSpool.Proofs.Station.Course
import LogSpool.Proofs.Engine.Chronicle
import LogSpool.Proofs.Engine.Course
import LogSpool.Proofs.Session.Basic
import LogSpool.Proofs.Session.Pending
import LogSpool.Proofs.Session.Custody
import LogSpool.Proofs.Station.Report
import LogSpool.Proofs.Engine.Outage
import LogSpool.Proofs.Session.Erasure
import LogSpool.Proofs.Buffer.Invariant
import LogSpool.Proofs.Custody.Representation
import LogSpool.Proofs.Station.Offer
import LogSpool.Proofs.Session.Representation
import LogSpool.Proofs.Custody.Loss
import LogSpool.Proofs.Station.Loss
import LogSpool.Proofs.Session.Loss
import LogSpool.Proofs.Engine.Healthy
import LogSpool.Proofs.Engine.Operations
import LogSpool.Proofs.Station.Kept
import LogSpool.Proofs.Engine.Acceptance
import LogSpool.Proofs.Session.Image
import LogSpool.Proofs.Sink.Traced
import LogSpool.Proofs.Session.Trace
import LogSpool.Proofs.Station.Errand
import LogSpool.Proofs.Station.Move
import LogSpool.Proofs.Station.Books
import LogSpool.Proofs.Engine.History
import LogSpool.Proofs.Session.Books
import LogSpool.Proofs.Engine.Exclusion
import LogSpool.Proofs.Custody.Closed
import LogSpool.Proofs.Station.Closed
import LogSpool.Proofs.Session.Closed
import LogSpool.Proofs.Session.Finality
import LogSpool.Proofs.Custody.Account
import LogSpool.Proofs.Engine.Drain
import LogSpool.Proofs.Engine.Shutdown
import LogSpool.Proofs.Decimal.Numeral
import LogSpool.Proofs.Program.TextSettings
import LogSpool.Proofs.Rest.Serving
import LogSpool.Proofs.Rest.Documents
import LogSpool.Proofs.Rest.Refusals
import LogSpool.Proofs.Station.Round
import LogSpool.Proofs.Session.Dialogue
import LogSpool.Proofs.Session.Succession
import LogSpool.Proofs.Postgres.Transcript
import LogSpool.Proofs.Batch.Split
import LogSpool.Proofs.Batch.Attempt
import LogSpool.Proofs.Batch.Rehearsal
import LogSpool.Proofs.Batch.Effect
import LogSpool.Proofs.Batch.Cancellation
import LogSpool.Proofs.Batch.Continuation
import LogSpool.Proofs.Batch.Preview
import LogSpool.Proofs.Engine.Sweep
import LogSpool.Proofs.Engine.Termination
import LogSpool.Proofs.Session.Refusal
import LogSpool.Proofs.Shell.Grammar
import LogSpool.Proofs.Sink.Retention
import LogSpool.Proofs.Fault.Causes
import LogSpool.Proofs.Rest.Failures
import LogSpool.Proofs.Text.Utf8
import LogSpool.Proofs.Text.Lines
import LogSpool.Proofs.Shell.Session
import LogSpool.Proofs.Json.Reading
import LogSpool.Proofs.Json.Quoted
import LogSpool.Proofs.Json.Number
import LogSpool.Proofs.Json.Document
import LogSpool.Proofs.Json.Line
import LogSpool.Proofs.Buffer.Document
import LogSpool.Proofs.Session.Preview
