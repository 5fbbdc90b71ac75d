import Sluice.Catalog
import Sluice.Command.Files
import Sluice.Command.Form
import Sluice.Command.Line
import Sluice.Command.Program
import Sluice.Command.Reader
import Sluice.Command.Trouble
import Sluice.Dispatch.Invocation
import Sluice.Dispatch.Stage
import Sluice.Dispatch.Traffic
import Sluice.Document
import Sluice.Failure
import Sluice.Gate.Basic
import Sluice.Gate.Crowd
import Sluice.Http.Method
import Sluice.Http.Status
import Sluice.Json.Basic
import Sluice.Json.Document
import Sluice.Json.Printer
import Sluice.Json.Reader
import Sluice.Logging.Event
import Sluice.Logging.Filter
import Sluice.Logging.Level
import Sluice.Main
import Sluice.Message.Frame
import Sluice.Message.Headers
import Sluice.Message.Request
import Sluice.Message.Response
import Sluice.MessagePack.Basic
import Sluice.MessagePack.Printer
import Sluice.MessagePack.Reader
import Sluice.Metrics.Exposition
import Sluice.Metrics.Server
import Sluice.Metrics.Tally
import Sluice.Net.Address
import Sluice.Net.Courier
import Sluice.Number.Binary64
import Sluice.Number.Reading
import Sluice.Pending.Board
import Sluice.Pending.Listener
import Sluice.Pending.Table
import Sluice.Proofs.Quota.Backing
import Sluice.Proofs.Quota.Conservation
import Sluice.Proofs.Quota.Rows
import Sluice.Proofs.Quota.Window
import Sluice.Proofs.Time.Line
import Sluice.Queue.Basic
import Sluice.Queue.Channel
import Sluice.Queue.Ingest
import Sluice.Queue.Script
import Sluice.Quota.Backoff
import Sluice.Quota.Bucket
import Sluice.Quota.BucketText
import Sluice.Quota.Ledger
import Sluice.Quota.LedgerText
import Sluice.Quota.Memory
import Sluice.Quota.Observed
import Sluice.Quota.Route
import Sluice.Quota.Store
import Sluice.Quota.Target
import Sluice.Record
import Sluice.Settings.Basic
import Sluice.Settings.Check
import Sluice.Settings.Load
import Sluice.Settings.Override
import Sluice.Settings.Printer
import Sluice.Settings.Reader
import Sluice.Text.Blank
import Sluice.Text.Digits
import Sluice.Text.HiddenTable
import Sluice.Text.Quoted
import Sluice.Text.Ranges
import Sluice.Text.Utf8
import Sluice.Time.Calendar
import Sluice.Time.Clock
import Sluice.Time.Duration
import Sluice.Time.DurationText
import Sluice.Time.Rfc3339
import Sluice.Time.Seconds
import Sluice.Time.Timestamp
import Sluice.Toml.Basic
import Sluice.Toml.Printer
import Sluice.Toml.Reader
import Sluice.Toml.Scalar
import Sluice.Url.Address
import Sluice.Url.Basic
import Sluice.Url.Domain
import Sluice.Url.DomainTable
import Sluice.Url.Path
import Sluice.Url.Percent
import Sluice.Url.Punycode
import Sluice.Uuid
import Sluice.Worker.Basic
import Sluice.Worker.Execution
import Sluice.Worker.Pool
import Sluice.Worker.Shift
import Sluice.Proofs.Quota.Burst
import Sluice.Proofs.Worker.Feedback
import Sluice.Proofs.Pending.Entries
import Sluice.Proofs.Pending.Settlement
import Sluice.Proofs.Quota.Mirror
import Sluice.Proofs.Text.Utf8
import Sluice.Proofs.Text.Digits
import Sluice.Proofs.Time.Calendar
import Sluice.Proofs.Time.Rfc3339
import Sluice.Proofs.MessagePack.RoundTrip
import Sluice.Proofs.Message.Lossless
import Sluice.Proofs.Dispatch.Journey
import Sluice.Proofs.Dispatch.Turn
import Sluice.Proofs.Dispatch.Promptness
import Sluice.Proofs.Dispatch.Registration
import Sluice.Proofs.Dispatch.Verdict
import Sluice.Proofs.Dispatch.Fate
import Sluice.Proofs.Message.Framing
import Sluice.Proofs.Pending.Delivery
import Sluice.Proofs.Text.Hexadecimal
import Sluice.Proofs.Json.RoundTrip
import Sluice.Proofs.Message.Queued
import Sluice.Proofs.Dispatch.Asking
import Sluice.Proofs.Dispatch.Exchange
import Sluice.Proofs.Dispatch.Sending
import Sluice.Proofs.Quota.Hint
import Sluice.Proofs.Worker.Transparency
import Sluice.Proofs.Dispatch.Stages
import Sluice.Proofs.Dispatch.Diagram
import Sluice.Proofs.Dispatch.Agreement
import Sluice.Proofs.Dispatch.Order
import Sluice.Proofs.Dispatch.Sweeping
import Sluice.Proofs.Time.Clock
import Sluice.Proofs.Quota.Atomic
import Sluice.Proofs.Gate.Turn
import Sluice.Proofs.Gate.Accounts
import Sluice.Proofs.Gate.Sleep
import Sluice.Proofs.Gate.Alone
import Sluice.Proofs.Number.Rounding
import Sluice.Proofs.Gate.Reset
import Sluice.Proofs.Time.Ahead
import Sluice.Proofs.Pending.Counting
import Sluice.Proofs.Message.Torn
import Sluice.Proofs.Message.Remainder
import Sluice.Proofs.Quota.Independence
import Sluice.Proofs.Pending.Sweep
import Sluice.Proofs.Quota.Backoff
import Sluice.Proofs.Message.Size
import Sluice.Proofs.Message.Fitting
import Sluice.Proofs.Message.RetryAfter
import Sluice.Proofs.Text.Letters
import Sluice.Proofs.Quota.Route
import Sluice.Proofs.Worker.Isolation
import Sluice.Proofs.Worker.Pool
import Sluice.Proofs.Worker.Shift
import Sluice.Proofs.Settings.Wiring
import Sluice.Proofs.Number.Nearest
import Sluice.Proofs.Number.Shortest
import Sluice.Proofs.Toml.Number
import Sluice.Proofs.Toml.Text
import Sluice.Proofs.Toml.Sections
import Sluice.Proofs.Toml.Bounds
import Sluice.Proofs.Settings.Reload
import Sluice.Proofs.Quota.Observed
import Sluice.Proofs.Time.Floor
import Sluice.Proofs.Quota.BucketText
import Sluice.Proofs.Quota.Saving
import Sluice.Proofs.Quota.Ending
