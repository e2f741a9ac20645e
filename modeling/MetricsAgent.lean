import MetricsAgent.Calendar.Basic
import MetricsAgent.Calendar.Reader
import MetricsAgent.Collection.Catalogue
import MetricsAgent.Collection.Collector
import MetricsAgent.Collection.Selection
import MetricsAgent.Command.Job
import MetricsAgent.Command.Mode
import MetricsAgent.Command.Options
import MetricsAgent.Console.Markup
import MetricsAgent.Console.Pictogram
import MetricsAgent.Console.Style
import MetricsAgent.Delivery.Reply
import MetricsAgent.Delivery.Uploader
import MetricsAgent.Digest.Sha256
import MetricsAgent.Fault
import MetricsAgent.Fault.Tagged
import MetricsAgent.Host.Environment
import MetricsAgent.Host.Files
import MetricsAgent.Json.Basic
import MetricsAgent.Json.Reader
import MetricsAgent.Json.Tagged
import MetricsAgent.Logging.Output
import MetricsAgent.Logging.Record
import MetricsAgent.Main
import MetricsAgent.Number.Basic
import MetricsAgent.Number.Binary64
import MetricsAgent.Number.Decimal
import MetricsAgent.Number.Power
import MetricsAgent.Number.Reader
import MetricsAgent.Payload.Basic
import MetricsAgent.Payload.Document
import MetricsAgent.Payload.Metric
import MetricsAgent.Payload.Part
import MetricsAgent.Payload.Reader
import MetricsAgent.Reporting
import MetricsAgent.Run.Activity
import MetricsAgent.Run.Cycle
import MetricsAgent.Run.Schedule
import MetricsAgent.Run.Seconds
import MetricsAgent.Run.Tasks
import MetricsAgent.Run.Trace
import MetricsAgent.Run.World
import MetricsAgent.Settings.Basic
import MetricsAgent.Settings.Defaults
import MetricsAgent.Settings.Duration
import MetricsAgent.Settings.Error
import MetricsAgent.Settings.Load
import MetricsAgent.Settings.Placeholder
import MetricsAgent.Settings.Reader
import MetricsAgent.Settings.Tree
import MetricsAgent.Text.Base64
import MetricsAgent.Text.CharClass
import MetricsAgent.Text.Printable
import MetricsAgent.Text.Quoted
import MetricsAgent.Text.Runs
import MetricsAgent.Text.Similarity
import MetricsAgent.Text.Template
import MetricsAgent.Text.Utf8
import MetricsAgent.Text.Word
import MetricsAgent.Validation.Issue
import MetricsAgent.Validation.Record
import MetricsAgent.Validation.Report
import MetricsAgent.Validation.Scalar
import MetricsAgent.Value
import MetricsAgent.Yaml.Construct
import MetricsAgent.Yaml.Error
import MetricsAgent.Yaml.Lexer
import MetricsAgent.Yaml.Node
import MetricsAgent.Yaml.Position
import MetricsAgent.Yaml.Resolve
import MetricsAgent.Yaml.Token
import MetricsAgent.Yaml.TokenStream
import MetricsAgent.Proofs.Results
import MetricsAgent.Proofs.Text.Utf8
import MetricsAgent.Proofs.Validation.Accepted
import MetricsAgent.Proofs.Delivery.Faults
import MetricsAgent.Proofs.Delivery.Retries
import MetricsAgent.Proofs.Delivery.Sending
import MetricsAgent.Proofs.Number.Range
import MetricsAgent.Proofs.Number.Reading
import MetricsAgent.Proofs.Number.Rounding
import MetricsAgent.Proofs.Settings.Discovery
import MetricsAgent.Proofs.Settings.Layers
import MetricsAgent.Proofs.Settings.Loading
import MetricsAgent.Proofs.Settings.Paths
import MetricsAgent.Proofs.Settings.Precedence
import MetricsAgent.Proofs.Yaml.Mappings
import MetricsAgent.Proofs.Run.Passing
import MetricsAgent.Proofs.Run.Scripts
import MetricsAgent.Proofs.Run.Telling
import MetricsAgent.Proofs.Run.Steadfast
import MetricsAgent.Proofs.Run.Cycles
import MetricsAgent.Proofs.Run.Rounds
import MetricsAgent.Proofs.Run.Spacing
import MetricsAgent.Proofs.Run.Stopping
import MetricsAgent.Proofs.Run.Accounts
import MetricsAgent.Proofs.Run.Endings
import MetricsAgent.Proofs.Run.Balance
import MetricsAgent.Proofs.Number.Shortest
import MetricsAgent.Proofs.Json.Grammar
import MetricsAgent.Proofs.Json.Reading
import MetricsAgent.Proofs.Json.Numerals
import MetricsAgent.Proofs.Json.Printing
import MetricsAgent.Proofs.Json.Values
import MetricsAgent.Proofs.Calendar.Days
import MetricsAgent.Proofs.Calendar.Readings
import MetricsAgent.Proofs.Calendar.Texts
import MetricsAgent.Proofs.Payload.Agreement
import MetricsAgent.Proofs.Payload.Checks
import MetricsAgent.Proofs.Payload.RoundTrip
import MetricsAgent.Proofs.Settings.Usable
import MetricsAgent.Proofs.Collection.Loading
import MetricsAgent.Proofs.Run.Keeping
import MetricsAgent.Proofs.Run.Restraint
import MetricsAgent.Proofs.Command.Release
import MetricsAgent.Proofs.Run.Ordinary
import MetricsAgent.Proofs.Run.Indifference
import MetricsAgent.Proofs.Settings.Rereading
import MetricsAgent.Proofs.Console.Escaping
import MetricsAgent.Proofs.Console.Saying
import MetricsAgent.Proofs.Command.Status
import MetricsAgent.Proofs.Run.Interference
import MetricsAgent.Proofs.Run.Exclusion
import MetricsAgent.Proofs.Run.Asking
import MetricsAgent.Proofs.Run.Request
import MetricsAgent.Proofs.Delivery.Backoff
import MetricsAgent.Proofs.Delivery.Origin
import MetricsAgent.Proofs.Run.Discretion
import MetricsAgent.Proofs.Run.Observation
import MetricsAgent.Proofs.Settings.Expansion
import MetricsAgent.Proofs.Settings.Placeholders
import MetricsAgent.Proofs.Number.Shares
import MetricsAgent.Proofs.Run.Courses
import MetricsAgent.Proofs.Collection.Tracking
import MetricsAgent.Proofs.Collection.Totals
import MetricsAgent.Proofs.Command.DryRun
import MetricsAgent.Proofs.Settings.Interval
import MetricsAgent.Proofs.Payload.Building
import MetricsAgent.Proofs.Delivery.Sessions
import MetricsAgent.Proofs.Json.Validity
import MetricsAgent.Proofs.Logging.Forms
import MetricsAgent.Proofs.Logging.Lines
import MetricsAgent.Proofs.Settings.Durations
import MetricsAgent.Proofs.Settings.Ranges
import MetricsAgent.Proofs.Settings.Pointer
import MetricsAgent.Proofs.Validation.Places
import MetricsAgent.Proofs.Settings.Explaining
import MetricsAgent.Proofs.Console.Shortcodes
import MetricsAgent.Proofs.Console.Segments
import MetricsAgent.Proofs.Console.Legible
import MetricsAgent.Proofs.Command.Findings
