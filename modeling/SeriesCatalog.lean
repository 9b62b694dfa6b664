import SeriesCatalog.Aggregation.Basic
import SeriesCatalog.Aggregation.Reader
import SeriesCatalog.Aggregation.Writer
import SeriesCatalog.Assoc
import SeriesCatalog.Catalog.Basic
import SeriesCatalog.Catalog.Dispatch
import SeriesCatalog.Catalog.Session
import SeriesCatalog.Fault
import SeriesCatalog.Filter
import SeriesCatalog.Interpreter.Basic
import SeriesCatalog.Json.Access
import SeriesCatalog.Json.Basic
import SeriesCatalog.Json.Display
import SeriesCatalog.Json.Equality
import SeriesCatalog.Json.Order
import SeriesCatalog.Json.Reader
import SeriesCatalog.Json.Writer
import SeriesCatalog.Number.Basic
import SeriesCatalog.Number.Double
import SeriesCatalog.Number.Numeral
import SeriesCatalog.Number.Shortest
import SeriesCatalog.Outcome.Accumulator
import SeriesCatalog.Outcome.Basic
import SeriesCatalog.Outcome.Kind
import SeriesCatalog.Outcome.Policy
import SeriesCatalog.Query.Basic
import SeriesCatalog.Query.Kind
import SeriesCatalog.Query.MetricName
import SeriesCatalog.Reading
import SeriesCatalog.Response.Basic
import SeriesCatalog.Response.Writer
import SeriesCatalog.Search.Address.Basic
import SeriesCatalog.Search.Address.Host
import SeriesCatalog.Search.Cluster
import SeriesCatalog.Search.Request
import SeriesCatalog.Series.Identity
import SeriesCatalog.Settings.Basic
import SeriesCatalog.Settings.EnvFile
import SeriesCatalog.Settings.Hosts
import SeriesCatalog.Settings.Loose
import SeriesCatalog.Settings.Options
import SeriesCatalog.Settings.Process
import SeriesCatalog.Settings.Sources
import SeriesCatalog.Settings.Store
import SeriesCatalog.Telemetry.Event
import SeriesCatalog.Telemetry.LogLevel
import SeriesCatalog.Telemetry.Metrics
import SeriesCatalog.Text.Blank
import SeriesCatalog.Text.Capital
import SeriesCatalog.Text.Cased
import SeriesCatalog.Text.Digit
import SeriesCatalog.Text.Encoding
import SeriesCatalog.Text.Label
import SeriesCatalog.Text.Lower
import SeriesCatalog.Text.Percent
import SeriesCatalog.Text.Point
import SeriesCatalog.Text.Printable
import SeriesCatalog.Text.Puny
import SeriesCatalog.Text.Quoted
import SeriesCatalog.Text.Ranges
import SeriesCatalog.Text.Split
import SeriesCatalog.Proofs.Aggregation.RoundTrip
import SeriesCatalog.Proofs.Response.RoundTrip
import SeriesCatalog.Proofs.Outcome.Payload
import SeriesCatalog.Proofs.Fallible
import SeriesCatalog.Proofs.Interpreter.Holdings
import SeriesCatalog.Proofs.Response.Totals
import SeriesCatalog.Proofs.Search.Settling
import SeriesCatalog.Proofs.Search.FanOut
import SeriesCatalog.Proofs.Search.Answers
import SeriesCatalog.Proofs.Catalog.EndToEnd
import SeriesCatalog.Proofs.Catalog.SourceQuery
import SeriesCatalog.Proofs.Aggregation.Overflow
import SeriesCatalog.Proofs.Response.Overflow
import SeriesCatalog.Proofs.Search.MalformedReply
import SeriesCatalog.Proofs.Catalog.Reduction
import SeriesCatalog.Proofs.Catalog.Routing
import SeriesCatalog.Proofs.Search.Refusal
import SeriesCatalog.Proofs.Aggregation.Presence
import SeriesCatalog.Proofs.Catalog.Ceiling
import SeriesCatalog.Proofs.Telemetry.Counts
import SeriesCatalog.Proofs.Catalog.Accounting
import SeriesCatalog.Proofs.Outcome.Running
import SeriesCatalog.Proofs.Catalog.BatchOrder
import SeriesCatalog.Proofs.Catalog.DeclaredFaults
import SeriesCatalog.Proofs.Interpreter.Mismatches
import SeriesCatalog.Proofs.Interpreter.Effects
import SeriesCatalog.Proofs.Interpreter.TagKeys
import SeriesCatalog.Proofs.Series.Sorting
import SeriesCatalog.Proofs.Series.Canonical
import SeriesCatalog.Proofs.Text.Lower
import SeriesCatalog.Proofs.Search.Address
import SeriesCatalog.Proofs.Catalog.Scope
import SeriesCatalog.Proofs.Catalog.SourceRequest
import SeriesCatalog.Proofs.Search.Request
import SeriesCatalog.Proofs.Catalog.Interleaving
import SeriesCatalog.Proofs.Catalog.Envelope
import SeriesCatalog.Proofs.Aggregation.FirstFault
import SeriesCatalog.Proofs.Aggregation.Rearrangement
import SeriesCatalog.Proofs.Settings.Snapshot
import SeriesCatalog.Proofs.Outcome.Accumulator
import SeriesCatalog.Proofs.Json.Sameness
import SeriesCatalog.Proofs.Outcome.Serialization
import SeriesCatalog.Proofs.Text.Pieces
import SeriesCatalog.Proofs.Settings.Process
import SeriesCatalog.Proofs.Settings.Hosts
