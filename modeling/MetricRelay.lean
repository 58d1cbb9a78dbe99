import MetricRelay.Proofs.Sender.Ledger
import MetricRelay.Sender.Rehearsal
import MetricRelay.Proofs.Sender.Conservation
import MetricRelay.Proofs.Sender.Shutdown
import MetricRelay.Proofs.Sender.Dispatch
import MetricRelay.Proofs.Metric.Point
import MetricRelay.Proofs.Metric.Draft
import MetricRelay.Proofs.Sender.Recording
import MetricRelay.Proofs.Sender.Closing
import MetricRelay.Proofs.Sender.Sessions
import MetricRelay.Proofs.Sender.Aggregation
import MetricRelay.Proofs.Codec.ProtobufPayload
import MetricRelay.Proofs.Number.Decimal
import MetricRelay.Proofs.Number.Rounding
import MetricRelay.Proofs.Number.Shortest
import MetricRelay.Proofs.Number.Numeral
import MetricRelay.Proofs.Json.Parser
import MetricRelay.Proofs.Codec.JsonPayload
import MetricRelay.Proofs.Buffer
import MetricRelay.Proofs.Delivery.Client
import MetricRelay.Proofs.Sender.Commit
import MetricRelay.Proofs.Sender.Distribution
import MetricRelay.Proofs.Metric.Histogram
import MetricRelay.Proofs.Sender.Growth
import MetricRelay.Proofs.Sender.Feed
import MetricRelay.Proofs.Sender.Reports
import MetricRelay.Proofs.Codec.Transcoding
import MetricRelay.Proofs.Sender.Encoding
import MetricRelay.Proofs.Config.Overlay
import MetricRelay.Proofs.Config.Sources
import MetricRelay.Proofs.Config.Layers
import MetricRelay.Proofs.Sender.Submission
import MetricRelay.Proofs.Sender.Flushing
import MetricRelay.Proofs.Codec.Concatenation
import MetricRelay.Proofs.Codec.Truncation
import MetricRelay.Proofs.Duration
import MetricRelay.Proofs.Delivery.Backoff
import MetricRelay.Proofs.Delivery.Exhaustion
import MetricRelay.Proofs.Metric.Fault
import MetricRelay.Proofs.Number.Reading
import MetricRelay.Proofs.Sender.Buckets
import MetricRelay.Proofs.Metric.Saturation
import MetricRelay.Proofs.Sender.Increments
import MetricRelay.Proofs.Sender.Building
import MetricRelay.Proofs.Config.Required
import MetricRelay.Proofs.Sender.Options
import MetricRelay.Proofs.Config.Lookup
import MetricRelay.Proofs.Config.Variables
import MetricRelay.Proofs.Sender.Rehearsal
