import CpuUsage.Application.Json
import CpuUsage.Main
import CpuUsage.Proofs.Conversation
import CpuUsage.Proofs.Instant
import CpuUsage.Proofs.Processes.Reads
import CpuUsage.Proofs.SortedMap
import CpuUsage.Report.Json
import CpuUsage.Settings.Json
import CpuUsage.Usage.Json
import CpuUsage.Proofs.Processes.Store
import CpuUsage.Proofs.Usage.Fetch
import CpuUsage.Proofs.Report.Conversation
import CpuUsage.Proofs.Usage.Spike
import CpuUsage.Proofs.Report.Instance
import CpuUsage.Proofs.Report.Fleet
import CpuUsage.Proofs.Report.Application
import CpuUsage.Proofs.Correspondence
import CpuUsage.Proofs.Usage.Order
import CpuUsage.Proofs.Report.Order
import CpuUsage.Proofs.MetricsStore
import CpuUsage.Proofs.Api
import CpuUsage.Proofs.Report.Text
import CpuUsage.Proofs.Program
import CpuUsage.Proofs.Request
import CpuUsage.Proofs.Usage.Malformed
import CpuUsage.Proofs.Json.Fields
import CpuUsage.Proofs.MetricsStore.Unreadable
import CpuUsage.Proofs.MetricsStore.Readable
import CpuUsage.Proofs.Usage.Isolation
import CpuUsage.Proofs.Catalog
import CpuUsage.Proofs.Failure
import CpuUsage.Proofs.Hint
import CpuUsage.Proofs.Text.Digits
import CpuUsage.Proofs.Json.Number
import CpuUsage.Proofs.Json.Text
import CpuUsage.Proofs.Json.Grammar
import CpuUsage.Proofs.Json.Soundness
import CpuUsage.Proofs.Calendar
import CpuUsage.Proofs.Rfc3339
import CpuUsage.Proofs.Json.Codec
import CpuUsage.Proofs.RoundTrip
import CpuUsage.Proofs.Usage.Current
import CpuUsage.Proofs.Wire
import CpuUsage.Proofs.Text.Blank
import CpuUsage.Proofs.Credentials
import CpuUsage.Proofs.Settings.Layers
import CpuUsage.Proofs.Binary64.Rounding
import CpuUsage.Proofs.Binary64.Shortest
import CpuUsage.Proofs.Json.Finite
import CpuUsage.Proofs.Report.Origin
import CpuUsage.Proofs.Report.Json
import CpuUsage.Proofs.Usage.Arrival
import CpuUsage.Proofs.Usage.LastRun
import CpuUsage.Proofs.Processes.Course
import CpuUsage.Proofs.Text.Split
import CpuUsage.Proofs.Text.Integer
import CpuUsage.Proofs.Url.Form
import CpuUsage.Proofs.Url.Plain
import CpuUsage.Proofs.MetricsStore.Envelopes
import CpuUsage.Proofs.MetricsStore.Cursor
import CpuUsage.Proofs.Settings.Window
import CpuUsage.Proofs.MetricsStore.Range
import CpuUsage.Proofs.Settings.Checks
import CpuUsage.Proofs.Url.Punycode
import CpuUsage.Proofs.Url.Domain
import CpuUsage.Proofs.Url.Host
import CpuUsage.Proofs.Url.Metrics
import CpuUsage.Proofs.Url.Percent
import CpuUsage.Proofs.Url.Segment
import CpuUsage.Proofs.MetricsStore.Source
