import MetricsGateway.Actor.Exit
import MetricsGateway.Actor.Group
import MetricsGateway.Actor.GroupRun
import MetricsGateway.Actor.Identity
import MetricsGateway.Actor.Rehearsal
import MetricsGateway.Actor.Signals
import MetricsGateway.Actor.StopFlag
import MetricsGateway.Actor.StopListeners
import MetricsGateway.Actor.Watching
import MetricsGateway.Connections.Backoff
import MetricsGateway.Connections.Drill
import MetricsGateway.Connections.DrillPages
import MetricsGateway.Connections.Exchange
import MetricsGateway.Connections.Ledger
import MetricsGateway.Connections.Listener
import MetricsGateway.Connections.Server
import MetricsGateway.Connections.SharedGauge
import MetricsGateway.Connections.SocketAddress
import MetricsGateway.Failure.Basic
import MetricsGateway.Failure.System
import MetricsGateway.History
import MetricsGateway.Json.Access
import MetricsGateway.Json.Reader
import MetricsGateway.Json.Value
import MetricsGateway.Main
import MetricsGateway.Number.Binary64
import MetricsGateway.Number.Literal
import MetricsGateway.Number.Shortest
import MetricsGateway.Number.Text
import MetricsGateway.Number.Unsigned
import MetricsGateway.Pool
import MetricsGateway.Process.Closing
import MetricsGateway.Process.Frontend
import MetricsGateway.Process.Launch
import MetricsGateway.Process.RunSpans
import MetricsGateway.Process.Services
import MetricsGateway.Process.Startup
import MetricsGateway.Proofs.Connections.Backoff
import MetricsGateway.Proofs.Connections.Census
import MetricsGateway.Proofs.Connections.Ledger
import MetricsGateway.Proofs.Connections.SharedGauge
import MetricsGateway.Proofs.Group.Account
import MetricsGateway.Proofs.Group.Arrivals
import MetricsGateway.Proofs.Group.FanOut
import MetricsGateway.Proofs.Group.Return
import MetricsGateway.Proofs.Number.Unsigned
import MetricsGateway.Proofs.Process.LastSpans
import MetricsGateway.Proofs.Process.PoolLimits
import MetricsGateway.Proofs.Process.RequestSpans
import MetricsGateway.Proofs.Server.Closing
import MetricsGateway.Proofs.Server.Draining
import MetricsGateway.Proofs.Server.Fits
import MetricsGateway.Proofs.Server.Forced
import MetricsGateway.Proofs.Server.Interrupted
import MetricsGateway.Proofs.Server.Lifecycle
import MetricsGateway.Proofs.Server.Moves
import MetricsGateway.Proofs.Server.Overlap
import MetricsGateway.Proofs.Server.PassingFaults
import MetricsGateway.Proofs.Server.Permits
import MetricsGateway.Proofs.Server.Retries
import MetricsGateway.Proofs.Services.Linked
import MetricsGateway.Proofs.Services.Outcome
import MetricsGateway.Proofs.Services.Return
import MetricsGateway.Proofs.Setup.ListenAddress
import MetricsGateway.Proofs.Setup.Validation
import MetricsGateway.Proofs.Stop.Flag
import MetricsGateway.Proofs.Stop.Listeners
import MetricsGateway.Proofs.Stop.Once
import MetricsGateway.Proofs.Telemetry.Batches
import MetricsGateway.Proofs.Telemetry.Handles
import MetricsGateway.Proofs.Telemetry.Holds
import MetricsGateway.Proofs.Telemetry.Otlp
import MetricsGateway.Proofs.Telemetry.Outline
import MetricsGateway.Proofs.Telemetry.Scripts
import MetricsGateway.Proofs.Telemetry.Story
import MetricsGateway.Proofs.Telemetry.Traces
import MetricsGateway.Proofs.Text.Case
import MetricsGateway.Proofs.Text.Composed
import MetricsGateway.Proofs.Text.Cuts
import MetricsGateway.Proofs.Text.Parts
import MetricsGateway.Proofs.Text.Stretches
import MetricsGateway.Proofs.Time.Grammar
import MetricsGateway.Proofs.Time.Sums
import MetricsGateway.Proofs.Traffic.Buffers
import MetricsGateway.Proofs.Traffic.Copies
import MetricsGateway.Proofs.Traffic.Counts
import MetricsGateway.Proofs.Traffic.Destinations
import MetricsGateway.Proofs.Traffic.Fields
import MetricsGateway.Proofs.Traffic.Forwarded
import MetricsGateway.Proofs.Traffic.HopByHop
import MetricsGateway.Proofs.Traffic.Labels
import MetricsGateway.Proofs.Traffic.QueryPath
import MetricsGateway.Proofs.Traffic.RequestId
import MetricsGateway.Proofs.Url.Addresses
import MetricsGateway.Proofs.Url.Appended
import MetricsGateway.Proofs.Url.Authority
import MetricsGateway.Proofs.Url.Containment
import MetricsGateway.Proofs.Url.Decoding
import MetricsGateway.Proofs.Url.Faithful
import MetricsGateway.Proofs.Url.Forwardable
import MetricsGateway.Proofs.Url.ForwardedTarget
import MetricsGateway.Proofs.Url.RereadAuthority
import MetricsGateway.Proofs.Url.Rereading
import MetricsGateway.Proofs.Url.Segments
import MetricsGateway.Proofs.Url.Sound
import MetricsGateway.Proofs.Watchers.FirstSignal
import MetricsGateway.Setup.CommandLine
import MetricsGateway.Setup.Flags
import MetricsGateway.Setup.Help
import MetricsGateway.Setup.ListenAddress
import MetricsGateway.Setup.Options
import MetricsGateway.Setup.Validation
import MetricsGateway.Telemetry.ExportLoop
import MetricsGateway.Telemetry.Level
import MetricsGateway.Telemetry.LogFilter
import MetricsGateway.Telemetry.LogRecord
import MetricsGateway.Telemetry.Logging
import MetricsGateway.Telemetry.Metrics
import MetricsGateway.Telemetry.Observed
import MetricsGateway.Telemetry.Sampler
import MetricsGateway.Telemetry.SpanExport
import MetricsGateway.Telemetry.SpanForest
import MetricsGateway.Telemetry.SpanHandles
import MetricsGateway.Telemetry.SpanRecord
import MetricsGateway.Telemetry.SpanScript
import MetricsGateway.Text.Alphanumeric
import MetricsGateway.Text.CodeRuns
import MetricsGateway.Text.Composition
import MetricsGateway.Text.Direction
import MetricsGateway.Text.Joining
import MetricsGateway.Text.Punycode
import MetricsGateway.Text.Quoted
import MetricsGateway.Text.Space
import MetricsGateway.Text.Utf8
import MetricsGateway.Text.Visible
import MetricsGateway.Time.Duration
import MetricsGateway.Time.DurationText
import MetricsGateway.Time.UnixTime
import MetricsGateway.Traffic.Body
import MetricsGateway.Traffic.Chunked
import MetricsGateway.Traffic.Forwarding
import MetricsGateway.Traffic.Forwards
import MetricsGateway.Traffic.Gateway
import MetricsGateway.Traffic.Handler
import MetricsGateway.Traffic.Header
import MetricsGateway.Traffic.Inbound
import MetricsGateway.Traffic.Message
import MetricsGateway.Traffic.Pieces
import MetricsGateway.Traffic.Proxy
import MetricsGateway.Traffic.Reply
import MetricsGateway.Traffic.Route
import MetricsGateway.Traffic.Session
import MetricsGateway.Traffic.Status
import MetricsGateway.Traffic.Visits
import MetricsGateway.Traffic.Wire
import MetricsGateway.Url.Address
import MetricsGateway.Url.Basic
import MetricsGateway.Url.Domain
import MetricsGateway.Url.DomainMapping
import MetricsGateway.Url.Path
import MetricsGateway.Url.Percent
import MetricsGateway.Url.Target
