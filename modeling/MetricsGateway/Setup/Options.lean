import MetricsGateway.Json.Value
import MetricsGateway.Setup.Flags
import MetricsGateway.Time.Duration
import MetricsGateway.Url.Basic

/-!
The checked configuration of the gateway and its structured form.
-/

namespace MetricsGateway

structure ServerOptions where
  listen : String
  maxConnections : Nat
  gracePeriod : Duration
  deriving DecidableEq, Repr

structure LogOptions where
  name : String
  level : LogLevel
  format : LogFormat
  debug : Bool
  deriving DecidableEq, Repr

structure ProxyOptions where
  queryEndpoint : Url
  writeEndpoint : Url
  bufferCount : Nat
  bufferSize : Nat
  deriving DecidableEq, Repr

structure TracingOptions where
  exporter : TraceExporter
  endpoint : String
  samplerProbability : Float
  serviceName : String

structure Options where
  server : ServerOptions
  logging : LogOptions
  proxy : ProxyOptions
  tracing : TracingOptions
  profile : Bool

def Duration.toJson (d : Duration) : Json :=
  .obj [("secs", .int d.seconds), ("nanos", .int d.subsecond)]

/-- The values of all flags, before they are checked. The probability is shown as text. -/
def Flags.toJson (v : Flags) : Json :=
  .obj [("listen", .str v.listen), ("max_connections", .int v.maxConnections),
    ("grace_period", .str v.gracePeriod), ("debug_name", .str v.debugName),
    ("log_level", .str v.logLevel.name), ("log_format", .str v.logFormat.name),
    ("query", .str v.queryEndpoint), ("write", .str v.writeEndpoint),
    ("buffer_count", .int v.bufferCount), ("buffer_size", .int v.bufferSize),
    ("exporter", .str v.traceExporter.name), ("trace_endpoint", .str v.traceEndpoint),
    ("probability", .str (Number.displayText v.samplerProbability))]

namespace ServerOptions

def default : ServerOptions := ⟨Flags.default.listen, Flags.default.maxConnections, .fiveSeconds⟩

def toJson (o : ServerOptions) : Json :=
  .obj [("listen", .str o.listen), ("max_connections", .int o.maxConnections),
    ("grace_period", o.gracePeriod.toJson)]

end ServerOptions

namespace LogOptions

def default : LogOptions :=
  ⟨Flags.default.debugName, Flags.default.logLevel, Flags.default.logFormat, false⟩

def toJson (o : LogOptions) : Json :=
  .obj [("name", .str o.name), ("level", .str o.level.name), ("format", .str o.format.name),
    ("debug", .bool o.debug)]

end LogOptions

def ProxyOptions.toJson (o : ProxyOptions) : Json :=
  .obj [("query_endpoint", .str o.queryEndpoint.text), ("write_endpoint", .str o.writeEndpoint.text),
    ("buffer_count", .int o.bufferCount), ("buffer_size_bytes", .int o.bufferSize)]

namespace TracingOptions

def default : TracingOptions :=
  ⟨Flags.default.traceExporter, Flags.default.traceEndpoint, Flags.default.samplerProbability,
    Flags.default.debugName⟩

def toJson (o : TracingOptions) : Json :=
  .obj [("exporter", .str o.exporter.name), ("endpoint", .str o.endpoint),
    ("sampler_probability", .float o.samplerProbability), ("service_name", .str o.serviceName)]

end TracingOptions

def Options.toJson (o : Options) : Json :=
  .obj [("server", o.server.toJson), ("logging", o.logging.toJson), ("proxy", o.proxy.toJson),
    ("tracing", o.tracing.toJson), ("profile", .bool o.profile)]

end MetricsGateway
