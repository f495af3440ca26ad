import MetricsGateway.Number.Text
import MetricsGateway.Telemetry.Level

/-!
The flags of the gateway: their names, their values as given and what they stand for when they are
not given.
-/

namespace MetricsGateway

inductive LogLevel where
  | error
  | warn
  | info
  | debug
  deriving DecidableEq, Repr

namespace LogLevel

def level : LogLevel → Level
  | error => .error
  | warn => .warn
  | info => .info
  | debug => .debug

def name (l : LogLevel) : String := l.level.name

def all : List LogLevel := [error, warn, info, debug]

end LogLevel

inductive LogFormat where
  | logfmt
  | json
  deriving DecidableEq, Repr

namespace LogFormat

def name : LogFormat → String
  | logfmt => "logfmt"
  | json => "json"

def all : List LogFormat := [logfmt, json]

end LogFormat

inductive TraceExporter where
  | stdout
  | jaeger
  deriving DecidableEq, Repr

namespace TraceExporter

def name : TraceExporter → String
  | stdout => "stdout"
  | jaeger => "jaeger"

/-- The name with a capital, as log records show it. -/
def title : TraceExporter → String
  | stdout => "Stdout"
  | jaeger => "Jaeger"

def all : List TraceExporter := [stdout, jaeger]

end TraceExporter

inductive Flag where
  | listen
  | maxConnections
  | gracePeriod
  | debugName
  | logLevel
  | logFormat
  | queryEndpoint
  | writeEndpoint
  | bufferCount
  | bufferSize
  | traceExporter
  | traceEndpoint
  | samplerProbability
  deriving DecidableEq, Repr

namespace Flag

/-- All flags, in the order in which help lists them. -/
def all : List Flag :=
  [listen, maxConnections, gracePeriod, debugName, logLevel, logFormat, queryEndpoint,
    writeEndpoint, bufferCount, bufferSize, traceExporter, traceEndpoint, samplerProbability]

def name : Flag → String
  | listen => "listen"
  | maxConnections => "listen.max-connections"
  | gracePeriod => "grace-period"
  | debugName => "debug.name"
  | logLevel => "log.level"
  | logFormat => "log.format"
  | queryEndpoint => "metrics.query.endpoint"
  | writeEndpoint => "metrics.write.endpoint"
  | bufferCount => "proxy.buffer-count"
  | bufferSize => "proxy.buffer-size-bytes"
  | traceExporter => "trace.exporter"
  | traceEndpoint => "trace.exporter-endpoint"
  | samplerProbability => "trace.sampler-probability"

/-- What stands for the value of a flag in help and in messages. -/
def placeholder : Flag → String
  | listen => "LISTEN"
  | maxConnections => "MAX_CONNECTIONS"
  | gracePeriod => "GRACE_PERIOD"
  | debugName => "DEBUG_NAME"
  | logLevel => "LOG_LEVEL"
  | logFormat => "LOG_FORMAT"
  | queryEndpoint => "METRICS_QUERY_ENDPOINT"
  | writeEndpoint => "METRICS_WRITE_ENDPOINT"
  | bufferCount => "PROXY_BUFFER_COUNT"
  | bufferSize => "PROXY_BUFFER_SIZE_BYTES"
  | traceExporter => "TRACE_EXPORTER"
  | traceEndpoint => "TRACE_EXPORTER_ENDPOINT"
  | samplerProbability => "TRACE_SAMPLER_PROBABILITY"

def usage (f : Flag) : String :=
  "--" ++ f.name ++ " <" ++ f.placeholder ++ ">"

def ofName? (name : String) : Option Flag :=
  all.find? (·.name == name)

end Flag

structure Flags where
  listen : String
  maxConnections : Nat
  gracePeriod : String
  debugName : String
  logLevel : LogLevel
  logFormat : LogFormat
  queryEndpoint : String
  writeEndpoint : String
  bufferCount : Nat
  bufferSize : Nat
  traceExporter : TraceExporter
  traceEndpoint : String
  samplerProbability : Float

namespace Flags

/-- The values when no flag is given. -/
def default : Flags where
  listen := "0.0.0.0:8080"
  maxConnections := 10000
  gracePeriod := "5s"
  debugName := "observatorium"
  logLevel := .info
  logFormat := .logfmt
  queryEndpoint := ""
  writeEndpoint := ""
  bufferCount := 2048
  bufferSize := 4194304
  traceExporter := .jaeger
  traceEndpoint := "http://localhost:4318/v1/traces"
  samplerProbability := 0.1

def valueText (v : Flags) : Flag → String
  | .listen => v.listen
  | .maxConnections => toString v.maxConnections
  | .gracePeriod => v.gracePeriod
  | .debugName => v.debugName
  | .logLevel => v.logLevel.name
  | .logFormat => v.logFormat.name
  | .queryEndpoint => v.queryEndpoint
  | .writeEndpoint => v.writeEndpoint
  | .bufferCount => toString v.bufferCount
  | .bufferSize => toString v.bufferSize
  | .traceExporter => v.traceExporter.name
  | .traceEndpoint => v.traceEndpoint
  | .samplerProbability => Number.displayText v.samplerProbability

end Flags

end MetricsGateway
