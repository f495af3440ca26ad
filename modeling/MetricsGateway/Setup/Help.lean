import MetricsGateway.Setup.Flags

/-!
The help texts: the long one gives each flag room of its own and explains its values, the short one
keeps to one line for each.
-/

namespace MetricsGateway

namespace Flag

def about : Flag → String
  | listen => "The address on which the internal server runs"
  | maxConnections => "Maximum number of concurrently open client connections"
  | gracePeriod => "The time to wait for in-flight requests after shutdown starts"
  | debugName => "The name to add to log lines"
  | logLevel => "The log filtering level"
  | logFormat => "The log format to use"
  | queryEndpoint => "The endpoint against which to query for metrics"
  | writeEndpoint => "The endpoint against which to make write requests for metrics"
  | bufferCount => "Maximum number of reusable buffers used for copying HTTP reverse proxy responses"
  | bufferSize => "Size (bytes) of each reusable proxy buffer"
  | traceExporter => "The trace exporter to use"
  | traceEndpoint => "The endpoint to which trace spans are sent"
  | samplerProbability => "The trace sampler probability to use"

/-- The values that a flag can take, when they are few, each with its explanation if it has one. -/
def choices : Flag → List (String × String)
  | logLevel => LogLevel.all.map fun l => (l.name, "")
  | logFormat =>
    [("logfmt",
        "Plain text: timestamp, level, target and message, then the fields as `key=value`"),
      ("json", "One JSON object per line")]
  | traceExporter =>
    [("stdout", "One JSON object per span on stdout"),
      ("jaeger", "OTLP/HTTP JSON batches posted to a Jaeger (or any OTLP) collector")]
  | _ => []

/-- The default value in brackets; an empty one is shown as quotation marks. -/
def defaultNote (f : Flag) : String :=
  let value := Flags.default.valueText f
  "[default: " ++ (if value.isEmpty then "\"\"" else value) ++ "]"

def choiceNote (f : Flag) : String :=
  "[possible values: " ++ ", ".intercalate (f.choices.map (·.1)) ++ "]"

end Flag

namespace Help

def blanks (n : Nat) : String := String.ofList (List.replicate n ' ')

def margin : String := blanks 10

def heading : List String :=
  ["Metrics API gateway with coordinated graceful shutdown", "",
    "Usage: observatorium [OPTIONS]", "", "Options:"]

def explained (f : Flag) : List String :=
  let width := (f.choices.map (·.1.length)).foldl max 0
  f.choices.map fun (name, explanation) =>
    margin ++ "- " ++ name ++ ":" ++ blanks (width - name.length + 1) ++ explanation

def longEntry (f : Flag) : List String :=
  let first := [blanks 6 ++ f.usage, margin ++ f.about]
  if f.choices.isEmpty then first ++ [margin, margin ++ f.defaultNote, ""]
  else if f.choices.all (·.2.isEmpty) then
    first ++ [margin, margin ++ f.defaultNote, margin ++ f.choiceNote, ""]
  else
    first ++ ["", margin ++ "Possible values:"] ++ explained f ++
      [margin, margin ++ f.defaultNote, ""]

def shortEntry (f : Flag) : List String :=
  let notes := if f.choices.isEmpty then f.defaultNote else f.defaultNote ++ " " ++ f.choiceNote
  [blanks 6 ++ f.usage, margin ++ f.about ++ " " ++ notes]

def text (long : Bool) : String :=
  let entries := Flag.all.flatMap (if long then longEntry else shortEntry)
  let other := if long then "a summary with '-h'" else "more with '--help'"
  let last := ["  -h, --help", margin ++ "Print help (see " ++ other ++ ")"]
  String.join ((heading ++ entries ++ last).map (· ++ "\n"))

end Help

end MetricsGateway
