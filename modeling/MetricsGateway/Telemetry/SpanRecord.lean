import MetricsGateway.Json.Value

/-!
Finished spans and the two forms in which they leave the gateway: one object to a line, and a
request of the OTLP protocol in JSON.
-/

namespace MetricsGateway

/-- A finished span; attributes stand in the order of their names, each name once. -/
structure SpanRecord where
  traceId : String
  spanId : String
  parentSpanId : Option String
  name : String
  target : String
  start : Nat
  finish : Nat
  attributes : List (String × Json)

namespace SpanRecord

/-- The span as one object; a root has no member for its parent. -/
def toJson (r : SpanRecord) : Json :=
  .obj ([("trace_id", Json.str r.traceId), ("span_id", .str r.spanId)] ++
    (match r.parentSpanId with
      | some id => [("parent_span_id", Json.str id)]
      | none => []) ++
    [("name", .str r.name), ("target", .str r.target), ("start_unix_nanos", .int r.start),
      ("end_unix_nanos", .int r.finish), ("attributes", .obj r.attributes)])

end SpanRecord

namespace Otlp

def version : String := "0.1.0"

/-- The value of an attribute. Whole numbers are written as text, and what is neither a truth value,
a number nor a text is written as the text of its structure. -/
def value : Json → Json
  | .bool b => .obj [("boolValue", .bool b)]
  | .int n => .obj [("intValue", .str (toString n))]
  | .float x => .obj [("doubleValue", .float x)]
  | .str s => .obj [("stringValue", .str s)]
  | other => .obj [("stringValue", .str other.text)]

def keyValue (key : String) (v : Json) : Json :=
  .obj [("key", .str key), ("value", value v)]

def span (r : SpanRecord) : Json :=
  .obj [("attributes", .arr (r.attributes.map fun (k, v) => keyValue k v)),
    ("endTimeUnixNano", .str (toString r.finish)), ("kind", .int 1), ("name", .str r.name),
    ("parentSpanId", .str (r.parentSpanId.getD "")), ("spanId", .str r.spanId),
    ("startTimeUnixNano", .str (toString r.start)), ("traceId", .str r.traceId)]

def body (service : String) (batch : List SpanRecord) : Json :=
  .obj [("resourceSpans", .arr [.obj [
    ("resource", .obj [("attributes", .arr [keyValue "service.name" (.str service)])]),
    ("scopeSpans", .arr [.obj [
      ("scope", .obj [("name", .str "observatorium"), ("version", .str version)]),
      ("spans", .arr (batch.map span))]])]])]

end Otlp

end MetricsGateway
