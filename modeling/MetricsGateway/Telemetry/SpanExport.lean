import MetricsGateway.Setup.Options
import MetricsGateway.Telemetry.LogRecord
import MetricsGateway.Telemetry.SpanRecord
import MetricsGateway.Traffic.Status
import MetricsGateway.Url.Target

/-!
How finished spans leave the gateway: they are gathered in batches, and each batch is printed or sent
to a collector.
-/

namespace MetricsGateway

/-- What reaches the exporter: a finished span, the demand to send what there is, the end of all
spans, and the passing of the interval. -/
inductive ExportEvent (α : Type) where
  | span (record : α)
  | flush
  | close
  | tick

namespace SpanExport

def target : String := "observatorium::observability::tracing"

def batchLimit : Nat := 512

/-- Takes an event into the current batch: the batch that is handed over, if any, and the new current
batch. Empty batches are not handed over. -/
def step (batch : List α) : ExportEvent α → Option (List α) × List α
  | .span record =>
    let batch := batch ++ [record]
    if batchLimit ≤ batch.length then (some batch, []) else (none, batch)
  | _ => if batch.isEmpty then (none, []) else (some batch, [])

/-- The batches handed over during some events, and the batch after them. -/
def run (batch : List α) : List (ExportEvent α) → List (List α) × List α
  | [] => ([], batch)
  | e :: rest =>
    let (out, batch) := step batch e
    let (more, batch) := run batch rest
    (out.toList ++ more, batch)

def started (o : TracingOptions) : LogRecord :=
  ⟨.info, target, [], "Trace exporter started",
    [("exporter", .shown o.exporter.title), ("endpoint", .shown o.endpoint),
      ("sampler_probability", .number o.samplerProbability)]⟩

/-- How sending a batch ends: refused before it is sent, not answered, or answered. -/
inductive Delivery where
  | unsendable (url : Option String)
  | unanswered (url : String)
  | answered (status : Nat)
  deriving DecidableEq, Repr

def delivered (spans : Nat) : Delivery → LogRecord
  | .unsendable url =>
    let place := match url with
      | some u => " for url (" ++ u ++ ")"
      | none => ""
    ⟨.warn, target, [], "Span export failed",
      [("error", .shown ("builder error" ++ place)), ("spans", .count spans)]⟩
  | .unanswered url =>
    ⟨.warn, target, [], "Span export failed",
      [("error", .shown ("error sending request for url (" ++ url ++ ")")), ("spans", .count spans)]⟩
  | .answered status =>
    if Status.isSuccess status then
      ⟨.debug, target, [], "Exported spans", [("spans", .count spans)]⟩
    else
      ⟨.warn, target, [], "Span export rejected",
        [("status", .shown (Status.text status)), ("spans", .count spans)]⟩

/-- Where batches go: the URL without user information, and the path and query that are asked for. -/
structure Destination where
  url : Url
  path : String

/-- Reads an endpoint; what cannot be asked for is refused with its address, as far as it has one. -/
def destination (endpoint : String) : Except Delivery Destination :=
  match Url.read endpoint with
  | .error (.unsupportedScheme _) => .error (.unsendable (some endpoint))
  | .error _ => .error (.unsendable none)
  | .ok url =>
    let url := { url with username := [], password := [] }
    match Target.read url.text with
    | .error _ => .error (.unsendable (some url.text))
    | .ok t =>
      let query := match t.query with
        | some q => "?" ++ String.ofList q
        | none => ""
      .ok ⟨url, String.ofList t.path ++ query⟩

/-- A collector that listens at an address, and the status that it answers with. -/
structure Collector where
  host : Host
  port : Nat
  status : Nat

def Collector.receives (c : Collector) (url : Url) : Bool :=
  url.scheme = .http && url.host = c.host && url.port.getD url.scheme.defaultPort = c.port

/-- The path at which the collector gets a batch, if it gets it, and how sending it ends. -/
def send (endpoint : String) (collector : Option Collector) : Option String × Delivery :=
  match destination endpoint with
  | .error d => (none, d)
  | .ok d =>
    match collector.filter (·.receives d.url) with
    | some c =>
      (some d.path, if 200 ≤ c.status && c.status < 1000 then .answered c.status
        else .unanswered d.url.text)
    | none => (none, .unanswered d.url.text)

end SpanExport

end MetricsGateway
