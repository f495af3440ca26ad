import MetricsGateway.History
import MetricsGateway.Telemetry.SpanExport

/-!
The task that exports spans. Finished spans, demands to send what there is and the end of all spans reach
it through a channel; its interval passes at any time. It deals with one event after the other, and where
one asks for a batch to be handed over, it waits for how that ends before it takes the next.
-/

namespace MetricsGateway

namespace ExportEvent

def span? : ExportEvent α → Option α
  | span record => some record
  | _ => none

/-- The spans among some events, in order. -/
def spans (events : List (ExportEvent α)) : List α := events.filterMap span?

def isFlush : ExportEvent α → Bool
  | flush => true
  | _ => false

def isClose : ExportEvent α → Bool
  | close => true
  | _ => false

/-- All but the passing of the interval comes through the channel. -/
def isSent : ExportEvent α → Bool
  | tick => false
  | _ => true

end ExportEvent

/-- The task waits for an event, hands over a batch because of one, or is over. -/
inductive ExportPhase (α : Type) where
  | waiting
  | exporting (batch : List α) (cause : ExportEvent α)
  | over

/-- What is in the channel and whether more can be sent, the current batch, and where the task stands. -/
structure ExportLoop (α : Type) where
  exporter : TraceExporter
  channel : List (ExportEvent α)
  isOpen : Bool
  batch : List α
  phase : ExportPhase α

/-- Something is sent, the task receives it, its interval passes, or handing over a batch ends: it is
printed, or it is delivered or not. -/
inductive ExportMove (α : Type) where
  | send (e : ExportEvent α)
  | receive
  | tick
  | printed
  | delivered (d : SpanExport.Delivery)

/-- What a move tells: the event that the task takes, the batch that it begins to hand over, whether a
flush is answered, and records. -/
structure ExportReport (α : Type) where
  taken : Option (ExportEvent α)
  handed : Option (List α)
  answered : Bool
  records : List LogRecord

def ExportReport.silent : ExportReport α := ⟨none, none, false, []⟩

namespace ExportLoop

def new (exporter : TraceExporter) : ExportLoop α := ⟨exporter, [], true, [], .waiting⟩

/-- An event is dealt with: a flush is answered, and the task goes on until the end of all spans. -/
def conclude (s : ExportLoop α) (e : ExportEvent α) (records : List LogRecord) :
    ExportReport α × ExportLoop α :=
  (⟨none, none, e.isFlush, records⟩, { s with phase := if e.isClose then .over else .waiting })

def take (s : ExportLoop α) (e : ExportEvent α) : ExportReport α × ExportLoop α :=
  match SpanExport.step s.batch e with
  | (some out, batch) => (⟨some e, some out, false, []⟩, { s with batch, phase := .exporting out e })
  | (none, batch) =>
    let (report, s) := { s with batch }.conclude e []
    ({ report with taken := some e }, s)

def move? (s : ExportLoop α) : ExportMove α → Option (ExportReport α × ExportLoop α)
  | .send e =>
    if s.isOpen && e.isSent then
      some (.silent, { s with channel := s.channel ++ [e], isOpen := !e.isClose })
    else none
  | .receive =>
    match s.phase, s.channel with
    | .waiting, e :: rest => some ({ s with channel := rest }.take e)
    | _, _ => none
  | .tick =>
    match s.phase with
    | .waiting => some (s.take .tick)
    | _ => none
  | .printed =>
    match s.exporter, s.phase with
    | .stdout, .exporting _ cause => some (s.conclude cause [])
    | _, _ => none
  | .delivered d =>
    match s.exporter, s.phase with
    | .jaeger, .exporting batch cause => some (s.conclude cause [SpanExport.delivered batch.length d])
    | _, _ => none

def run? : ExportLoop α → List (ExportMove α) → Option (List (ExportReport α) × ExportLoop α) :=
  History.run? move?

end ExportLoop

end MetricsGateway
