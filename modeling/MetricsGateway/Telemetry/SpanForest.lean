import MetricsGateway.Telemetry.LogRecord
import MetricsGateway.Telemetry.Sampler
import MetricsGateway.Telemetry.SpanRecord

/-!
Open spans. A span is held by its handle, by each time it was entered, and by each of its children;
it ends when nothing holds it any more, and leaves a record if the root of its trace was sampled.
-/

namespace MetricsGateway

/-- The numbers drawn for a span: for its trace if it is a root, for itself, and for the sampling
decision. -/
structure SpanDraw where
  traceId : Nat
  spanId : Nat
  chance : Float

/-- What a child takes over from its parent, and the number of the span itself. -/
structure SpanContext where
  traceId : Nat
  spanId : Nat
  sampled : Bool
  deriving DecidableEq, Repr

/-- An open or ended span. Its parent is given by place; `exported` tells whether the limit on
exported spans admits it. -/
structure SpanNode where
  kind : SpanKind
  parent : Option Nat
  holds : Nat
  exported : Bool
  context : SpanContext
  parentSpanId : Option Nat
  start : Nat
  attributes : List (String × Json)

/-- The spans in the order in which they were made, and those entered, the current one first. A
span entered while it is entered already is marked. -/
structure SpanForest where
  sampler : Sampler
  exportLimit : LevelLimit
  logLimit : LevelLimit
  nodes : List SpanNode
  entered : List (Nat × Bool)

namespace SpanNode

/-- Attributes are data; a double that is not finite has no value there. -/
def attributeValue : FieldValue → Json
  | .number x => if x.isFinite then .float x else .null
  | v => v.toJson

/-- Later values of a field replace earlier ones. -/
def withFields (n : SpanNode) (fields : Fields) : SpanNode :=
  { n with
    attributes := fields.foldl (fun kept (name, v) => insertByKey name (attributeValue v) kept) n.attributes }

def record? (n : SpanNode) (now : Nat) : Option SpanRecord :=
  if n.exported && n.context.sampled then
    some ⟨Text.hexPadded 32 n.context.traceId, Text.hexPadded 16 n.context.spanId,
      n.parentSpanId.map (Text.hexPadded 16), n.kind.name, n.kind.target, n.start, now, n.attributes⟩
  else none

end SpanNode

namespace SpanForest

def new (sampler : Sampler) (exportLimit logLimit : LevelLimit) : SpanForest :=
  ⟨sampler, exportLimit, logLimit, [], []⟩

/-- The span that new spans have for their parent. -/
def current? (f : SpanForest) : Option Nat :=
  (f.entered.find? fun (_, again) => !again).map (·.1)

/-- The closest exported span, from a place upwards. -/
def exportedFrom? (f : SpanForest) (i : Nat) : Option SpanNode :=
  match f.nodes[i]? with
  | none => none
  | some n =>
    if n.exported then some n
    else match n.parent with
      | some p => if _h : p < i then f.exportedFrom? p else none
      | none => none
  termination_by i

def hold (f : SpanForest) (i : Nat) : SpanForest :=
  { f with nodes := f.nodes.modify i fun n => { n with holds := n.holds + 1 } }

/-- A new span held by its handle. A span that nobody wants is not made. -/
def start (f : SpanForest) (kind : SpanKind) (parent : Option Nat) (fields : Fields)
    (draw : SpanDraw) (now : Nat) : Option Nat × SpanForest :=
  let exported := f.exportLimit.admits kind.level
  if !exported && !f.logLimit.admits kind.level then (none, f)
  else
    let above := (parent.bind f.exportedFrom?).map (·.context)
    let context : SpanContext :=
      match above with
      | some c => ⟨c.traceId, draw.spanId, c.sampled⟩
      | none => ⟨draw.traceId, draw.spanId, f.sampler.samples draw.chance⟩
    let node : SpanNode :=
      ⟨kind, parent, 1, exported, context, above.map (·.spanId), now, []⟩
    let f := match parent with
      | some p => f.hold p
      | none => f
    (some f.nodes.length, { f with nodes := f.nodes ++ [node.withFields fields] })

def setFields (f : SpanForest) (i : Nat) (fields : Fields) : SpanForest :=
  { f with nodes := f.nodes.modify i (·.withFields fields) }

/-- Lets go of a span once. The last hold ends the span, which then lets go of its parent. -/
def release (f : SpanForest) (i now : Nat) : List SpanRecord × SpanForest :=
  match f.nodes[i]? with
  | none => ([], f)
  | some n =>
    if n.holds = 0 then ([], f)
    else
      let g := { f with nodes := f.nodes.set i { n with holds := n.holds - 1 } }
      if n.holds = 1 then
        let own := (n.record? now).toList
        match n.parent with
        | none => (own, g)
        | some p =>
          if _h : p < i then
            let (more, g) := g.release p now
            (own ++ more, g)
          else (own, g)
      else ([], g)
  termination_by i

def enter (f : SpanForest) (i : Nat) : SpanForest :=
  let again := f.entered.any (·.1 = i)
  { f.hold i with entered := (i, again) :: f.entered }

def leave (f : SpanForest) (i now : Nat) : List SpanRecord × SpanForest :=
  let g := { f with entered := f.entered.eraseP (·.1 = i) }
  g.release i now

end SpanForest

end MetricsGateway
