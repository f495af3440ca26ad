import MetricsGateway.Process.Services
import MetricsGateway.Telemetry.Logging
import MetricsGateway.Telemetry.SpanHandles
import MetricsGateway.Traffic.Gateway

/-!
The spans of a whole run: one for the run, one for each actor inside it, one for each connection inside
that of the server, and one for each request. The span of a connection is wanted by a talkative log
only. A request is served inside the span of its connection, if that was made. Where requests share a
connection, each one has a task of its own, which is inside no span.
-/

namespace MetricsGateway

/-- When the first spans of a run are made, and what is drawn for them. -/
structure RunBeginning where
  run : Nat × SpanDraw
  signals : Nat × SpanDraw
  server : Nat × SpanDraw

/-- A connection is accepted, or a request comes on one, by its place in the order of accepting. It is
served in the task of the connection or in a task of its own. All else is done with spans that are
there. -/
inductive RunSpanMove where
  | connect (peer : String) (draw : SpanDraw)
  | request (connection : Nat) (ownTask : Bool) (r : Request) (draw : SpanDraw)
  | other (move : SpanMove)

/-- The filter of the log, the spans, and for each connection its span, if it was made. -/
structure RunSpans where
  log : LogFilter
  spans : SpanHandles
  connections : List (Option Nat)

namespace RunSpans

def target : String := "observatorium::lifecycle::startup"

def scope (o : Options) : Scope :=
  ⟨⟨"observatorium", .info, target⟩, [("name", .shown o.logging.name)]⟩

/-- The place of the server's span, after those of the run and of the actor before it. -/
def serverPlace : Nat := 2

/-- The spans of the run and of its actors. No more than what somebody wants is ever asked for. -/
def begin (o : Options) (sampler : Sampler) (log : LogFilter) (b : RunBeginning) : RunSpans :=
  let start (f : SpanForest) (parent : Option Nat) (s : Scope) (made : Nat × SpanDraw) : SpanForest :=
    (f.start s.kind parent s.fields made.2 made.1).2
  let run := start (.new sampler .exported (.upTo .trace)) none (scope o) b.run
  let watching := start run (some 0) (Group.scope "signals") b.signals
  let serving := start watching (some 0) (Group.scope "server") b.server
  ⟨log, ⟨serving, [2, 1, 0]⟩, []⟩

def start (parent : Option Nat) (s : Scope) (draw : SpanDraw) : SpanMove :=
  .start s.kind parent s.fields draw

/-- A move at some time. The log is asked for each connection whether it wants its span. The server
makes it, whose task is inside the span of its actor. -/
def move? (s : RunSpans) : Nat × RunSpanMove → Option (SpanReport × RunSpans)
  | (now, .connect peer draw) =>
    let scope := Server.connectionScope (s.connections.length + 1) peer
    if s.log.admitsScope [Group.scope "server"] scope then
      (s.spans.move? (now, start (some serverPlace) scope draw)).map fun (report, spans) =>
        let made := some s.spans.forest.nodes.length
        (report, { s with spans, connections := s.connections ++ [made] })
    else some (⟨[], []⟩, { s with connections := s.connections ++ [none] })
  | (now, .request connection ownTask r draw) =>
    s.connections[connection]?.bind fun around =>
      let parent := if ownTask then none else around
      (s.spans.move? (now, start parent (Gateway.scope r) draw)).map fun (report, spans) =>
        (report, { s with spans })
  | (now, .other move) =>
    if move.isStart then none
    else (s.spans.move? (now, move)).map fun (report, spans) => (report, { s with spans })

def run? : RunSpans → List (Nat × RunSpanMove) → Option (List SpanReport × RunSpans) :=
  History.run? move?

/-- The records of a run in which nobody connects and whose actors end in the given order. -/
def idleRecords (o : Options) (log : LogFilter) (ended : List String) : List SpanRecord :=
  let made (n : Nat) : Nat × SpanDraw := (n, ⟨n, n, 0.5⟩)
  let places := ended.map (Services.names.idxOf · + 1) ++ [0]
  let moves := places.zipIdx.map fun (place, n) => (n + 4, RunSpanMove.other (.drop place))
  let begun := begin o (.ofProbability o.tracing.samplerProbability) log ⟨made 1, made 2, made 3⟩
  match begun.run? moves with
  | some (reports, _) => reports.flatMap (·.records)
  | none => []

end RunSpans

end MetricsGateway
