import MetricsGateway.History
import MetricsGateway.Telemetry.SpanForest

/-!
Spans in the hands of a program. It makes spans, records fields on them, enters and leaves them and lets go
of them in any order, as far as it has them.
-/

namespace MetricsGateway

inductive SpanMove where
  | start (kind : SpanKind) (parent : Option Nat) (fields : Fields) (draw : SpanDraw)
  | record (i : Nat) (fields : Fields)
  | hold (i : Nat)
  | enter (i : Nat)
  | leave (i : Nat)
  | drop (i : Nat)

def SpanMove.isStart : SpanMove → Bool
  | start .. => true
  | _ => false

/-- What a move tells: the spans that it ends, and the records that it leaves. -/
structure SpanReport where
  ended : List Nat
  records : List SpanRecord

/-- The spans, and the place of the span for each handle that the program has. -/
structure SpanHandles where
  forest : SpanForest
  handles : List Nat

namespace SpanForest

/-- Something holds the span. -/
def isOpen (f : SpanForest) (i : Nat) : Bool := f.nodes[i]?.any (0 < ·.holds)

/-- The spans that are not open any more, the one made last before the others. -/
def endedIn (f g : SpanForest) : List Nat :=
  (List.range f.nodes.length).reverse.filter fun i => f.isOpen i && !g.isOpen i

end SpanForest

namespace SpanHandles

def new (sampler : Sampler) (exportLimit logLimit : LevelLimit) : SpanHandles :=
  ⟨.new sampler exportLimit logLimit, []⟩

def become (s : SpanHandles) (handles : List Nat) (out : List SpanRecord × SpanForest) :
    SpanReport × SpanHandles :=
  (⟨s.forest.endedIn out.2, out.1⟩, ⟨out.2, handles⟩)

/-- A move at some time. A parent is open, and so is a span that is recorded on, held once more or
entered; only what was entered is left, and only what a handle holds is dropped. -/
def move? (s : SpanHandles) : Nat × SpanMove → Option (SpanReport × SpanHandles)
  | (now, .start kind parent fields draw) =>
    if parent.all s.forest.isOpen then
      let (made, forest) := s.forest.start kind parent fields draw now
      some (s.become (made.toList ++ s.handles) ([], forest))
    else none
  | (_, .record i fields) =>
    if s.forest.isOpen i then some (s.become s.handles ([], s.forest.setFields i fields)) else none
  | (_, .hold i) =>
    if s.forest.isOpen i then some (s.become (i :: s.handles) ([], s.forest.hold i)) else none
  | (_, .enter i) =>
    if s.forest.isOpen i then some (s.become s.handles ([], s.forest.enter i)) else none
  | (now, .leave i) =>
    if s.forest.entered.any (·.1 = i) then some (s.become s.handles (s.forest.leave i now)) else none
  | (now, .drop i) =>
    if i ∈ s.handles then some (s.become (s.handles.erase i) (s.forest.release i now)) else none

def run? : SpanHandles → List (Nat × SpanMove) → Option (List SpanReport × SpanHandles) :=
  History.run? move?

end SpanHandles

end MetricsGateway
