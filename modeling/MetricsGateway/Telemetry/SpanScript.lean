import MetricsGateway.Telemetry.SpanForest

/-!
Histories of spans that are named by texts: starting, recording, entering, leaving and closing them,
and the records that they leave.
-/

namespace MetricsGateway

/-- The parent of a new span: the current span, none, or the one with an open handle of this name. -/
inductive SpanParent where
  | current
  | none
  | named (id : String)
  deriving DecidableEq, Repr

inductive SpanStep where
  | start (id : String) (kind : SpanKind) (parent : SpanParent) (fields : Fields)
  | record (id : String) (fields : Fields)
  | enter (id : String)
  | leave (id : String)
  | close (id : String)
  | burst (count : Nat)

/-- The forest, the handles by name, the spans entered under each name with the latest first, and
how many spans were made and steps taken. A handle or entry of a span that nobody wanted is none. -/
structure SpanScript where
  forest : SpanForest
  handles : List (String × Option Nat)
  entries : List (String × Option Nat)
  made : Nat
  now : Nat

namespace SpanScript

def kind (name : String) (level : Level) : SpanKind := ⟨name, level, "gateway"⟩

def new (forest : SpanForest) : SpanScript := ⟨forest, [], [], 0, 0⟩

def draw (s : SpanScript) : SpanDraw := ⟨s.made + 1, s.made + 1, 0.5⟩

def parentOf (s : SpanScript) : SpanParent → Option Nat
  | .current => s.forest.current?
  | .none => none
  | .named id => (s.handles.lookup id).join

def release (s : SpanScript) (i : Option Nat) : List SpanRecord × SpanScript :=
  match i with
  | none => ([], s)
  | some i => let (records, forest) := s.forest.release i s.now; (records, { s with forest })

def start (s : SpanScript) (kind : SpanKind) (parent : Option Nat) (fields : Fields) :
    Option Nat × SpanScript :=
  let (i, forest) := s.forest.start kind parent fields s.draw s.now
  (i, { s with forest, made := s.made + 1 })

def burst (s : SpanScript) (i : Nat) : Nat → List SpanRecord × SpanScript
  | 0 => ([], s)
  | n + 1 =>
    let (made, s) := s.start (kind "job" .error) s.forest.current? [("status", .count i)]
    let (records, s) := s.release made
    let (more, s) := s.burst (i + 1) n
    (records ++ more, s)

def leave (s : SpanScript) (i : Option Nat) : List SpanRecord × SpanScript :=
  match i with
  | none => ([], s)
  | some i => let (records, forest) := s.forest.leave i s.now; (records, { s with forest })

def step (s : SpanScript) (t : SpanStep) : List SpanRecord × SpanScript :=
  let s := { s with now := s.now + 1 }
  match t with
  | .start id kind parent fields =>
    let older := (s.handles.lookup id).join
    let (made, s) := s.start kind (s.parentOf parent) fields
    { s with handles := insertByKey id made s.handles }.release older
  | .record id fields =>
    match (s.handles.lookup id).join with
    | some i => ([], { s with forest := s.forest.setFields i fields })
    | none => ([], s)
  | .enter id =>
    match s.handles.lookup id with
    | none => ([], s)
    | some i =>
      let forest := match i with
        | some i => s.forest.enter i
        | none => s.forest
      ([], { s with forest, entries := (id, i) :: s.entries })
  | .leave id =>
    { s with entries := s.entries.eraseP (·.1 = id) }.leave (s.entries.lookup id).join
  | .close id =>
    { s with handles := s.handles.filter (·.1 != id) }.release (s.handles.lookup id).join
  | .burst count => s.burst 0 count

def runAll (s : SpanScript) (act : SpanScript → α → List SpanRecord × SpanScript) :
    List α → List SpanRecord × SpanScript
  | [] => ([], s)
  | a :: rest =>
    let (records, s) := act s a
    let (more, s) := s.runAll act rest
    (records ++ more, s)

/-- At the end all spans that are still entered are left and all handles dropped, by name. -/
def finish (s : SpanScript) : List SpanRecord :=
  let (left, s) := s.runAll (fun s (_, i) => s.leave i)
    (s.entries.reverse.mergeSort (fun a b => a.1 ≤ b.1))
  left ++ (s.runAll (fun s (_, i) => s.release i) s.handles).1

/-- The records of all spans of a history, in the order in which the spans end. -/
def records (forest : SpanForest) (steps : List SpanStep) : List SpanRecord :=
  let (ended, s) := (new forest).runAll step steps
  ended ++ s.finish

end SpanScript

end MetricsGateway
