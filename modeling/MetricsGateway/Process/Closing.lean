import MetricsGateway.Telemetry.SpanExport

/-!
How a run ends while its last spans are still on their way. The task of an actor reports the end of
the actor and is taken away later, and its span ends only then. The group returns when all have
reported. Then the span of the run is let go of, which ends it once no task is left, and the
exporter is asked for what it has. The run is over when the exporter has answered.
-/

namespace MetricsGateway

inductive ActorTask where
  | working
  | reported
  | gone
  deriving DecidableEq, Repr

/-- The spans of a run: one for each actor inside that of the run itself. -/
inductive RunSpan where
  | actor (index : Nat)
  | run
  deriving DecidableEq, Repr

/-- The tasks, how many reports the group has taken, whether it has returned and whether the exporter
was asked; what is on its way to the exporter, its current batch, the spans it has handed over, and
whether it has answered. -/
structure Closing where
  tasks : List ActorTask
  taken : Nat
  returned : Bool
  asked : Bool
  channel : List (ExportEvent RunSpan)
  batch : List RunSpan
  handed : List RunSpan
  answered : Bool

/-- What the parts of a run do next to one another: a task reports or is taken away, the group takes
a report or returns, the exporter is asked, takes the next event, or hands over at its interval. -/
inductive ClosingMove where
  | report (actor : Nat)
  | vanish (actor : Nat)
  | take
  | leave
  | ask
  | receive
  | tick
  deriving DecidableEq, Repr

namespace Closing

def new (actors : Nat) : Closing := ⟨.replicate actors .working, 0, false, false, [], [], [], false⟩

def spans (c : Closing) : List RunSpan :=
  (List.range c.tasks.length).map .actor ++ [.run]

def isComplete (c : Closing) : Bool := c.spans.all c.handed.contains

def arrived (c : Closing) : Nat := c.tasks.countP (· != .working)

def send (c : Closing) (e : ExportEvent RunSpan) : Closing :=
  { c with channel := c.channel ++ [e] }

/-- The span of the run ends when it is let go of and no task is left. -/
def endRun (c : Closing) : Closing :=
  if c.returned && c.tasks.all (· = .gone) then c.send (.span .run) else c

/-- The exporter takes an event into its batch. -/
def absorb (c : Closing) (e : ExportEvent RunSpan) : Closing :=
  let (out, batch) := SpanExport.step c.batch e
  { c with batch, handed := c.handed ++ out.getD [] }

def step? (c : Closing) : ClosingMove → Option Closing
  | .report i =>
    if c.tasks[i]? = some .working then some { c with tasks := c.tasks.set i .reported } else none
  | .vanish i =>
    if c.tasks[i]? = some .reported then
      some ({ c with tasks := c.tasks.set i .gone }.send (.span (.actor i))).endRun
    else none
  | .take => if c.taken < c.arrived then some { c with taken := c.taken + 1 } else none
  | .leave =>
    if c.taken = c.tasks.length && !c.returned then some { c with returned := true }.endRun else none
  | .ask => if c.returned && !c.asked then some ({ c with asked := true }.send .flush) else none
  | .receive =>
    match c.channel with
    | [] => none
    | e :: rest =>
      let c := { c with channel := rest }.absorb e
      match e with
      | .flush => some { c with answered := true }
      | _ => some c
  | .tick => some (c.absorb .tick)

def run? (c : Closing) : List ClosingMove → Option Closing
  | [] => some c
  | m :: rest => (c.step? m).bind (·.run? rest)

end Closing

end MetricsGateway
