import MetricsGateway.Actor.Exit
import MetricsGateway.Actor.StopFlag

/-!
Watchers that wait for a termination signal. A run of a watcher subscribes; what is raised then is
kept for it, as far back as the backlog reaches, and forwarded one by one to its buffer, which holds
one signal. The run ends with the signal in its buffer, or without one once its stop flag is raised.
-/

namespace MetricsGateway

inductive Signal where
  | interrupt
  | terminate
  deriving DecidableEq, Repr

def Signal.name : Signal → String
  | interrupt => "SIGINT"
  | terminate => "SIGTERM"

/-- Where a run of a watcher stands: not subscribed yet, waiting with a backlog and a buffer, ended
with a signal or without one, or refused by the system. -/
inductive WatchPhase where
  | spawned
  | waiting (backlog : List Signal) (buffer : Option Signal)
  | ended (got : Option Signal)
  | refused (fault : SystemFault)
  deriving DecidableEq, Repr

/-- A run of a watcher. As an actor it returns without telling which signal came. -/
structure WatchRun where
  watcher : Nat
  asActor : Bool
  phase : WatchPhase
  deriving DecidableEq, Repr

/-- A move of one run: it subscribes or is refused, the oldest signal of the backlog is forwarded to
its buffer, it takes the signal in its buffer, or it sees its stop flag. -/
inductive WatchMove where
  | subscribe
  | refuse (fault : SystemFault)
  | forward
  | take
  | stop
  deriving DecidableEq, Repr

/-- The stop flags of the watchers, and all runs in the order in which they were spawned. -/
structure Watchers where
  stops : List StopFlag
  runs : List WatchRun
  deriving DecidableEq, Repr

namespace Watchers

/-- How many signals are kept for a run that falls behind. -/
def backlogLimit : Nat := 16

def target : String := "observatorium::lifecycle::signals"

def empty : Watchers := ⟨[], []⟩

def isStopped (w : Watchers) (watcher : Nat) : Bool :=
  (w.stops[watcher]?).any (·.raised)

def kept (signals : List Signal) : List Signal :=
  signals.drop (signals.length - backlogLimit)

def isSubscribed (r : WatchRun) : Bool :=
  match r.phase with
  | .waiting _ _ => true
  | _ => false

def subscribers (w : Watchers) : Nat := w.runs.countP isSubscribed

def hear (signal : Signal) (r : WatchRun) : WatchRun :=
  match r.phase with
  | .waiting backlog buffer => { r with phase := .waiting (kept (backlog ++ [signal])) buffer }
  | _ => r

def raise (w : Watchers) (signal : Signal) : Bool × Watchers :=
  (0 < w.subscribers, { w with runs := w.runs.map (hear signal) })

def raiseAll (w : Watchers) : List Signal → List Bool × Watchers
  | [] => ([], w)
  | s :: rest =>
    let (heard, w) := w.raise s
    let (more, w) := w.raiseAll rest
    (heard :: more, w)

def stopping (cause : Option Failure) : LogRecord :=
  ⟨.info, target, [], "shutdown triggered elsewhere, no longer waiting for signals",
    cause.toList.map fun f => ("cause", .shown f.message)⟩

def received (signal : Signal) : LogRecord :=
  ⟨.info, target, [], "received termination signal", [("signal", .shown signal.name)]⟩

def interrupt (w : Watchers) (watcher : Nat) (cause : Option Failure) : List LogRecord × Watchers :=
  match w.stops[watcher]? with
  | none => ([], w)
  | some stop =>
    let (first, stop) := stop.raise
    (if first then [stopping cause] else [], { w with stops := w.stops.set watcher stop })

/-- A move of a run, if it is admitted. What is forwarded to a full buffer is lost. -/
def moveRun? (w : Watchers) (r : WatchRun) (m : WatchMove) : Option (List LogRecord × WatchRun) :=
  match m, r.phase with
  | .subscribe, .spawned => some ([], { r with phase := .waiting [] none })
  | .refuse fault, .spawned => some ([], { r with phase := .refused fault })
  | .forward, .waiting (signal :: rest) buffer =>
    some ([], { r with phase := .waiting rest (some (buffer.getD signal)) })
  | .take, .waiting _ (some signal) =>
    some ([received signal], { r with phase := .ended (some signal) })
  | .stop, .waiting _ _ =>
    if w.isStopped r.watcher then some ([], { r with phase := .ended none }) else none
  | _, _ => none

def move? (w : Watchers) (run : Nat) (m : WatchMove) : Option (List LogRecord × Watchers) := do
  let r ← w.runs[run]?
  let (said, r) ← w.moveRun? r m
  pure (said, { w with runs := w.runs.set run r })

/-- The move that a run makes by itself: what is in its buffer comes first, then its stop flag. -/
def nextMove? (w : Watchers) (r : WatchRun) : Option WatchMove :=
  match r.phase with
  | .spawned => some .subscribe
  | .waiting _ (some _) => some .take
  | .waiting backlog none =>
    if w.isStopped r.watcher then some .stop
    else if backlog.isEmpty then none else some .forward
  | .ended _ => none
  | .refused _ => none

def tick? (w : Watchers) : Option (List LogRecord × Watchers) :=
  w.runs.zipIdx.findSome? fun (r, i) => (w.nextMove? r).bind (w.move? i)

def settleWith : Nat → Watchers → List LogRecord × Watchers
  | 0, w => ([], w)
  | fuel + 1, w =>
    match w.tick? with
    | none => ([], w)
    | some (said, w) => let (more, w) := settleWith fuel w; (said ++ more, w)

/-- All runs go on until they have to wait: none makes more than three moves. -/
def settle (w : Watchers) : List LogRecord × Watchers := settleWith (3 * w.runs.length) w

inductive Step where
  | add
  | run (watcher : Nat) (asActor : Bool)
  | raise (signals : List Signal)
  | interrupt (watcher : Nat) (cause : Option Failure)
  deriving DecidableEq, Repr

/-- A step without what follows from it: whether signals were heard, records, and the watchers. -/
def step (w : Watchers) : Step → List Bool × List LogRecord × Watchers
  | .add => ([], [], { w with stops := w.stops ++ [.new] })
  | .run watcher asActor => ([], [], { w with runs := w.runs ++ [⟨watcher, asActor, .spawned⟩] })
  | .raise signals => let (heard, w) := w.raiseAll signals; (heard, [], w)
  | .interrupt watcher cause => let (records, w) := w.interrupt watcher cause; ([], records, w)

def latest? (w : Watchers) (watcher : Nat) : Option WatchRun :=
  w.runs.reverse.find? (·.watcher = watcher)

def result? (w : Watchers) (watcher : Nat) : Option (Option Signal) :=
  match w.latest? watcher with
  | some ⟨_, _, .ended got⟩ => some got
  | _ => none

def first? (raised : Option Signal) : Option Signal :=
  let (_, w) := settle ⟨[.new], [⟨0, false, .spawned⟩]⟩
  let (_, w) := match raised with
    | some s => settle (w.raise s).2
    | none => settle (w.interrupt 0 none).2
  (w.result? 0).join

/-- A history of steps, each settled or not: for each whether signals were heard and the watchers
after it, and the records of all. -/
def history (w : Watchers) : List (Step × Bool) → List (List Bool × Watchers) × List LogRecord
  | [] => ([], [])
  | (s, settled) :: rest =>
    let (heard, said, w) := w.step s
    let (more, w) := if settled then w.settle else ([], w)
    let (answers, records) := w.history rest
    ((heard, w) :: answers, said ++ more ++ records)

end Watchers

end MetricsGateway
