import MetricsGateway.Actor.Group
import MetricsGateway.Actor.StopFlag
import MetricsGateway.Connections.Backoff
import MetricsGateway.Connections.Listener
import MetricsGateway.History
import MetricsGateway.Setup.Options
import MetricsGateway.Telemetry.Observed

/-!
The server as a machine. A run of it binds, accepts connections until it sees the stop flag, drains
them within the grace period and closes; a failed accept makes it pause or ends it. Connections that
are left over are aborted one by one. What happens is given by events, and every order of events that
the machine admits is a possible history.
-/

namespace MetricsGateway

inductive ServerState where
  | idle
  | listening (address : String)
  | draining
  | closed
  deriving DecidableEq, Repr

def ServerState.name : ServerState → String
  | idle => "idle"
  | listening _ => "listening"
  | draining => "draining"
  | closed => "closed"

def ServerState.isReady : ServerState → Bool
  | listening _ => true
  | _ => false

/-- How draining went: whether connections had to be forced closed, how many were open at first, and
how many were forced. -/
structure DrainReport where
  forced : Bool
  inFlight : Nat
  aborted : Nat
  deriving DecidableEq, Repr

def DrainReport.mode (r : DrainReport) : String :=
  if r.forced then "forced" else "graceful"

inductive TaskState where
  | running
  | done
  | crashed
  deriving DecidableEq, Repr

/-- The task that serves one connection. One that has ended stays until it is collected. -/
structure ConnectionTask where
  client : Nat
  state : TaskState
  deriving DecidableEq, Repr

/-- What a run has while it serves: the listener, how many accepts have failed in a row, and its
tasks. -/
structure Serving where
  listener : Listener
  failures : Nat
  tasks : List ConnectionTask
  deriving DecidableEq, Repr

namespace Serving

def running (s : Serving) : Nat := s.tasks.countP (·.state = .running)

def isServing (s : Serving) (client : Nat) : Bool :=
  s.tasks.contains ⟨client, .running⟩

def finish (s : Serving) (client : Nat) (state : TaskState) : Serving :=
  { s with
    listener := s.listener.release 1
    tasks := s.tasks.map fun t => if t = ⟨client, .running⟩ then ⟨client, state⟩ else t }

def abort (s : Serving) (client : Nat) : Serving :=
  { s with listener := s.listener.release 1, tasks := s.tasks.erase ⟨client, .running⟩ }

end Serving

/-- Why connections are aborted: accepting failed for good, or the grace period is over, about which
there is a report. -/
inductive AbortReason where
  | failed (fault : SystemFault)
  | expired (report : DrainReport)
  deriving DecidableEq, Repr

/-- Where a run stands. Times are what is left of a pause or of the grace period, in nanoseconds. -/
inductive ServerRun where
  | called
  | binding
  | accepting (s : Serving)
  | pausing (s : Serving) (left : Nat)
  | draining (s : Serving) (inFlight left : Nat)
  | aborting (s : Serving) (why : AbortReason)
  | ended (result : RunEnd)
  deriving DecidableEq, Repr

def ServerRun.isEnded : ServerRun → Bool
  | .ended _ => true
  | _ => false

/-- What is left of pauses and grace periods after some time. -/
def ServerRun.pass (nanos : Nat) : ServerRun → ServerRun
  | .pausing v left => .pausing v (left - nanos)
  | .draining v inFlight left => .draining v inFlight (left - nanos)
  | r => r

/-- The options, the stop flag, what is published, how many connections are open and were ever
opened, and all runs in the order of their calls. -/
structure Server where
  options : ServerOptions
  stop : StopFlag
  state : ServerState
  report : Option DrainReport
  active : Nat
  opened : Nat
  runs : List ServerRun
  deriving DecidableEq, Repr

inductive RunMove where
  | begin
  | bind (outcome : Except SystemFault String)
  | acquire
  | accept (client : Nat) (peer : String)
  | failAccept (fault : SystemFault) (jitter : Nat)
  | collect
  | resume
  | stop
  | finish (client : Nat) (crashed : Bool)
  | drained
  | expire
  | abort (client : Nat)
  | close

/-- Moves that no client has a part in. -/
def RunMove.isOwn : RunMove → Bool
  | .accept _ _ | .failAccept _ _ | .finish _ _ => false
  | _ => true

inductive ServerEvent where
  | call
  | interrupt (cause : Option Failure)
  | pass (nanos : Nat)
  | run (index : Nat) (move : RunMove)

namespace Server

def target : String := "observatorium::http::server"

def listenerTarget : String := "observatorium::net::listener"

def new (options : ServerOptions) : Server := ⟨options, .new, .idle, none, 0, 0, []⟩

def maxFailures : Nat := (1 <<< 32) - 1

def stopping (cause : Option Failure) : LogRecord :=
  ⟨.info, target, [], "Stopping server",
    cause.toList.map fun f => ("error", .shown f.message)⟩

def bound (o : ServerOptions) (address : String) : List LogRecord :=
  [⟨.info, listenerTarget, [], "Listener bound",
      [("address", .shown address), ("max_connections", .count o.maxConnections)]⟩,
    ⟨.info, target, [], "Server listening", [("address", .shown address)]⟩]

/-- Connections are named by their numbers, which go up from one. -/
def connectionName (number : Nat) : String := "conn-" ++ toString number

def connectionKind : SpanKind := ⟨"connection", .debug, target⟩

def connectionScope (number : Nat) (peer : String) : Scope :=
  ⟨connectionKind, [("id", .shown (connectionName number)), ("peer", .shown peer)]⟩

def accepted (number : Nat) (peer : String) (free : Nat) : List LogRecord :=
  [⟨.debug, listenerTarget, [], "Connection accepted",
      [("peer_addr", .shown peer), ("available_permits", .count free)]⟩,
    ⟨.debug, target, [connectionScope number peer], "Connection accepted", []⟩]

def retrying (fault : SystemFault) (attempt delay : Nat) : LogRecord :=
  ⟨.warn, target, [], "Accept failed, retrying",
    [("error", .shown (Failure.accept fault).message), ("attempt", .count attempt),
      ("delay", .shown (toString delay ++ "ms"))]⟩

def acceptFailed (fault : SystemFault) : LogRecord :=
  ⟨.error, target, [], "Accept failed", [("error", .shown (Failure.accept fault).message)]⟩

def taskFailed (t : ConnectionTask) : LogRecord :=
  ⟨.warn, target, [], "Connection task failed",
    [("error", .shown ("task " ++ toString t.client ++ " panicked"))]⟩

def drainStarted (inFlight : Nat) (grace : Duration) : LogRecord :=
  ⟨.info, target, [], "Draining connections",
    [("in_flight", .count inFlight), ("grace_period", .shown grace.text)]⟩

def drainEnded (inFlight elapsed : Nat) : LogRecord :=
  ⟨.info, target, [], "Connections drained",
    [("in_flight", .count inFlight),
      ("elapsed", .shown (((Duration.ofNanos? elapsed).map (·.text)).getD ""))]⟩

def drainForced (inFlight aborted : Nat) (grace : Duration) : LogRecord :=
  ⟨.warn, target, [], "Grace period expired, forcing connections closed",
    [("in_flight", .count inFlight), ("aborted", .count aborted),
      ("grace_period", .shown grace.text)]⟩

def stopped : LogRecord := ⟨.info, target, [], "Server stopped", []⟩

/-- A run begins: a closed server cannot run again, and one that was stopped before closes. -/
def begin (s : Server) : Observed × ServerRun × Server :=
  if s.state = .closed then (.none, .ended (.failed .serverClosed), s)
  else if s.stop.raised then (.none, .ended .ok, { s with state := .closed })
  else (.none, .binding, s)

def bind (s : Server) : Except SystemFault String → Observed × ServerRun × Server
  | .error fault =>
    (.none, .ended (.failed (.bind s.options.listen fault)), { s with state := .closed })
  | .ok address =>
    let said := bound s.options address
    if Pool.maxSize < s.options.maxConnections then (.said (said.take 1), .ended .panicked, s)
    else
      (.said said, .accepting ⟨.new s.options.maxConnections, 0, []⟩,
        { s with state := .listening address })

/-- A connection is accepted and gets a task, which takes over the permit of the attempt. -/
def accept (s : Server) (v : Serving) (client : Nat) (peer : String) :
    Observed × ServerRun × Server :=
  let v := { v with
    listener := v.listener.handOver, failures := 0, tasks := v.tasks ++ [⟨client, .running⟩] }
  (⟨accepted (s.opened + 1) peer v.listener.permits.free, [.openConnections (s.active + 1)]⟩,
    .accepting v, { s with active := s.active + 1, opened := s.opened + 1 })

/-- A fault that passes by itself makes the run pause; any other ends all its connections. -/
def failAccept (s : Server) (v : Serving) (fault : SystemFault) (jitter : Nat) :
    Observed × ServerRun × Server :=
  let v := { v with listener := v.listener.cancel }
  if Failure.passes fault then
    let failures := min (v.failures + 1) maxFailures
    let delay := (Backoff.delay failures Backoff.acceptBase Backoff.acceptCap jitter).getD 0
    (.said [retrying fault failures delay], .pausing { v with failures } (delay * 1000000), s)
  else
    (.said [acceptFailed fault], .aborting v (.failed fault), s)

/-- A task that has ended is collected, which cuts the attempt to accept short. -/
def collect? (s : Server) (v : Serving) : Option (Observed × ServerRun × Server) :=
  (v.tasks.find? (·.state ≠ .running)).map fun t =>
    (.said (if t.state = .crashed then [taskFailed t] else []),
      .accepting { v with listener := v.listener.cancel, tasks := v.tasks.erase t }, s)

def drain (s : Server) (v : Serving) : Observed × ServerRun × Server :=
  (.said [drainStarted s.active s.options.gracePeriod],
    .draining { v with listener := v.listener.cancel } s.active s.options.gracePeriod.nanos,
    { s with state := .draining })

def finish (s : Server) (v : Serving) (client : Nat) (crashed : Bool) :
    Serving × Observed × Server :=
  (v.finish client (if crashed then .crashed else .done),
    ⟨[], [.openConnections (s.active - 1)]⟩, { s with active := s.active - 1 })

def drained (s : Server) (inFlight left : Nat) : Observed × ServerRun × Server :=
  (.said [drainEnded inFlight (s.options.gracePeriod.nanos - left), stopped], .ended .ok,
    { s with state := .closed, report := some ⟨false, inFlight, 0⟩ })

/-- The grace period is over and what is left will be forced closed. -/
def expire (s : Server) (v : Serving) (inFlight : Nat) : Observed × ServerRun × Server :=
  (.none, .aborting v (.expired ⟨true, inFlight, s.active⟩), s)

def abort (s : Server) (v : Serving) (why : AbortReason) (client : Nat) :
    Observed × ServerRun × Server :=
  (⟨[], [.openConnections (s.active - 1)]⟩, .aborting (v.abort client) why,
    { s with active := s.active - 1 })

def close (s : Server) : AbortReason → Observed × ServerRun × Server
  | .failed fault =>
    (.said [stopped], .ended (.failed (.accept fault)), { s with state := .closed })
  | .expired report =>
    (⟨[drainForced report.inFlight report.aborted s.options.gracePeriod, stopped], [.forcedShutdown]⟩,
      .ended .ok, { s with state := .closed, report := some report })

/-- A move of a run in its place; none when the run does not admit it there. -/
def move? (s : Server) : ServerRun → RunMove → Option (Observed × ServerRun × Server)
  | .called, .begin => some s.begin
  | .binding, .bind outcome => some (s.bind outcome)
  | .accepting v, .acquire =>
    if v.listener.permitted || v.listener.permits.free = 0 then none
    else some (.none, .accepting { v with listener := v.listener.acquire }, s)
  | .accepting v, .accept client peer =>
    if v.listener.permitted && !v.tasks.any (·.client = client) then
      some (s.accept v client peer)
    else none
  | .accepting v, .failAccept fault jitter =>
    if v.listener.permitted then some (s.failAccept v fault jitter) else none
  | .accepting v, .collect => s.collect? v
  | .accepting v, .stop => if s.stop.raised then some (s.drain v) else none
  | .accepting v, .finish client crashed =>
    if v.isServing client then
      let (v, o, s) := s.finish v client crashed; some (o, .accepting v, s)
    else none
  | .pausing v left, .resume => if left = 0 then some (.none, .accepting v, s) else none
  | .pausing v _, .stop => if s.stop.raised then some (s.drain v) else none
  | .pausing v left, .finish client crashed =>
    if v.isServing client then
      let (v, o, s) := s.finish v client crashed; some (o, .pausing v left, s)
    else none
  | .draining v inFlight left, .finish client crashed =>
    if v.isServing client then
      let (v, o, s) := s.finish v client crashed; some (o, .draining v inFlight left, s)
    else none
  | .draining v inFlight left, .drained =>
    if v.running = 0 then some (s.drained inFlight left) else none
  | .draining v inFlight left, .expire =>
    if left = 0 && 0 < v.running then some (s.expire v inFlight) else none
  | .aborting v why, .abort client =>
    if v.isServing client then some (s.abort v why client) else none
  | .aborting v why, .close => if v.running = 0 then some (s.close why) else none
  | _, _ => none

def interrupt (s : Server) (cause : Option Failure) : Observed × Server :=
  let (first, stop) := s.stop.raise
  (.said (if first then [stopping cause] else []), { s with stop })

def step? (s : Server) : ServerEvent → Option (Observed × Server)
  | .call => some (.none, { s with runs := s.runs ++ [.called] })
  | .interrupt cause => some (s.interrupt cause)
  | .pass nanos => some (.none, { s with runs := s.runs.map (ServerRun.pass nanos) })
  | .run index move => do
    let r ← s.runs[index]?
    let (o, r, s) ← s.move? r move
    pure (o, { s with runs := s.runs.set index r })

def run? (s : Server) (events : List ServerEvent) : Option (List Observed × Server) :=
  History.run? step? s events

/-- One event of a server whose runs are awaited: none is called while another one is under way. -/
def inTurn? (s : Server) : ServerEvent → Option (Observed × Server)
  | .call => if s.runs.all (·.isEnded) then s.step? .call else none
  | e => s.step? e

/-- What the server publishes in the course of a history, each change once. -/
def published (s : Server) : List ServerEvent → List ServerState
  | [] => [s.state]
  | e :: rest =>
    match s.step? e with
    | none => [s.state]
    | some (_, next) =>
      if next.state = s.state then next.published rest else s.state :: next.published rest

/-- The time until the next pause or grace period is over, if one is running. -/
def timer? (s : Server) : Option Nat :=
  (s.runs.filterMap fun
    | .pausing _ left => some left
    | .draining _ _ left => some left
    | _ => none).min?

def result? (s : Server) (index : Nat) : Option RunEnd :=
  match s.runs[index]? with
  | some (.ended result) => some result
  | _ => none

end Server

end MetricsGateway
