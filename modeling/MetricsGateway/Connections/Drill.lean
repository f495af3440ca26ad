import MetricsGateway.Connections.Exchange
import MetricsGateway.Connections.Server
import MetricsGateway.Connections.SocketAddress

/-!
A server in use by scripted clients. Between the steps of a script everything goes on by itself until
it has to wait, in one fixed order, and time passes only while a step waits for something.
-/

namespace MetricsGateway

/-- What holds a server: it tells the server's state, takes the server's events, and may have moves
of its own before and after those of the server. -/
class Hosting (M : Type) where
  server : M → Server
  step? : M → ServerEvent → Option (Observed × M)
  before? : M → Option (Observed × M)
  after? : M → Option (Observed × M)

instance : Hosting Server where
  server s := s
  step? := Server.step?
  before? _ := none
  after? _ := none

/-- What a handler does with a request: it answers, waits at the gate, or crashes. -/
inductive Reaction where
  | respond (r : Response)
  | wait
  | crash

/-- The handler of requests with a state of its own; it is told whether the server is ready and may
read and write the metrics. -/
abbrev Site (σ : Type) :=
  Bool → Metrics → σ → Request → Reaction × List LogRecord × Metrics × σ

/-- A client by name, its connection, whether that was accepted, and whether the client left. -/
structure Visitor where
  name : String
  exchange : Exchange
  accepted : Bool
  gone : Bool

/-- The host of the server, the socket, the clients by number, and all that was observed. `starved`
tells whether no connection can be opened; `uncertain` whether connections without a request were
open when draining began, which may or may not have been counted. -/
structure Drill (M σ : Type) where
  host : M
  ports : Ports
  backlog : Backlog
  starved : Bool
  visitors : List Visitor
  site : Site σ
  state : σ
  metrics : Metrics
  records : List LogRecord
  uncertain : Bool

namespace Drill

variable {M σ : Type} [Hosting M]

def new (host : M) (ports : Ports) (site : Site σ) (state : σ) : Drill M σ :=
  ⟨host, ports, .empty, false, [], site, state, .empty, [], false⟩

def server (d : Drill M σ) : Server := Hosting.server d.host

def moved (d : Drill M σ) (step : Observed × M) : Drill M σ :=
  { d with
    host := step.2
    metrics := d.metrics.recordAll step.1.counted
    records := d.records ++ step.1.records }

def apply (d : Drill M σ) (e : ServerEvent) : Drill M σ :=
  match Hosting.step? d.host e with
  | some step => d.moved step
  | none => d

def change (d : Drill M σ) (client : Nat) (f : Exchange → Exchange) : Drill M σ :=
  { d with
    visitors := d.visitors.modify client fun v => { v with exchange := f v.exchange } }

def starvedCode : Nat := 24

def peer (client : Nat) : String := "127.0.0.1:" ++ toString (50000 + client)

def offer? (d : Drill M σ) : Option RunMove :=
  match d.backlog.next? with
  | none => none
  | some (.error fault) => some (.failAccept fault 0)
  | some (.ok (client, _)) =>
    some (if d.starved then .failAccept (.code starvedCode) 0 else .accept client (peer client))

def nextMove? (d : Drill M σ) : ServerRun → Option RunMove
  | .called => some .begin
  | .binding => some (.bind (SocketAddress.bind d.ports d.server.options.listen))
  | .accepting v =>
    if d.server.stop.raised then some .stop
    else if v.running < v.tasks.length then some .collect
    else if v.listener.permitted then d.offer?
    else if 0 < v.listener.permits.free then some .acquire
    else none
  | .pausing _ left =>
    if d.server.stop.raised then some .stop else if left = 0 then some .resume else none
  | .draining v _ left =>
    if v.running = 0 then some .drained else if left = 0 then some .expire else none
  | .aborting v _ =>
    some (((v.tasks.find? (·.state = .running)).map fun t => .abort t.client).getD .close)
  | .ended _ => none

def hasIdle (d : Drill M σ) (v : Serving) : Bool :=
  v.tasks.any fun t =>
    t.state = .running && (d.visitors[t.client]?).any fun v => !v.exchange.isWaiting

/-- What a move means to the clients: one is accepted, or the socket is closed, or all connections
are. -/
def toVisitors (d : Drill M σ) (r : ServerRun) (move : RunMove) : Drill M σ :=
  let end_ (d : Drill M σ) (all : Bool) : Drill M σ :=
    { d with
      backlog := ⟨[], d.backlog.broken⟩
      visitors := d.visitors.map fun v =>
        if all || !v.accepted then { v with exchange := v.exchange.finish false } else v }
  match r, move with
  | _, .accept client _ =>
    { d with
      backlog := { d.backlog with waiting := d.backlog.waiting.erase client }
      visitors := d.visitors.modify client fun v => { v with accepted := true } }
  | .accepting v, .stop => end_ { d with uncertain := d.uncertain || d.hasIdle v } false
  | .pausing v _, .stop => end_ { d with uncertain := d.uncertain || d.hasIdle v } false
  | _, .failAccept fault _ => if Failure.passes fault then d else end_ d true
  | _, .expire => end_ d true
  | _, _ => d

def runTick? (d : Drill M σ) : Option (Drill M σ) :=
  d.server.runs.zipIdx.findSome? fun (r, i) =>
    (d.nextMove? r).map fun move => (d.apply (.run i move)).toVisitors r move

def serving? (d : Drill M σ) (client : Nat) : Option Nat :=
  d.server.runs.findIdx? fun
    | .accepting v => v.isServing client
    | .pausing v _ => v.isServing client
    | .draining v _ _ => v.isServing client
    | _ => false

def handle (d : Drill M σ) (client : Nat) (a : Arrival) : Drill M σ :=
  let (reaction, records, metrics, state) :=
    d.site d.server.state.isReady d.metrics d.state a.request
  let d := { d with state, metrics, records := d.records ++ records }
  d.change client fun e =>
    match reaction with
    | .respond r => e.deliver a r
    | .wait => { e with phase := .waiting a, unread := a.rest }
    | .crash => e.finish true

/-- A connection goes on by one step, if it can. -/
def visitorTick? (d : Drill M σ) (client : Nat) (v : Visitor) : Option (Drill M σ) :=
  match d.serving? client with
  | none => none
  | some run =>
    if v.exchange.isOver then some (d.apply (.run run (.finish client v.exchange.crashed)))
    else if v.gone then some (d.change client (·.finish false))
    else if d.server.stop.raised && !v.exchange.parting then some (d.change client (·.part))
    else match v.exchange.inbound with
      | .incomplete => none
      | .malformed status => some (d.change client (·.refuse status))
      | .arrived a => some (d.handle client a)

def tick? (d : Drill M σ) : Option (Drill M σ) :=
  ((Hosting.before? d.host).map d.moved).orElse fun _ =>
    d.runTick?.orElse fun _ =>
      (d.visitors.zipIdx.findSome? fun (v, i) => d.visitorTick? i v).orElse fun _ =>
        (Hosting.after? d.host).map d.moved

/-- Everything goes on until it has to wait; the fuel bounds how often. -/
def settleWith : Nat → Drill M σ → Drill M σ
  | 0, d => d
  | fuel + 1, d =>
    match d.tick? with
    | some d => settleWith fuel d
    | none => d

def settle (d : Drill M σ) : Drill M σ :=
  settleWith (d.visitors.foldl (fun fuel v => fuel + v.exchange.unread.length) 1000) d

/-- Lets time pass until the next pause or grace period is over, as long as something is missing. -/
def await (fuel : Nat) (isThere : Drill M σ → Bool) (d : Drill M σ) : Drill M σ :=
  match fuel with
  | 0 => d
  | fuel + 1 =>
    if isThere d then d
    else match d.server.timer? with
      | none => d
      | some nanos => await fuel isThere (d.apply (.pass nanos)).settle

def patience : Nat := 8

def waitFor (d : Drill M σ) (isThere : Drill M σ → Bool) : Drill M σ :=
  await patience isThere d.settle

def client? (d : Drill M σ) (name : String) : Option Nat :=
  ((d.visitors.zipIdx.filter (·.1.name = name)).getLast?).map (·.2)

def visitor? (d : Drill M σ) (name : String) : Option Visitor :=
  (d.client? name).bind (d.visitors[·]?)

def isListening (d : Drill M σ) : Bool :=
  d.server.runs.any fun
    | .accepting _ => true
    | .pausing _ _ => true
    | _ => false

def connect (d : Drill M σ) (name : String) : Drill M σ :=
  settle { d with
    visitors := d.visitors ++ [⟨name, .new, false, false⟩]
    backlog := { d.backlog with waiting := d.backlog.waiting ++ [d.visitors.length] } }

def send (d : Drill M σ) (name : String) (bs : Bytes) : Drill M σ :=
  match d.client? name with
  | some i => (d.change i (·.receive bs)).settle
  | none => d

/-- A client waits for a response, or for the end of its connection. -/
def receive (d : Drill M σ) (name : String) : Option Delivery × Drill M σ :=
  let ready (d : Drill M σ) : Bool :=
    (d.visitor? name).all fun v => !v.exchange.delivered.isEmpty || v.exchange.isOver
  let d := d.waitFor ready
  match d.client? name, d.visitor? name with
  | some i, some v => (v.exchange.take.1, d.change i (·.take.2))
  | _, _ => (none, d)

/-- Has the connection of a client ended, with nothing left to read? -/
def isAtEnd (d : Drill M σ) (name : String) : Bool :=
  (d.visitor? name).all fun v => v.exchange.isOver && v.exchange.delivered.isEmpty

def leave (d : Drill M σ) (name : String) : Drill M σ :=
  match d.client? name with
  | some i => settle { d with visitors := d.visitors.modify i fun v => { v with gone := true } }
  | none => d

def openGate (d : Drill M σ) (r : Response) : Drill M σ :=
  settle { d with visitors := d.visitors.map fun v => { v with exchange := v.exchange.pass r } }

def breakSocket (d : Drill M σ) : Drill M σ :=
  settle { d with backlog := ⟨[], true⟩ }

def starve (d : Drill M σ) (starved : Bool) : Drill M σ :=
  settle { d with starved }

end Drill

end MetricsGateway
