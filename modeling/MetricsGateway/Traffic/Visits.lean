import MetricsGateway.History
import MetricsGateway.Traffic.Gateway

/-!
Requests under way at one gateway. They come in at any time; those that go to an upstream wait for it
until it answers or the client leaves, all others are responded to at once. The bodies of the responses
are dropped in any order.
-/

namespace MetricsGateway

/-- Where the requests of a route are forwarded, and the path that is appended there. -/
def Route.forwarding? (method : String) : Route → Option (Upstream × List Char)
  | .write => if method = "POST" then some (.write, []) else none
  | .query tail => (Gateway.queryPath? tail).map (.query, ·)
  | _ => none

/-- A request with its identifier that waits for its upstream, and what has been logged about it. -/
structure Visit where
  request : Request
  pending : Pending
  records : List LogRecord

namespace Gateway

/-- The request as it waits for its upstream, if it is to be forwarded and has an address there. -/
def visit? (g : Gateway) (newId : String) (r : Request) : Option Visit :=
  let r := identified newId r
  match (Route.ofPath g.options.profile r.target.path).forwarding? r.method with
  | none => none
  | some (upstream, path) =>
    match g.proxy.start upstream path r with
    | .error _ => none
    | .ok (pending, records) => some ⟨r, pending, records⟩

/-- A forward that is over goes back to the client: its response is completed, and both the forward and
the request are counted. -/
def relay (g : Gateway) (r : Request) (out : Forwarded × Option Request × Proxy) :
    Handled × Gateway :=
  let route := Route.ofPath g.options.profile r.target.path
  let (f, sent, proxy) := out
  let (response, g) := complete r.method f.response
    { g with proxy, metrics := g.metrics.record f.counted }
  let counted := Metrics.Record.request route.handler r.method response.status
  (⟨returnId r response, f.records.map (·.within (scope r)), sent⟩,
    { g with metrics := g.metrics.record counted })

/-- The upstream answers with these bytes, or cannot be reached. -/
def conclude (g : Gateway) (v : Visit) (bytes : Option Bytes) : Handled × Gateway :=
  let (f, proxy) := g.proxy.finish v.pending bytes
  g.relay v.request
    ({ f with records := v.records ++ f.records }, bytes.bind fun _ => v.pending.sent.onWire?, proxy)

end Gateway

inductive VisitMove where
  | arrive (s : Surroundings) (r : Request)
  | answer (i : Nat) (bytes : Option Bytes)
  | leave (i : Nat)
  | drop (i : Nat)

/-- What a move tells: that a request waits, that it has its response, or nothing. -/
inductive VisitReport where
  | waits (v : Visit)
  | responds (r : Request) (h : Handled)
  | silent

structure Visits where
  gateway : Gateway
  waiting : List Visit
  bodies : List Body

namespace Visits

def new (o : Options) (recording : Bool) : Visits := ⟨.new o recording, [], []⟩

/-- A request has its response, and the body goes to the client. -/
def respond (s : Visits) (r : Request) (out : Handled × Gateway) : VisitReport × Visits :=
  (.responds r out.1, { s with gateway := out.2, bodies := s.bodies ++ [out.1.response.body] })

/-- The numbers count the requests that wait, and the bodies that are not dropped yet. -/
def move? (s : Visits) : VisitMove → Option (VisitReport × Visits)
  | .arrive surroundings r =>
    match s.gateway.visit? surroundings.newId r with
    | some v => some (.waits v, { s with waiting := s.waiting ++ [v] })
    | none => some (s.respond r (s.gateway.respond surroundings r))
  | .answer i bytes =>
    s.waiting[i]?.map fun v =>
      { s with waiting := s.waiting.eraseIdx i }.respond v.request (s.gateway.conclude v bytes)
  | .leave i => s.waiting[i]?.map fun _ => (.silent, { s with waiting := s.waiting.eraseIdx i })
  | .drop i =>
    s.bodies[i]?.map fun b =>
      (.silent, { s with gateway := s.gateway.dropped b, bodies := s.bodies.eraseIdx i })

def run? : Visits → List VisitMove → Option (List VisitReport × Visits) :=
  History.run? move?

end Visits

end MetricsGateway
