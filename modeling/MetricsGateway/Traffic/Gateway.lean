import MetricsGateway.Traffic.Proxy
import MetricsGateway.Traffic.Route
import MetricsGateway.Traffic.Status

/-!
The gateway answers requests: it gives each one an identifier, serves or forwards it as its route
says, completes the response and counts it.
-/

namespace MetricsGateway

structure RuntimeState where
  workers : Nat
  aliveTasks : Nat
  queueDepth : Nat
  deriving DecidableEq, Repr

/-- What a request meets: whether the server is ready, the identifier that it gets if it brings
none, the runtime, and the upstreams. -/
structure Surroundings where
  ready : Bool
  newId : String
  runtime : RuntimeState
  contact : Contact

/-- The options, the proxy, what has been counted, and whether there is a recorder to show it. -/
structure Gateway where
  options : Options
  proxy : Proxy
  metrics : Metrics
  recording : Bool

/-- What comes of a request: the response, the log records, and what an upstream was sent. -/
structure Handled where
  response : Response
  records : List LogRecord
  sent : Option Request

def RuntimeState.toJson (s : RuntimeState) : Json :=
  .obj [("alive_tasks", .int s.aliveTasks), ("global_queue_depth", .int s.queueDepth),
    ("workers", .int s.workers)]

namespace Gateway

def new (o : Options) (recording : Bool) : Gateway :=
  ⟨o, .new o.proxy, .empty, recording⟩

def exposition (m : Metrics) : String :=
  String.join (m.lines.map (· ++ "\n"))

def requestIdName : String := "x-request-id"

def identified (newId : String) (r : Request) : Request :=
  if Headers.has r.headers requestIdName then r
  else { r with headers := r.headers ++ [.ofText requestIdName newId] }

def scope (r : Request) : Scope :=
  ⟨⟨"request", .info, "observatorium::http::routes"⟩, [("method", .shown r.method), ("path", .shown (String.ofList r.target.path)),
    ("request_id", .shown ((Headers.requestId? r.headers).getD ""))]⟩

/-- A response to a path that leads nowhere. Only what is not a path at all tells its length. -/
def notFound (r : Request) : Response :=
  if r.target.path.head? = some '/' then .notFound else Response.notFound.measured

def metricsPage (g : Gateway) : Response :=
  if g.recording then
    ⟨200, [.ofText "content-type" "text/plain; version=0.0.4"],
      .ofBytes (Text.utf8String (exposition g.metrics))⟩
  else .text 404 "metrics recorder not installed"

def readyPage (ready : Bool) : Response :=
  if ready then .text 200 "ready" else .text 503 "not ready"

def forward (g : Gateway) (s : Surroundings) (upstream : Upstream) (path : List Char)
    (r : Request) : Handled × Gateway :=
  let (f, sent, proxy) := g.proxy.forward s.contact upstream path r
  (⟨f.response, f.records.map (·.within (scope r)), sent⟩, { g with proxy, metrics := g.metrics.record f.counted })

/-- The tail of a query path is decoded before it is appended to the endpoint. -/
def queryPath? (tail : List Char) : Option (List Char) :=
  Text.ofUtf8? (Percent.decode (Text.utf8 tail))

def serve (g : Gateway) (s : Surroundings) (route : Route) (r : Request) : Handled × Gateway :=
  let page (response : Response) : Handled × Gateway := (⟨response, [], none⟩, g)
  match route with
  | .metrics => page g.metricsPage
  | .healthy => page (.text 200 "OK")
  | .ready => page (readyPage s.ready)
  | .write => g.forward s .write [] r
  | .query tail =>
    match queryPath? tail with
    | some path => g.forward s .query path r
    | none => page (.text 400 "Invalid URL: Invalid UTF-8 in \x60path\x60")
  | .runtime => page (.json s.runtime.toJson.text)
  | .config => page (.json g.options.toJson.text)
  | .unmatched => page (notFound r)

def dropBody (response : Response) (g : Gateway) : Response × Gateway :=
  (response.headOnly, { g with proxy := g.proxy.dropped response.body })

/-- Completes a response of a route: its length is told, and a request for the head gets no body.
After a successful request for a tunnel there is neither. -/
def complete (method : String) (response : Response) (g : Gateway) : Response × Gateway :=
  if method = "CONNECT" && Status.isSuccess response.status then
    if Headers.has response.headers "content-length" then dropBody response g else (response, g)
  else if method = "HEAD" then dropBody response.measured g
  else (response.measured, g)

def answer (g : Gateway) (s : Surroundings) (route : Route) (r : Request) : Handled × Gateway :=
  match route.methods? with
  | some methods =>
    if methods.contains r.method then
      let (h, g) := g.serve s route r
      let (response, g) := complete r.method h.response g
      ({ h with response }, g)
    else (⟨.notAllowed methods, [], none⟩, g)
  | none =>
    let (h, g) := g.serve s route r
    if route = .unmatched then (h, g)
    else
      let (response, g) := complete r.method h.response g
      ({ h with response }, g)

/-- The identifier of the request goes back with a response that has none of its own. -/
def returnId (r : Request) (response : Response) : Response :=
  match Headers.get? r.headers requestIdName with
  | some id =>
    if Headers.has response.headers requestIdName then response
    else { response with headers := response.headers ++ [⟨requestIdName, id⟩] }
  | none => response

def respond (g : Gateway) (s : Surroundings) (r : Request) : Handled × Gateway :=
  let r := identified s.newId r
  let route := Route.ofPath g.options.profile r.target.path
  let (h, g) := g.answer s route r
  let counted := Metrics.Record.request route.handler r.method h.response.status
  ({ h with response := returnId r h.response }, { g with metrics := g.metrics.record counted })

def dropped (g : Gateway) (body : Body) : Gateway :=
  { g with proxy := g.proxy.dropped body }

end Gateway

end MetricsGateway
