import MetricsGateway.Pool
import MetricsGateway.Setup.Options
import MetricsGateway.Telemetry.LogRecord
import MetricsGateway.Telemetry.Metrics
import MetricsGateway.Traffic.Forwarding
import MetricsGateway.Traffic.Message
import MetricsGateway.Traffic.Reply

/-!
Forwarding requests to the upstreams. A request is shaped for its upstream and waits for the
reply; the body of the reply is passed on in pieces and holds a buffer of the pool, if one is free,
until it is dropped.
-/

namespace MetricsGateway

/-- The upstreams as seen from here: the bytes with which one answers a request, or none when
nothing listens where the request goes. -/
abbrev Contact := Request → Option Bytes

/-- The endpoints of the upstreams, the largest piece of a body, and the pool of buffers. -/
structure Proxy where
  queryEndpoint : Url
  writeEndpoint : Url
  bufferSize : Nat
  buffers : Pool

structure Pending where
  upstream : Upstream
  requestId : String
  sent : Request

/-- What comes of a forwarded request: the response, what is counted and what is logged. -/
structure Forwarded where
  response : Response
  counted : Metrics.Record
  records : List LogRecord

namespace Proxy

def target : String := "observatorium::http::proxy"

def new (o : ProxyOptions) : Proxy :=
  ⟨o.queryEndpoint, o.writeEndpoint, o.bufferSize, .new o.bufferCount⟩

def endpoint (p : Proxy) : Upstream → Url
  | .query => p.queryEndpoint
  | .write => p.writeEndpoint

def refused (upstream : Upstream) (message : String) (records : List LogRecord) : Forwarded :=
  ⟨.text 502 message, .proxied upstream 502, records⟩

/-- Shapes a request for its upstream: `path` is appended to the path of the endpoint, and neither
the host nor the hop-by-hop fields go on. -/
def start (p : Proxy) (upstream : Upstream) (path : List Char) (r : Request) :
    Except Forwarded (Pending × List LogRecord) :=
  let requestId := (Headers.requestId? r.headers).getD "unknown"
  match targetOf (p.endpoint upstream) path r.target.query with
  | .error e =>
    .error (refused upstream "invalid upstream URI"
      [⟨.warn, target, [], "Invalid upstream URI",
        [("request_id", .shown requestId), ("error", .shown e.message)]⟩])
  | .ok t =>
    let sent := { r with
      target := t, headers := Headers.without (Headers.stripHopByHop r.headers) "host" }
    .ok (⟨upstream, requestId, sent⟩,
      [⟨.debug, target, [], "Forwarding request",
        [("request_id", .shown requestId), ("upstream", .text upstream.name),
          ("uri", .shown (String.ofList t.chars))]⟩])

def failed (pending : Pending) (reached : Bool) : LogRecord :=
  let stage := if reached then "SendRequest" else "Connect"
  ⟨.warn, target, [], "Upstream request failed",
    [("request_id", .shown pending.requestId), ("upstream", .text pending.upstream.name),
      ("error", .shown ("client error (" ++ stage ++ ")"))]⟩

/-- Passes a body on. It takes a buffer, if one is free, and does without otherwise. -/
def copy (p : Proxy) (frames : List Frame) : Body × Proxy :=
  let (buffered, buffers) := p.buffers.take
  (⟨Frame.passedOn p.bufferSize frames, none, buffered⟩, { p with buffers })

def finish (p : Proxy) (pending : Pending) (answer : Option Bytes) : Forwarded × Proxy :=
  match answer.bind (Reply.read? pending.sent.method) with
  | none => (refused pending.upstream "upstream request failed" [failed pending answer.isSome], p)
  | some reply =>
    let (body, p) := p.copy reply.frames
    let response : Response := ⟨reply.status, Headers.stripHopByHop reply.headers, body⟩
    let records := if body.buffered then [] else
      [⟨.debug, target, [], "Proxy buffers exhausted, allocating", []⟩]
    (⟨response, .proxied pending.upstream reply.status, records⟩, p)

def dropped (p : Proxy) (body : Body) : Proxy :=
  if body.buffered then { p with buffers := p.buffers.giveBack 1 } else p

/-- Forwards a request from beginning to end. Answers also what was sent to the upstream, if
anything was. -/
def forward (p : Proxy) (contact : Contact) (upstream : Upstream) (path : List Char)
    (r : Request) : Forwarded × Option Request × Proxy :=
  match p.start upstream path r with
  | .error f => (f, none, p)
  | .ok (pending, records) =>
    let answer := pending.sent.onWire?.bind fun _ => contact pending.sent
    let (f, p) := p.finish pending answer
    ({ f with records := records ++ f.records }, answer.bind fun _ => pending.sent.onWire?, p)

end Proxy

end MetricsGateway
