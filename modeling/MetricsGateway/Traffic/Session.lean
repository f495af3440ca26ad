import MetricsGateway.Traffic.Gateway

/-!
A gateway in use, without a server: requests go to it, or past its routes straight to a second proxy,
and bodies of responses may be kept under names until they are read or released.
-/

namespace MetricsGateway

structure KeptBody where
  name : String
  body : Body
  direct : Bool

structure Session where
  gateway : Gateway
  direct : Proxy
  ready : Bool
  kept : List KeptBody

namespace Session

def new (o : Options) (recording : Bool) : Session :=
  ⟨.new o recording, .new o.proxy, false, []⟩

def dropBody (s : Session) (k : KeptBody) : Session :=
  if k.direct then { s with direct := s.direct.dropped k.body }
  else { s with gateway := s.gateway.dropped k.body }

/-- Drops the body with this name, if there is one, and answers it. -/
def release (s : Session) (name : String) : Option Body × Session :=
  match s.kept.find? (·.name = name) with
  | none => (none, s)
  | some k => (some k.body, { s with kept := s.kept.filter (·.name ≠ name) }.dropBody k)

/-- Keeps the body of a response if it is to have a name; otherwise it is read and dropped. -/
def keep (s : Session) (name : Option String) (body : Body) (direct : Bool) : Session :=
  match name with
  | none => s.dropBody ⟨"", body, direct⟩
  | some name =>
    let (_, s) := s.release name
    { s with kept := s.kept ++ [⟨name, body, direct⟩] }

def request (s : Session) (surroundings : Surroundings) (name : Option String) (r : Request) :
    Handled × Session :=
  let (h, gateway) := s.gateway.respond { surroundings with ready := s.ready } r
  (h, { s with gateway }.keep name h.response.body false)

/-- A request straight to an upstream, with `path` appended to its endpoint. -/
def forward (s : Session) (contact : Contact) (upstream : Upstream) (path : List Char)
    (name : Option String) (r : Request) : Handled × Session :=
  let (f, sent, direct) := s.direct.forward contact upstream path r
  let gateway := { s.gateway with metrics := s.gateway.metrics.record f.counted }
  (⟨f.response, f.records, sent⟩, { s with gateway, direct }.keep name f.response.body true)

end Session

end MetricsGateway
