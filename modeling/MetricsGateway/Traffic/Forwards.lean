import MetricsGateway.History
import MetricsGateway.Traffic.Proxy

/-!
Forwards under way at one proxy. They begin, get their answers and are given up in any order, and the
bodies of the responses are read, or left, and dropped at any time.
-/

namespace MetricsGateway

/-- The body of a response that is not dropped yet, and how many of its frames have been read. -/
structure OpenBody where
  body : Body
  read : Nat
  deriving DecidableEq, Repr

def OpenBody.next (b : OpenBody) : OpenBody :=
  { b with read := min (b.read + 1) b.body.frames.length }

inductive ForwardMove where
  | begin (upstream : Upstream) (path : List Char) (r : Request)
  | answer (i : Nat) (bytes : Option Bytes)
  | giveUp (i : Nat)
  | read (i : Nat)
  | drop (i : Nat)

/-- What a move tells: that a forward waits for its upstream, that it responds, the frame that is read
of a body, if there is one more, or nothing. -/
inductive ForwardReport where
  | waits (pending : Pending)
  | responds (f : Forwarded)
  | gives (frame : Option Frame)
  | silent

structure Forwards where
  proxy : Proxy
  pending : List Pending
  bodies : List OpenBody

namespace Forwards

def new (o : ProxyOptions) : Forwards := ⟨.new o, [], []⟩

/-- A forward ends, and the body of its response goes to the client. -/
def respond (s : Forwards) (f : Forwarded) : ForwardReport × Forwards :=
  (.responds f, { s with bodies := s.bodies ++ [⟨f.response.body, 0⟩] })

/-- The numbers count the forwards that wait, and the bodies that are open. -/
def move? (s : Forwards) : ForwardMove → Option (ForwardReport × Forwards)
  | .begin upstream path r =>
    match s.proxy.start upstream path r with
    | .error f => some (s.respond f)
    | .ok (pending, _) => some (.waits pending, { s with pending := s.pending ++ [pending] })
  | .answer i bytes =>
    s.pending[i]?.map fun pending =>
      let (f, proxy) := s.proxy.finish pending bytes
      { s with proxy, pending := s.pending.eraseIdx i }.respond f
  | .giveUp i => s.pending[i]?.map fun _ => (.silent, { s with pending := s.pending.eraseIdx i })
  | .read i =>
    s.bodies[i]?.map fun b =>
      (.gives b.body.frames[b.read]?, { s with bodies := s.bodies.set i b.next })
  | .drop i =>
    s.bodies[i]?.map fun b =>
      (.silent, { s with proxy := s.proxy.dropped b.body, bodies := s.bodies.eraseIdx i })

def run? : Forwards → List ForwardMove → Option (List ForwardReport × Forwards) :=
  History.run? move?

end Forwards

end MetricsGateway
