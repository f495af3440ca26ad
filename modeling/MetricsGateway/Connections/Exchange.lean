import MetricsGateway.Traffic.Inbound

/-!
One connection of a client, seen from the server: requests are answered one after the other, and the
connection ends when a message says so, when the server asks it to, or when the client leaves.
-/

namespace MetricsGateway

/-- A response as the client gets it, and whether it announces the end of the connection. -/
structure Delivery where
  response : Response
  closes : Bool

/-- A connection reads requests, has one that waits at the gate, or is over, with or without a crash
of the handler. -/
inductive ExchangePhase where
  | reading
  | waiting (a : Arrival)
  | over (crashed : Bool)

/-- The phase, what is unread of the bytes of the client, whether the connection is to end after the
request that it has, and the responses on their way to the client. -/
structure Exchange where
  phase : ExchangePhase
  unread : Bytes
  parting : Bool
  delivered : List Delivery

namespace Exchange

def new : Exchange := ⟨.reading, [], false, []⟩

def isOver (e : Exchange) : Bool :=
  match e.phase with
  | .over _ => true
  | _ => false

def isWaiting (e : Exchange) : Bool :=
  match e.phase with
  | .waiting _ => true
  | _ => false

def crashed (e : Exchange) : Bool :=
  match e.phase with
  | .over crashed => crashed
  | _ => false

def receive (e : Exchange) (bs : Bytes) : Exchange := { e with unread := e.unread ++ bs }

def finish (e : Exchange) (crashed : Bool) : Exchange :=
  if e.isOver then e else { e with phase := .over crashed, unread := [] }

/-- Is the end of the body seen by the client without the end of the connection? -/
def isFramed (a : Arrival) (r : Response) : Bool :=
  !Frame.hasFault r.body.frames &&
    (!a.isOld || r.body.length.isSome || Headers.has r.headers "content-length")

/-- A response goes to the client. The connection goes on only when both sides want it and all
that belongs to the request was read. -/
def deliver (e : Exchange) (a : Arrival) (r : Response) : Exchange :=
  let persistent := a.persistent && !e.parting
  let e := { e with delivered := e.delivered ++ [Delivery.mk r (!a.isOld && !persistent)] }
  if persistent && a.whole && isFramed a r then { e with phase := .reading, unread := a.rest }
  else { e with phase := .over false, unread := [] }

/-- A status without a body ends the connection. -/
def refuse (e : Exchange) (status : Nat) : Exchange :=
  { e with
    phase := .over false, unread := []
    delivered := e.delivered ++ [Delivery.mk (Response.measured ⟨status, [], .empty⟩) true] }

/-- What the client has sent, while a request can be read. -/
def inbound (e : Exchange) : Inbound :=
  match e.phase with
  | .reading => .read e.unread
  | _ => .incomplete

/-- The server asks the connection to end: at once if no request is being handled. -/
def part (e : Exchange) : Exchange :=
  match e.phase with
  | .reading => e.finish false
  | _ => { e with parting := true }

/-- The request at the gate is answered. -/
def pass (e : Exchange) (r : Response) : Exchange :=
  match e.phase with
  | .waiting a => e.deliver a r
  | _ => e

/-- The client takes the next response. -/
def take (e : Exchange) : Option Delivery × Exchange :=
  match e.delivered with
  | [] => (none, e)
  | d :: rest => (some d, { e with delivered := rest })

end Exchange

end MetricsGateway
