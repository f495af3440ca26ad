import MetricsGateway.Failure.System
import MetricsGateway.Pool

/-!
Accepting connections within a limit. An attempt to accept takes a permit first and then waits for a
client; the permit goes over to the connection, and an attempt that fails or is given up returns it.
-/

namespace MetricsGateway

/-- The permits, and whether the attempt under way holds one of them. -/
structure Listener where
  permits : Pool
  permitted : Bool
  deriving DecidableEq, Repr

namespace Listener

def new (maxConnections : Nat) : Listener := ⟨.new maxConnections, false⟩

/-- The attempt takes a permit, if one is free and it has none yet. -/
def acquire (l : Listener) : Listener :=
  if l.permitted then l else ⟨l.permits.take.2, l.permits.take.1⟩

/-- The attempt is given up. -/
def cancel (l : Listener) : Listener :=
  if l.permitted then ⟨l.permits.giveBack 1, false⟩ else l

/-- The permit of the attempt goes over to a connection. -/
def handOver (l : Listener) : Listener := { l with permitted := false }

/-- Connections return their permits. -/
def release (l : Listener) (count : Nat) : Listener :=
  { l with permits := l.permits.giveBack count }

end Listener

/-- The clients that have connected and wait to be accepted, in order, and whether the socket is
broken. -/
structure Backlog where
  waiting : List Nat
  broken : Bool
  deriving DecidableEq, Repr

namespace Backlog

def empty : Backlog := ⟨[], false⟩

/-- The number of the fault of a broken socket. -/
def brokenCode : Nat := 22

/-- The next client, or the fault of the socket; nothing while there is nothing to accept. -/
def next? (b : Backlog) : Option (Except SystemFault (Nat × Backlog)) :=
  if b.broken then some (.error (.code brokenCode))
  else match b.waiting with
    | [] => none
    | client :: rest => some (.ok (client, { b with waiting := rest }))

end Backlog

/-- A listener in use without a server: its clients, how many have connected, and the permits that
are kept by number until they are dropped. -/
structure Reception where
  listener : Listener
  backlog : Backlog
  connected : Nat
  kept : List Bool
  deriving DecidableEq, Repr

namespace Reception

def new (maxConnections : Nat) : Reception := ⟨.new maxConnections, .empty, 0, []⟩

/-- How an attempt ends that is given up when it would have to wait. -/
inductive Attempt where
  | blocked
  | accepted (client : Nat)
  | failed (fault : SystemFault)
  deriving DecidableEq, Repr

def connect (r : Reception) : Reception :=
  { r with
    connected := r.connected + 1
    backlog := { r.backlog with waiting := r.backlog.waiting ++ [r.connected] } }

def accept (r : Reception) : Attempt × Reception :=
  let listener := r.listener.acquire
  if !listener.permitted then (.blocked, r)
  else match r.backlog.next? with
    | none => (.blocked, { r with listener := listener.cancel })
    | some (.error fault) => (.failed fault, { r with listener := listener.cancel })
    | some (.ok (client, backlog)) =>
      (.accepted client,
        { r with listener := listener.handOver, backlog, kept := r.kept ++ [true] })

/-- Drops a kept permit; answers whether it was there. -/
def drop (r : Reception) (permit : Nat) : Bool × Reception :=
  if r.kept[permit]? = some true then
    (true, { r with listener := r.listener.release 1, kept := r.kept.set permit false })
  else (false, r)

def breakSocket (r : Reception) : Reception :=
  { r with backlog := ⟨[], true⟩ }

end Reception

end MetricsGateway
