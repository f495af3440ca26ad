/-!
Counting open connections. Trackers that are copies of one another share a count; connection
numbers, which go up from one, and the gauge of open connections are shared by all trackers.
-/

namespace MetricsGateway

/-- An open or ended connection: its number, the count it belongs to and whether it is open. -/
structure ConnectionGuard where
  number : Nat
  count : Nat
  isOpen : Bool
  deriving DecidableEq, Repr

/-- All trackers, each naming the count that it uses, and all guards in the order of creation. -/
structure ConnectionLedger where
  trackers : List Nat
  counts : List Nat
  guards : List ConnectionGuard
  gauge : Option Nat
  deriving DecidableEq, Repr

namespace ConnectionLedger

/-- One tracker with a count of its own. -/
def new : ConnectionLedger := ⟨[0], [0], [], none⟩

/-- The open connections of each tracker. -/
def active (l : ConnectionLedger) : List Nat :=
  l.trackers.map fun count => l.counts.getD count 0

def changeCount (l : ConnectionLedger) (count : Nat) (change : Nat → Nat) : ConnectionLedger :=
  let value := change (l.counts.getD count 0)
  { l with counts := l.counts.set count value, gauge := some value }

/-- Counts a new connection with a tracker; answers its number. -/
def track (l : ConnectionLedger) (tracker : Nat) : Option (Nat × ConnectionLedger) :=
  l.trackers[tracker]?.map fun count =>
    let number := l.guards.length + 1
    let l := { l with guards := l.guards ++ [ConnectionGuard.mk number count true] }
    (number, l.changeCount count (· + 1))

/-- A copy shares the count of its tracker. -/
def copy (l : ConnectionLedger) (tracker : Nat) : ConnectionLedger :=
  match l.trackers[tracker]? with
  | some count => { l with trackers := l.trackers ++ [count] }
  | none => l

/-- A further tracker with a count of its own. -/
def add (l : ConnectionLedger) : ConnectionLedger :=
  { l with trackers := l.trackers ++ [l.counts.length], counts := l.counts ++ [0] }

/-- Ends the connection at a place in the order of creation; answers whether it was open. -/
def release (l : ConnectionLedger) (place : Nat) : Bool × ConnectionLedger :=
  match l.guards[place]? with
  | some guard =>
    if guard.isOpen then
      let l := { l with guards := l.guards.set place { guard with isOpen := false } }
      (true, l.changeCount guard.count (· - 1))
    else (false, l)
  | none => (false, l)

inductive Step where
  | track (tracker : Nat)
  | copy (tracker : Nat)
  | add
  | release (place : Nat)
  deriving DecidableEq, Repr

/-- What a step answers: the number of a new connection, or whether a connection was ended. -/
structure Answer where
  number : Option Nat
  released : Option Bool
  deriving DecidableEq, Repr

def step (l : ConnectionLedger) : Step → Answer × ConnectionLedger
  | .track tracker =>
    match l.track tracker with
    | some (number, l) => (⟨some number, none⟩, l)
    | none => (⟨none, none⟩, l)
  | .copy tracker => (⟨none, none⟩, l.copy tracker)
  | .add => (⟨none, none⟩, l.add)
  | .release place => let (released, l) := l.release place; (⟨none, some released⟩, l)

/-- The answer and the ledger after each step. -/
def run (l : ConnectionLedger) : List Step → List (Answer × ConnectionLedger)
  | [] => []
  | s :: rest => let after := l.step s; after :: run after.2 rest

end ConnectionLedger

end MetricsGateway
