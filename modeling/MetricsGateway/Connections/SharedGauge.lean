/-!
The gauge of open connections while several tasks change it. A task changes the count first and
publishes the number it then saw in a step of its own, so that other tasks may come in between.
-/

namespace MetricsGateway

/-- The number that a task has seen and not published yet, and whether it opens a connection. -/
structure Announcement where
  opening : Bool
  count : Nat
  deriving DecidableEq, Repr

/-- The count, the gauge, how many connections are held, and what is still to be published. A
connection is held once its opening has been published, and only then can it be closed. -/
structure SharedGauge where
  count : Nat
  gauge : Option Nat
  held : Nat
  pending : List Announcement
  deriving DecidableEq, Repr

/-- The step of a task: it counts a new connection, takes one off the count, or publishes the number
in the given place among those pending. -/
inductive GaugeMove where
  | opening
  | closing
  | publish (place : Nat)
  deriving DecidableEq, Repr

namespace SharedGauge

def new : SharedGauge := ⟨0, none, 0, []⟩

def isQuiet (g : SharedGauge) : Bool := g.pending.isEmpty

/-- Does the gauge show the count? A gauge that was never written stands for zero. -/
def isExact (g : SharedGauge) : Bool := g.gauge.getD 0 = g.count

def recount (g : SharedGauge) (opening : Bool) (count : Nat) : SharedGauge :=
  { g with count, pending := g.pending ++ [⟨opening, count⟩] }

def publish (g : SharedGauge) (place : Nat) (a : Announcement) : SharedGauge :=
  { g with
    gauge := some a.count
    held := if a.opening then g.held + 1 else g.held
    pending := g.pending.eraseIdx place }

def step? (g : SharedGauge) : GaugeMove → Option SharedGauge
  | .opening => some (g.recount true (g.count + 1))
  | .closing =>
    if g.held = 0 then none else some ({ g with held := g.held - 1 }.recount false (g.count - 1))
  | .publish place => (g.pending[place]?).map (g.publish place)

def run? (g : SharedGauge) : List GaugeMove → Option SharedGauge
  | [] => some g
  | m :: rest => (g.step? m).bind (·.run? rest)

end SharedGauge

end MetricsGateway
