import MetricsGateway.Actor.StopFlag
import MetricsGateway.History

/-!
The listeners of a stop flag, each with the change that it has seen last. A wait looks at the flag when it
begins. If it has to go on it sleeps, and looks again only once it was woken and there is something that its
listener has not seen.
-/

namespace MetricsGateway

/-- A listener may have a wait under way, which sleeps or was woken since it last looked. -/
inductive ListenerWait where
  | none
  | asleep
  | woken
  deriving DecidableEq, Repr

def ListenerWait.wake : ListenerWait → ListenerWait
  | none => none
  | _ => woken

structure StopListener where
  seen : Nat
  wait : ListenerWait
  deriving DecidableEq, Repr

def StopListener.wake (l : StopListener) : StopListener := { l with wait := l.wait.wake }

/-- The flag with a count of its changes, and the listeners in the order in which they were made. -/
structure StopListeners where
  raised : Bool
  abandoned : Bool
  changes : Nat
  listeners : List StopListener
  deriving DecidableEq, Repr

/-- A step of the flag, in which a poll begins a wait or goes on with the one under way, or a listener leaves
its wait before it is over. -/
inductive ListenerEvent where
  | step (s : StopFlag.Step)
  | leave (listener : Nat)
  deriving DecidableEq, Repr

def ListenerEvent.step? : ListenerEvent → Option StopFlag.Step
  | step s => some s
  | leave _ => none

namespace StopListeners

open StopFlag (Step Answer)

def new : StopListeners := ⟨false, false, 0, []⟩

/-- Whoever sleeps is woken by the first raise only: a later one changes nothing. -/
def raise (c : StopListeners) : Bool × StopListeners :=
  if c.raised then (false, c)
  else
    (true, { c with
      raised := true, changes := c.changes + 1, listeners := c.listeners.map StopListener.wake })

def abandon (c : StopListeners) : StopListeners :=
  { c with abandoned := true, listeners := c.listeners.map StopListener.wake }

def add (c : StopListeners) (seen : Nat) : Answer × StopListeners :=
  (.listener c.listeners.length, { c with listeners := c.listeners ++ [⟨seen, .none⟩] })

/-- A wait looks at the flag. It is over if the flag is raised or nobody can raise it any more. -/
def look (c : StopListeners) : Bool × StopListener :=
  if c.raised || c.abandoned then (true, ⟨c.changes, .none⟩) else (false, ⟨c.changes, .asleep⟩)

def poll (c : StopListeners) (l : StopListener) : Bool × StopListener :=
  match l.wait with
  | .none => c.look
  | .asleep => (false, l)
  | .woken => if l.seen ≠ c.changes || c.abandoned then c.look else (false, { l with wait := .asleep })

/-- One event, if the listener it names was made. A copy has seen what its original has and does not wait. -/
def step? (c : StopListeners) : ListenerEvent → Option (Option Answer × StopListeners)
  | .step .raise =>
    if c.abandoned then some (some .gone, c)
    else let (first, c) := c.raise; some (some (.truth first), c)
  | .step .isRaised => some (some (if c.abandoned then .gone else .truth c.raised), c)
  | .step .subscribe =>
    if c.abandoned then some (some .gone, c) else let (a, c) := c.add c.changes; some (some a, c)
  | .step (.copy listener) => do
    let l ← c.listeners[listener]?
    let (a, c) := c.add l.seen
    pure (some a, c)
  | .step (.poll listener) => do
    let l ← c.listeners[listener]?
    let (ready, l) := c.poll l
    pure (some (.truth ready), { c with listeners := c.listeners.set listener l })
  | .step .abandon => some (some .nothing, c.abandon)
  | .leave listener => do
    let l ← c.listeners[listener]?
    pure (none, { c with listeners := c.listeners.set listener { l with wait := .none } })

def run? : StopListeners → List ListenerEvent → Option (List (Option Answer) × StopListeners) :=
  History.run? step?

end StopListeners

end MetricsGateway
