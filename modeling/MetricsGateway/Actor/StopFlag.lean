/-!
A sticky stop flag and its listeners. Raising is idempotent and only the first raise counts; a
listener is released once the flag is raised or abandoned, whenever it subscribed.
-/

namespace MetricsGateway

/-- The flag, whether its owner gave it up, and how many listeners were made. -/
structure StopFlag where
  raised : Bool
  abandoned : Bool
  listeners : Nat
  deriving DecidableEq, Repr

namespace StopFlag

def new : StopFlag := ⟨false, false, 0⟩

def raise (f : StopFlag) : Bool × StopFlag :=
  (!f.raised, { f with raised := true })

def subscribe (f : StopFlag) : Nat × StopFlag :=
  (f.listeners, { f with listeners := f.listeners + 1 })

def abandon (f : StopFlag) : StopFlag :=
  { f with abandoned := true }

/-- Does waiting on a listener end at once? -/
def released (f : StopFlag) : Bool :=
  f.raised || f.abandoned

inductive Step where
  | raise
  | isRaised
  | subscribe
  | copy (listener : Nat)
  | poll (listener : Nat)
  | abandon
  deriving DecidableEq, Repr

inductive Answer where
  | truth (b : Bool)
  | listener (n : Nat)
  | gone
  | nothing
  deriving DecidableEq, Repr

/-- One step. What needs the flag itself answers `gone` once it was abandoned; listeners stay. -/
def step (f : StopFlag) : Step → Answer × StopFlag
  | .raise => if f.abandoned then (.gone, f) else let (first, f) := f.raise; (.truth first, f)
  | .isRaised => if f.abandoned then (.gone, f) else (.truth f.raised, f)
  | .subscribe => if f.abandoned then (.gone, f) else let (n, f) := f.subscribe; (.listener n, f)
  | .copy _ => let (n, f) := f.subscribe; (.listener n, f)
  | .poll _ => (.truth f.released, f)
  | .abandon => (.nothing, f.abandon)

def run (f : StopFlag) : List Step → List Answer
  | [] => []
  | s :: rest => let (answer, f) := f.step s; answer :: run f rest

@[simp] theorem raise_raised (f : StopFlag) : f.raise.2.raised = true := rfl

@[simp] theorem released_abandon (f : StopFlag) : f.abandon.released = true := by
  simp [released, abandon]

end StopFlag

end MetricsGateway
