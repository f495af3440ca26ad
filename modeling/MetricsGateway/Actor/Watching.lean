import MetricsGateway.Actor.Signals
import MetricsGateway.History

/-!
Watchers while anything happens in any order. Signals are raised and watchers interrupted between any two
moves of the runs, and no run has to settle before the next.
-/

namespace MetricsGateway

/-- Something is done to the watchers, or one of their runs moves. -/
inductive WatchEvent where
  | step (s : Watchers.Step)
  | move (run : Nat) (m : WatchMove)
  deriving DecidableEq, Repr

def WatchEvent.step? : WatchEvent → Option Watchers.Step
  | step s => some s
  | move _ _ => none

namespace Watchers

/-- What an event logs, and the watchers after it. -/
def happen? (w : Watchers) : WatchEvent → Option (List LogRecord × Watchers)
  | .step s => some (w.step s).2
  | .move run m => w.move? run m

def run? : Watchers → List WatchEvent → Option (List (List LogRecord) × Watchers) :=
  History.run? happen?

end Watchers

end MetricsGateway
