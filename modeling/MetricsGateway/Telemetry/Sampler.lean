/-!
The sampling decision for the root of a trace.
-/

namespace MetricsGateway

inductive Sampler where
  | never
  | always
  | sometimes (probability : Float)
  deriving Repr

namespace Sampler

/-- Probabilities outside the unit interval count as its nearer end; no number means never. -/
def ofProbability (p : Float) : Sampler :=
  if p.isNaN then never
  else if p ≥ 1.0 then always
  else if p ≤ 0.0 then never
  else sometimes p

/-- The decision for a number drawn from `[0, 1)`. -/
def samples (s : Sampler) (draw : Float) : Bool :=
  match s with
  | never => false
  | always => true
  | sometimes p => draw < p

end Sampler

end MetricsGateway
