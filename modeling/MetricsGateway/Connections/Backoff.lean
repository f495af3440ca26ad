/-!
Pauses between retries: doubled with each attempt up to a cap, and lengthened by up to a tenth. All
arithmetic is on 64-bit words: products stop at the largest word, the sum must fit.
-/

namespace MetricsGateway.Backoff

def maxWord : Nat := (1 <<< 64) - 1

def saturatingMul (a b : Nat) : Nat := min (a * b) maxWord

def saturatingPowTwo (n : Nat) : Nat := if n < 64 then 1 <<< n else maxWord

def capped (attempt base cap : Nat) : Nat :=
  min (saturatingMul base (saturatingPowTwo (attempt - 1))) cap

/-- How many lengthenings are possible: they are `0, 1, …` below this number. -/
def jitterRange (attempt base cap : Nat) : Nat :=
  max 1 (capped attempt base cap / 10)

/-- The pause with a given lengthening; none when it does not fit a word. -/
def delay (attempt base cap jitter : Nat) : Option Nat :=
  if attempt = 0 then some 0
  else
    let total := capped attempt base cap + jitter
    if total ≤ maxWord then some total else none

/-- The shortest and the longest pause; none when the longest does not fit a word. -/
def bounds (attempt base cap : Nat) : Option (Nat × Nat) := do
  let shortest ← delay attempt base cap 0
  let longest ← delay attempt base cap (jitterRange attempt base cap - 1)
  pure (shortest, longest)

/-- The first pause after a failed accept, and the longest before its lengthening. -/
def acceptBase : Nat := 5

def acceptCap : Nat := 1000

end MetricsGateway.Backoff
