import MetricsGateway.Number.Binary64

/-!
The fewest digits that read back: of the decimals with `n` digits the two next to the value are
tried, for `n = 1, 2, …, 17`; the first `n` with one that reads back decides, and of two the nearer.
-/

namespace MetricsGateway.Number

structure Decimal where
  digits : Nat
  exponent : Int
  deriving DecidableEq, Repr

/-- `num / den * 10 ^ k` as numerator and denominator. -/
def timesPowerOfTen (num den : Nat) : Int → Nat × Nat
  | .ofNat k => (num * Nat.pow 10 k, den)
  | .negSucc k => (num, den * Nat.pow 10 (k + 1))

/-- The greatest `k` with `10 ^ k ≤ num / den`, for a positive fraction, found from a first guess
that is at most one too high. -/
def decimalMagnitude (num den : Nat) : Int :=
  let guess : Int := ((num.log2 : Int) - den.log2) * 30103 / 100000 + 1
  let reaches (k : Int) : Bool :=
    let (n, d) := timesPowerOfTen num den (-k)
    d ≤ n
  if reaches guess then guess
  else if reaches (guess - 1) then guess - 1
  else guess - 2

def Decimal.readsBack (bits : Nat) (d : Decimal) : Bool :=
  let (n, m) := timesPowerOfTen d.digits 1 d.exponent
  nearestBits n m == bits

/-- Of the two decimals with last place `10 ^ exponent` next to the value, the nearest that reads
back; a tie goes to the even digit. -/
def nearestReadingBack (bits num den : Nat) (exponent : Int) : Option Decimal :=
  let (n, d) := timesPowerOfTen num den (-exponent)
  let below : Decimal := ⟨n / d, exponent⟩
  let above : Decimal := ⟨n / d + 1, exponent⟩
  let first := roundHalfEven n d
  let (one, other) := if first = n / d then (below, above) else (above, below)
  if one.readsBack bits then some one
  else if other.readsBack bits then some other
  else none

def Decimal.stripped (d : Decimal) : Nat → Decimal
  | 0 => d
  | fuel + 1 =>
    if d.digits ≠ 0 && d.digits % 10 = 0 then
      Decimal.stripped ⟨d.digits / 10, d.exponent + 1⟩ fuel
    else d

/-- The shortest decimal that rounds to a positive finite double, given by its bits and value. -/
def shortestDecimal (bits num den : Nat) : Decimal :=
  let k := decimalMagnitude num den
  match (List.range 17).findSome? fun (n : Nat) => nearestReadingBack bits num den (k - n) with
  | some d => d.stripped 20
  | none => ⟨num / den, 0⟩

end MetricsGateway.Number
