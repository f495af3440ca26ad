/-!
Double-precision numbers as fractions. A finite double is `mantissa * 2 ^ exponent` up to its sign;
a fraction goes to the nearest double, and a tie to the one with the even mantissa.
-/

namespace MetricsGateway.Number

/-- A finite double: `(-1) ^ negative * mantissa * 2 ^ exponent`. -/
structure Binary64 where
  negative : Bool
  mantissa : Nat
  exponent : Int
  deriving DecidableEq, Repr

def Binary64.ofFloat? (x : Float) : Option Binary64 :=
  let bits := x.toBits.toNat
  let negative : Bool := bits ≥ 1 <<< 63
  let biased : Nat := (bits >>> 52) % (1 <<< 11)
  let fraction : Nat := bits % (1 <<< 52)
  if biased = 2047 then none
  else if biased = 0 then some ⟨negative, fraction, -1074⟩
  else some ⟨negative, fraction + (1 <<< 52), (biased : Int) - 1075⟩

def Binary64.ratio (x : Binary64) : Nat × Nat :=
  match x.exponent with
  | .ofNat e => (x.mantissa <<< e, 1)
  | .negSucc e => (x.mantissa, 1 <<< (e + 1))

/-- The quotient rounded to the nearest whole number, a tie to the even one. -/
def roundHalfEven (num den : Nat) : Nat :=
  let q := num / den
  let r := num % den
  if 2 * r < den then q
  else if den < 2 * r then q + 1
  else if q % 2 = 0 then q else q + 1

/-- The bits of the double nearest to `num / den`, without sign; past the largest, infinity. -/
def nearestBits (num den : Nat) : Nat :=
  if num = 0 || den = 0 then 0 else
  let guess : Int := num.log2 - den.log2 - 52
  let scaled (e : Int) : Nat × Nat :=
    match e with
    | .ofNat k => (num, den <<< k)
    | .negSucc k => (num <<< (k + 1), den)
  let (n, d) := scaled guess
  let e := max (-1074) (if n / d < 1 <<< 52 then guess - 1 else guess)
  let (n, d) := scaled e
  let q := roundHalfEven n d
  let (q, e) := if q = 1 <<< 53 then (1 <<< 52, e + 1) else (q, e)
  if e > 971 then 2047 <<< 52
  else if q < 1 <<< 52 then q
  else ((e + 1075).toNat <<< 52) + (q - (1 <<< 52))

def nearestDecimal (negative : Bool) (digits : Nat) (exponent : Int) : Float :=
  let size : Int := (Nat.toDigits 10 digits).length + exponent
  let bits :=
    if digits = 0 || size < -400 then 0
    else if size > 400 then 2047 <<< 52
    else match exponent with
      | .ofNat e => nearestBits (digits * Nat.pow 10 e) 1
      | .negSucc e => nearestBits digits (Nat.pow 10 (e + 1))
  Float.ofBits (UInt64.ofNat (if negative then bits + (1 <<< 63) else bits))

end MetricsGateway.Number
