import MetricsGateway.Number.Binary64

/-!
Spans of time, in whole nanoseconds below 2^64 seconds. Addition is exact and fails past the end of
the range; a number of seconds given as a double is rounded to the nearest nanosecond, ties to even.
-/

namespace MetricsGateway

namespace Duration

def nanosPerSecond : Nat := 1000000000

def limit : Nat := (1 <<< 64) * nanosPerSecond

end Duration

structure Duration where
  nanos : Nat
  nanos_lt : nanos < Duration.limit
  deriving DecidableEq, Repr

namespace Duration

def ofNanos? (n : Nat) : Option Duration :=
  if h : n < limit then some ⟨n, h⟩ else none

def zero : Duration := ⟨0, by decide⟩

/-- The default grace period of the server and the interval of the span exporter. -/
def fiveSeconds : Duration := ⟨5 * nanosPerSecond, by decide⟩

def seconds (d : Duration) : Nat := d.nanos / nanosPerSecond

def subsecond (d : Duration) : Nat := d.nanos % nanosPerSecond

def add? (a b : Duration) : Option Duration := ofNanos? (a.nanos + b.nanos)

/-- The nearest whole nanosecond to a number of seconds; none for negative numbers and for what is
not a number or past the end of the range. -/
def ofFloat? (x : Float) : Option Duration :=
  match Number.Binary64.ofFloat? x with
  | none => none
  | some parts =>
    if parts.negative && parts.mantissa ≠ 0 then none
    else
      let (num, den) := parts.ratio
      ofNanos? (Number.roundHalfEven (num * nanosPerSecond) den)

/-- A whole number and a fraction of `scale` units, without zeros at the end. -/
def decimalText (whole fraction places : Nat) (unit : String) : String :=
  let digits := Nat.toDigits 10 fraction
  let filled := List.replicate (places - digits.length) '0' ++ digits
  let shown := (filled.reverse.dropWhile (· == '0')).reverse
  let point := if shown.isEmpty then "" else "." ++ String.ofList shown
  toString whole ++ point ++ unit

/-- The largest unit of `s`, `ms`, `µs` and `ns` that makes the whole part positive. -/
def text (d : Duration) : String :=
  if nanosPerSecond ≤ d.nanos then decimalText d.seconds d.subsecond 9 "s"
  else if 1000000 ≤ d.nanos then decimalText (d.nanos / 1000000) (d.nanos % 1000000) 6 "ms"
  else if 1000 ≤ d.nanos then decimalText (d.nanos / 1000) (d.nanos % 1000) 3 "µs"
  else toString d.nanos ++ "ns"

end Duration

end MetricsGateway
