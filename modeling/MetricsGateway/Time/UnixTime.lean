/-!
Points in time, counted from the start of 1970.
-/

namespace MetricsGateway

/-- A point in time: so many nanoseconds after, or before, the start of 1970. -/
structure UnixTime where
  nanos : Int
  deriving DecidableEq, Repr

/-- The nanoseconds since the start of 1970 in a 64-bit word: zero before it, and the largest word
for a time that is too late. -/
def UnixTime.toWord (t : UnixTime) : Nat :=
  min t.nanos.toNat ((1 <<< 64) - 1)

end MetricsGateway
