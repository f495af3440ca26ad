import MetricsGateway.Text.Space
import MetricsGateway.Traffic.Handler

/-!
Where a path leads, and which methods are served there. Paths are compared as they came, before any
decoding.
-/

namespace MetricsGateway

inductive Route where
  | metrics
  | healthy
  | ready
  | write
  | query (tail : List Char)
  | runtime
  | config
  | unmatched
  deriving DecidableEq, Repr

namespace Route

/-- The routes for inspection are there only with the profile. -/
def ofPath (profile : Bool) (path : List Char) : Route :=
  if path = "/metrics".toList then metrics
  else if path = "/-/healthy".toList then healthy
  else if path = "/-/ready".toList then ready
  else if path = Handler.writePath.toList then write
  else if profile && path = "/debug/runtime".toList then runtime
  else if profile && path = "/debug/config".toList then config
  else match Text.dropPrefix? Handler.queryPrefix.toList path with
    | some (c :: tail) => query (c :: tail)
    | _ => unmatched

def handler : Route → Handler
  | metrics => .metrics
  | healthy => .healthy
  | ready => .ready
  | write => .write
  | query _ => .query
  | runtime => .debug
  | config => .debug
  | unmatched => .other

def methods? : Route → Option (List String)
  | write => some ["POST"]
  | query _ => none
  | unmatched => none
  | _ => some ["GET", "HEAD"]

end Route

end MetricsGateway
