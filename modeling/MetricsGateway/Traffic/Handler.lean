/-!
The routes that the gateway serves, and the label that each route carries in metrics.
-/

namespace MetricsGateway

inductive Handler where
  | metrics
  | healthy
  | ready
  | write
  | query
  | debug
  | other
  deriving DecidableEq, Repr

namespace Handler

def label : Handler → String
  | metrics => "metrics"
  | healthy => "healthy"
  | ready => "ready"
  | write => "write"
  | query => "query"
  | debug => "debug"
  | other => "other"

def writePath : String := "/api/metrics/v1/write"

def queryPrefix : String := "/api/metrics/v1/"

/-- The pattern of the route that serves queries. -/
def queryPattern : String := "/api/metrics/v1/\x7b*path\x7d"

def ofPattern (pattern : String) : Handler :=
  if pattern = "/metrics" then metrics
  else if pattern = "/-/healthy" then healthy
  else if pattern = "/-/ready" then ready
  else if pattern = writePath then write
  else if pattern = queryPattern then query
  else if pattern.startsWith "/debug/" then debug
  else other

end Handler

end MetricsGateway
