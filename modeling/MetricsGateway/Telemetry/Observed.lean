import MetricsGateway.Telemetry.LogRecord
import MetricsGateway.Telemetry.Metrics

/-!
What an activity leaves behind for those who watch the gateway.
-/

namespace MetricsGateway

structure Observed where
  records : List LogRecord
  counted : List Metrics.Record

namespace Observed

def none : Observed := ⟨[], []⟩

def said (records : List LogRecord) : Observed := ⟨records, []⟩

def counting (counted : List Metrics.Record) : Observed := ⟨[], counted⟩

def and (a b : Observed) : Observed := ⟨a.records ++ b.records, a.counted ++ b.counted⟩

def within (o : Observed) (s : Scope) : Observed :=
  { o with records := o.records.map (·.within s) }

end Observed

def Metrics.recordAll (m : Metrics) (records : List Metrics.Record) : Metrics :=
  records.foldl Metrics.record m

end MetricsGateway
