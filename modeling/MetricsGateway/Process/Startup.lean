import MetricsGateway.Process.Frontend
import MetricsGateway.Process.RunSpans
import MetricsGateway.Telemetry.SpanExport

/-!
A run of the services from beginning to end: they start, and once the server listens a signal is
raised, which ends them. All of it happens inside one span.
-/

namespace MetricsGateway

namespace Services

/-- An event and all that follows from it, if it is admitted. -/
def happen (d : Drill Services σ) (e : ServicesEvent) : Drill Services σ :=
  match d.host.step? e with
  | some step => (d.moved step).settle
  | none => d

/-- Time passes until the group returns, as far as it does. -/
def join (d : Drill Services σ) : Drill Services σ :=
  d.waitFor fun d => d.host.outcome?.isSome

end Services

namespace Startup

def starting (o : Options) : LogRecord :=
  ⟨.info, RunSpans.target, [], "Starting",
    [("listen", .shown o.server.listen), ("grace_period", .shown o.server.gracePeriod.text),
      ("query_endpoint", .shown o.proxy.queryEndpoint.text),
      ("write_endpoint", .shown o.proxy.writeEndpoint.text)]⟩

def services (o : Options) (ports : Ports) (s : Surroundings) : Drill Services Frontend :=
  .new (.new o.server) ports Frontend.site (.new o s)

/-- Upstreams that are not there, and nothing else that a request could meet. -/
def nowhere : Surroundings := ⟨false, "", ⟨1, 0, 0⟩, fun _ => none⟩

def run (o : Options) (ports : Ports) (signal : Signal) : Services × List LogRecord :=
  let d := Services.happen (services o ports nowhere) .start
  let d := if d.host.isListening then Services.happen d (.raise signal) else d
  let d := Services.join d
  (d.host, (starting o :: d.records).map (·.within (RunSpans.scope o)))

/-- The spans of a run in which nobody connects. -/
def spans (o : Options) (log : LogFilter) (s : Services) : List SpanRecord :=
  RunSpans.idleRecords o log (s.run.arrived.map fun c => s.group.nameOf c.index)

end Startup

end MetricsGateway
