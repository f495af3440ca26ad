import MetricsGateway.Connections.Drill
import MetricsGateway.Traffic.Gateway

/-!
The gateway as the site of a server: requests that arrive on connections are answered by it.
-/

namespace MetricsGateway

/-- The gateway, what its requests meet, and what the last one made it send to an upstream. -/
structure Frontend where
  gateway : Gateway
  surroundings : Surroundings
  sent : Option Request

namespace Frontend

def new (o : Options) (s : Surroundings) : Frontend := ⟨.new o true, s, none⟩

def reaching (f : Frontend) (contact : Contact) : Frontend :=
  { f with surroundings := { f.surroundings with contact }, sent := none }

/-- Every request is answered at once, and the body of the response is read to its end. -/
def site : Site Frontend := fun ready metrics f r =>
  let (h, gateway) := { f.gateway with metrics }.respond { f.surroundings with ready } r
  (.respond h.response, h.records, gateway.metrics,
    { f with gateway := gateway.dropped h.response.body, sent := h.sent })

end Frontend

end MetricsGateway
