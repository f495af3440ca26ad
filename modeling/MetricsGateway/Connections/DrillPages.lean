import MetricsGateway.Connections.Drill

/-!
The pages of a server that is drilled: one plain page, one that tells whether the server is ready,
one that waits at the gate, and one that crashes.
-/

namespace MetricsGateway.DrillPages

def page? (ready : Bool) (path : String) : Option Reaction :=
  if path = "/" then some (.respond (.text 200 "root"))
  else if path = "/-/ready" then
    some (.respond (if ready then .text 200 "ready" else .text 503 "not ready"))
  else if path = "/gate" then some .wait
  else if path = "/panic" then some .crash
  else none

def passed : Response := .measured (.text 200 "passed")

def react (ready : Bool) (r : Request) : Reaction :=
  match page? ready (String.ofList r.target.path) with
  | none => .respond .notFound
  | some reaction =>
    if !(["GET", "HEAD"].contains r.method) then .respond (.notAllowed ["GET", "HEAD"])
    else match reaction with
      | .respond response => .respond (response.page r.method)
      | other => other

def site {σ : Type} : Site σ := fun ready metrics state r => (react ready r, [], metrics, state)

end MetricsGateway.DrillPages
