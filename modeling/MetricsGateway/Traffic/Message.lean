import MetricsGateway.Traffic.Body
import MetricsGateway.Traffic.Header
import MetricsGateway.Url.Target

/-!
Requests of clients and the responses to them.
-/

namespace MetricsGateway

/-- A request. `sized` tells whether the length of the body is known beforehand. -/
structure Request where
  method : String
  target : Target
  headers : Headers
  body : Bytes
  sized : Bool
  deriving DecidableEq, Repr

structure Response where
  status : Nat
  headers : Headers
  body : Body
  deriving DecidableEq, Repr

def isMethod (s : String) : Bool :=
  !s.isEmpty && s.toList.all HeaderField.isTokenChar

namespace Request

/-- The bytes of the body that are sent. A declared length cuts the body, and none are sent when the
body falls short of it; what has no length and belongs to a method without a body is left out. -/
def sentBody? (r : Request) : Option Bytes :=
  match Headers.declaredLength? r.headers with
  | some n => if r.body.length < n then none else some (r.body.take n)
  | none =>
    if !r.sized && ["GET", "HEAD", "CONNECT"].contains r.method then some [] else some r.body

/-- The request as it is sent to the host of its target: a path with a query, or for a tunnel the
authority. -/
def onWire? (r : Request) : Option Request :=
  let target : Target :=
    if r.method = "CONNECT" then ⟨none, r.target.authority, [], none⟩
    else ⟨none, [], r.target.path, r.target.query⟩
  r.sentBody?.map fun body => { r with target, body }

end Request

namespace Response

def plainText : HeaderField := .ofText "content-type" "text/plain; charset=utf-8"

def text (status : Nat) (s : String) : Response :=
  ⟨status, [plainText], .ofBytes (Text.utf8String s)⟩

def json (s : String) : Response :=
  ⟨200, [.ofText "content-type" "application/json"], .ofBytes (Text.utf8String s)⟩

def measured (r : Response) : Response :=
  match r.body.length with
  | some n =>
    if Headers.has r.headers "content-length" then r
    else { r with headers := r.headers ++ [.ofText "content-length" (toString n)] }
  | none => r

def headOnly (r : Response) : Response := { r with body := .empty }

def notFound : Response := ⟨404, [], .empty⟩

def notAllowed (methods : List String) : Response :=
  measured ⟨405, [.ofText "allow" (",".intercalate methods)], .empty⟩

/-- A page of text as it goes back to a request that may ask for the head alone. -/
def page (r : Response) (method : String) : Response :=
  if method = "HEAD" then r.measured.headOnly else r.measured

end Response

end MetricsGateway
