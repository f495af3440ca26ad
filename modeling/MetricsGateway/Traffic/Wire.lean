import MetricsGateway.Traffic.Chunked

/-!
Messages written as bytes: a start line, the fields, and the body with what tells its extent.
-/

namespace MetricsGateway.Wire

/-- How the extent of a body is told: by its length, in chunks, or by the end of the connection. -/
inductive Framing where
  | sized
  | chunked (size : Nat)
  | untilEnd
  deriving DecidableEq, Repr

def lineEnd : Bytes := [13, 10]

def field (name : String) (value : Bytes) : Bytes :=
  Text.utf8String (name ++ ": ") ++ value ++ lineEnd

def extent (f : Framing) (body : Bytes) : Bytes :=
  match f with
  | .sized => field "content-length" (Text.utf8String (toString body.length))
  | .chunked _ => field "transfer-encoding" (Text.utf8String "chunked")
  | .untilEnd => []

def framed (f : Framing) (body : Bytes) : Bytes :=
  match f with
  | .chunked size => Chunked.write size body
  | _ => body

def head (start : String) (fields : List (String × Bytes)) (f : Framing) (body : Bytes) : Bytes :=
  Text.utf8String start ++ lineEnd ++ (fields.flatMap fun (name, value) => field name value) ++
    extent f body ++ lineEnd

def message (start : String) (fields : List (String × Bytes)) (f : Framing) (body : Bytes) : Bytes :=
  head start fields f body ++ framed f body

def requestLine (method path : String) : String := method ++ " " ++ path ++ " HTTP/1.1"

def statusLine (status : Nat) (phrase : String) : String :=
  "HTTP/1.1 " ++ toString status ++ " " ++ phrase

end MetricsGateway.Wire
