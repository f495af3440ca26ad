import MetricsGateway.Number.Unsigned
import MetricsGateway.Text.Quoted
import MetricsGateway.Text.Space

/-!
The address that the server listens on: a host and a port, or a port alone for all interfaces.
-/

namespace MetricsGateway

inductive ListenError where
  | missingPort (raw : String)
  | missingHost (raw : String)
  | invalidPort (port : String)
  deriving DecidableEq, Repr

def ListenError.message : ListenError → String
  | missingPort raw => raw ++ " is missing a port"
  | missingHost raw => raw ++ " is missing a host"
  | invalidPort port => Text.quoted port ++ " is not a valid port"

namespace ListenAddress

def expanded : List Char → List Char
  | ':' :: port => "0.0.0.0:".toList ++ port
  | cs => cs

/-- Checks an address; the port is what follows the last colon, a number below 65536. -/
def read (raw : String) : Except ListenError String :=
  let address := expanded raw.toList
  match Text.splitLast ':' address with
  | none => .error (.missingPort raw)
  | some (host, port) =>
    if host.isEmpty then .error (.missingHost raw)
    else
      match Number.readUnsigned 65536 port with
      | .ok _ => .ok (String.ofList address)
      | .error _ => .error (.invalidPort (String.ofList port))

end ListenAddress

end MetricsGateway
