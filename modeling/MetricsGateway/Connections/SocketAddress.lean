import MetricsGateway.Failure.System
import MetricsGateway.Number.Unsigned
import MetricsGateway.Text.Space
import MetricsGateway.Url.Address

/-!
Addresses that sockets are bound to: a numeric host and a port. Names of hosts would have to be
looked up; only the name of the machine itself is known.
-/

namespace MetricsGateway

/-- The addresses in use on a machine, and the port that is given out for port zero. -/
structure Ports where
  inUse : List String
  free : Nat

namespace SocketAddress

/-- Is the host numeric, with four plain decimal bytes or in square brackets? -/
def isNumericHost (host : List Char) : Bool :=
  (Address.decimalTail? host).isSome ||
    (match host with
      | '[' :: rest =>
        rest.getLast? = some ']' && (Address.ipv6? (rest.dropLast.takeWhile (· != '%'))).isSome
      | _ => false)

def isKnownHost (host : List Char) : Bool :=
  isNumericHost host || host = "localhost".toList

def read (address : String) : Except SystemFault (List Char × Nat) :=
  match Text.splitLast ':' address.toList with
  | none => .error (.worded .invalidInput "invalid socket address")
  | some (host, port) =>
    match Number.readUnsigned 65536 port with
    | .error _ => .error (.worded .invalidInput "invalid port value")
    | .ok port =>
      if isKnownHost host then .ok (host, port)
      else
        .error (.worded .uncategorized
          "failed to lookup address information: Name or service not known")

def inUseCode : Nat := 98

/-- Binds a socket to an address; answers the address with the port that it got. -/
def bind (ports : Ports) (address : String) : Except SystemFault String :=
  match read address with
  | .error fault => .error fault
  | .ok (host, port) =>
    if ports.inUse.contains address then .error (.code inUseCode)
    else
      .ok (String.ofList host ++ ":" ++ toString (if port = 0 then ports.free else port))

end SocketAddress

end MetricsGateway
