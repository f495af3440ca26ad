import MetricsGateway.Failure.System
import MetricsGateway.Setup.Validation

/-!
What can end an actor or keep the gateway from starting.
-/

namespace MetricsGateway

inductive Failure where
  | bind (address : String) (cause : SystemFault)
  | accept (cause : SystemFault)
  | limiterClosed
  | signals (cause : SystemFault)
  | panicked (actor : String)
  | serverClosed
  | config (errors : List FlagError)
  | logging (message : String)
  | metrics (message : String)
  | system (cause : SystemFault)
  deriving DecidableEq, Repr

namespace Failure

def message : Failure → String
  | bind address cause => "failed to bind " ++ address ++ ": " ++ cause.message
  | accept cause => "failed to accept connection: " ++ cause.message
  | limiterClosed => "connection limiter closed"
  | signals cause => "failed to register signal handlers: " ++ cause.message
  | panicked actor => "actor " ++ actor ++ " panicked"
  | serverClosed => "server already closed"
  | config errors => joinedMessage errors
  | logging message => "failed to initialize logging: " ++ message
  | metrics message => "failed to install metrics recorder: " ++ message
  | system cause => cause.message

/-- The faults beneath a failure, outermost first; a failure that only wraps one has none. -/
def sources : Failure → List SystemFault
  | bind _ cause => [cause]
  | accept cause => [cause]
  | signals cause => [cause]
  | _ => []

/-- Faults of single connections, which pass by themselves. -/
def passingKinds : List FaultKind :=
  [.connectionAborted, .connectionReset, .connectionRefused, .interrupted, .wouldBlock, .timedOut]

def exhaustionCodes : List Nat := [12, 23, 24, 105]

/-- Does a fault while accepting pass by itself, so that it is worth a retry? -/
def passes (fault : SystemFault) : Bool :=
  passingKinds.contains fault.faultKind ||
    (match fault with
      | .code n => exhaustionCodes.contains n
      | _ => false)

def isTransient : Failure → Bool
  | accept cause => passes cause
  | _ => false

end Failure

end MetricsGateway
