import MetricsGateway.Actor.Identity
import MetricsGateway.Failure.Basic
import MetricsGateway.Telemetry.LogRecord

/-!
The end of a run: which actor ended first and how, the exit status, and the last log records.
-/

namespace MetricsGateway

/-- The first actor of a group to end and the failure that it ended with, if any. -/
structure Outcome where
  actor : Option ActorId
  failure : Option Failure
  deriving DecidableEq, Repr

namespace Outcome

def empty : Outcome := ⟨none, none⟩

def isSuccess (o : Outcome) : Bool := o.failure.isNone

def exitStatus (o : Outcome) : Nat := if o.isSuccess then 0 else 1

end Outcome

namespace Exit

def target : String := "observatorium::lifecycle::exit"

def exiting (status : Nat) : LogRecord :=
  ⟨.info, target, [], "exiting", [("status", .count status)]⟩

def records (o : Outcome) (name : String) : List LogRecord :=
  let actor := o.actor.toList.map fun a => ("actor", FieldValue.shown a.text)
  (o.failure.toList.map fun f =>
    LogRecord.mk .error target [] (name ++ " failed") (actor ++ [("error", .shown f.message)]))
    ++ [exiting o.exitStatus]

/-- The records when flags are refused; the status is 1. -/
def refusal (errors : List FlagError) : List LogRecord :=
  (errors.map fun e =>
    LogRecord.mk .error target [] ("--" ++ e.flag.name ++ " is invalid")
      [("flag", .text e.flag.name), ("reason", .shown e.fault.message)])
    ++ [exiting 1]

end Exit

end MetricsGateway
