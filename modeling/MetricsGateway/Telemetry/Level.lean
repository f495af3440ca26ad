/-!
Levels of log records and spans, from the most to the least severe, and limits on them.
-/

namespace MetricsGateway

inductive Level where
  | error
  | warn
  | info
  | debug
  | trace
  deriving DecidableEq, Repr, Inhabited

namespace Level

def name : Level → String
  | error => "error"
  | warn => "warn"
  | info => "info"
  | debug => "debug"
  | trace => "trace"

def label : Level → String
  | error => "ERROR"
  | warn => "WARN"
  | info => "INFO"
  | debug => "DEBUG"
  | trace => "TRACE"

/-- One for errors, five for traces. -/
def verbosity : Level → Nat
  | error => 1
  | warn => 2
  | info => 3
  | debug => 4
  | trace => 5

def column (l : Level) : String :=
  String.ofList (List.replicate (5 - l.label.length) ' ') ++ l.label

end Level

/-- The least severe level that passes, or none at all. -/
inductive LevelLimit where
  | off
  | upTo (level : Level)
  deriving DecidableEq, Repr

namespace LevelLimit

def name : LevelLimit → String
  | off => "off"
  | upTo l => l.name

def verbosity : LevelLimit → Nat
  | off => 0
  | upTo l => l.verbosity

def admits (limit : LevelLimit) (l : Level) : Bool :=
  l.verbosity ≤ limit.verbosity

/-- The limit on spans that are exported, whatever the log admits. -/
def exported : LevelLimit := upTo .info

def max (a b : LevelLimit) : LevelLimit :=
  if a.verbosity < b.verbosity then b else a

end LevelLimit

end MetricsGateway
