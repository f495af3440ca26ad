import MetricsGateway.Telemetry.LogFilter
import MetricsGateway.Telemetry.LogRecord

/-!
Which records pass a filter, and what is written for those that do. Enclosing spans that do not pass
are left out of the records inside them.
-/

namespace MetricsGateway

namespace Directive

def targets (d : Directive) (target : String) : Bool :=
  match d.target with
  | some start => start.isPrefixOf target.toList
  | none => true

def hasFields (d : Directive) (names : List String) : Bool :=
  d.fields.all fun m => names.contains (String.ofList m.name)

/-- Is the directive about spans of a kind, by the names of their fields? -/
def concerns (d : Directive) (kind : SpanKind) (names : List String) : Bool :=
  d.targets kind.target && d.span.all (String.ofList · == kind.name) && d.hasFields names

def enters (d : Directive) (s : Scope) : Bool :=
  d.concerns s.kind (s.fields.map (·.1)) &&
    d.fields.all fun m => match m.value with
      | none => true
      | some v => (s.fields.lookup (String.ofList m.name)).any fun f => f.lineText == v.text

end Directive

namespace LogFilter

/-- Is the level passed by the first directive without spans that fits? The names of fields count
for records only. -/
def passes (f : LogFilter) (target : String) (level : Level) (names : Option (List String)) : Bool :=
  match f.statics.find? fun d => d.targets target && names.all d.hasFields with
  | some d => d.limit.admits level
  | none => false

/-- Does some enclosing span raise the limit? -/
def raisedBy (f : LogFilter) (scopes : List Scope) (level : Level) : Bool :=
  scopes.any fun s => f.dynamics.any fun d => d.enters s && d.limit.admits level

/-- Does the log want spans of a kind? They are made once for all values of their fields. Where a
directive is about them, only those that are not exported are held to the limits of directives. -/
def admitsKind (f : LogFilter) (outer : List Scope) (kind : SpanKind) (names : List String) : Bool :=
  (f.dynamics.any (·.concerns kind names) &&
      (LevelLimit.exported.admits kind.level || f.dynamics.any (·.limit.admits kind.level))) ||
    f.raisedBy outer kind.level || f.passes kind.target kind.level none

def admitsScope (f : LogFilter) (outer : List Scope) (s : Scope) : Bool :=
  f.admitsKind outer s.kind (s.fields.map (·.1))

def admits (f : LogFilter) (r : LogRecord) : Bool :=
  f.raisedBy r.scopes r.level || f.passes r.target r.level (some ("message" :: r.fields.map (·.1)))

/-- The spans that pass, each inside those that do. -/
def shownScopes (f : LogFilter) (scopes : List Scope) : List Scope :=
  scopes.foldl (fun outer s => if f.admitsScope outer s then outer ++ [s] else outer) []

/-- The records that pass, with the spans that pass. -/
def select (f : LogFilter) (records : List LogRecord) : List LogRecord :=
  (records.map fun r => { r with scopes := f.shownScopes r.scopes }).filter f.admits

end LogFilter

def writeLog (filter : LogFilter) (format : LogFormat) (debug : Bool) (records : List LogRecord) :
    List Json :=
  (filter.select records).flatMap (·.write format debug)

end MetricsGateway
