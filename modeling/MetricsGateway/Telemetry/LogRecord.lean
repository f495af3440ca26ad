import MetricsGateway.Json.Value
import MetricsGateway.Setup.Flags
import MetricsGateway.Text.Space

/-!
Log records and how they are written: as a line, or as an object.
-/

namespace MetricsGateway

/-- The value of a field. Text given by its meaning is quoted in lines; text that is shown is not. -/
inductive FieldValue where
  | text (s : String)
  | shown (s : String)
  | count (n : Nat)
  | number (x : Float)
  | truth (b : Bool)
  | integer (n : Int)

namespace FieldValue

def lineText : FieldValue → String
  | text s => Text.quoted s
  | shown s => s
  | count n => toString n
  | number x => Number.fieldText x
  | truth b => if b then "true" else "false"
  | integer n => toString n

def toJson : FieldValue → Json
  | text s => .str s
  | shown s => .str s
  | count n => .int n
  | number x => .float x
  | truth b => .bool b
  | integer n => .int n

end FieldValue

abbrev Fields := List (String × FieldValue)

/-- The name, level and target that all spans made at one place share. -/
structure SpanKind where
  name : String
  level : Level
  target : String
  deriving DecidableEq, Repr

structure Scope where
  kind : SpanKind
  fields : Fields

structure LogRecord where
  level : Level
  target : String
  scopes : List Scope
  message : String
  fields : Fields

namespace LogRecord

def within (r : LogRecord) (s : Scope) : LogRecord :=
  { r with scopes := s :: r.scopes }

/-- A character of a message. Characters that steer terminals are written out. -/
def safe (c : Char) : List Char :=
  let n := c.toNat
  if n = 0x1B || n = 7 || n = 8 || n = 0xC || n = 0x7F then
    ['\\', 'x'] ++ (Text.hexPadded 2 n).toList
  else if 0x80 ≤ n && n ≤ 0x9F then ['\\', 'u', '\x7b'] ++ Text.hexDigits n ++ ['\x7d']
  else [c]

def safeText (s : String) : String := String.ofList (s.toList.flatMap safe)

def fieldsText (fields : Fields) : String :=
  " ".intercalate (fields.map fun (name, value) => name ++ "=" ++ value.lineText)

/-- The enclosing spans, outermost first, each with its fields in braces. -/
def scopesText (scopes : List Scope) : String :=
  if scopes.isEmpty then ""
  else
    String.join (scopes.map fun s =>
      s.kind.name ++ (if s.fields.isEmpty then "" else "\x7b" ++ fieldsText s.fields ++ "\x7d") ++ ":")
      ++ " "

/-- The record as text: level, thread if asked for, spans, target, place if asked for, message and
fields. -/
def text (r : LogRecord) (debug : Bool) : String :=
  r.level.column ++ " " ++ (if debug then "ThreadId(N) " else "") ++ scopesText r.scopes ++
    r.target ++ ": " ++ (if debug then "<file>:<line>: " else "") ++ safeText r.message ++
    String.join (r.fields.map fun (name, value) => " " ++ name ++ "=" ++ value.lineText)

def scopeJson (s : Scope) : Json :=
  .obj (insertByKey "name" (.str s.kind.name) (sortedByKey (s.fields.map fun (n, v) => (n, v.toJson))))

def toJson (r : LogRecord) (debug : Bool) : Json :=
  let fields := sortedByKey (("message", Json.str r.message) :: r.fields.map fun (n, v) => (n, v.toJson))
  let spans := match r.scopes.getLast? with
    | some s => [("span", scopeJson s), ("spans", Json.arr (r.scopes.map scopeJson))]
    | none => []
  let place :=
    if debug then [("threadId", Json.str "ThreadId(N)"), ("filename", .str "<file>"),
      ("line_number", .str "<line>")]
    else []
  .obj ([("level", Json.str r.level.label), ("target", .str r.target), ("fields", .obj fields)]
    ++ spans ++ place)

/-- What is written for a record: the lines of its text, or one object. -/
def write (r : LogRecord) (format : LogFormat) (debug : Bool) : List Json :=
  match format with
  | .logfmt => (Text.lines (r.text debug)).map .str
  | .json => [r.toJson debug]

end LogRecord

end MetricsGateway
