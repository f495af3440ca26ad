import MetricsGateway.Number.Literal
import MetricsGateway.Number.Text
import MetricsGateway.Telemetry.Level
import MetricsGateway.Text.Alphanumeric
import MetricsGateway.Text.Space

/-!
Log filters: directives between commas, each a level for a target, a span and fields of the span. A
filter is kept with its most specific directive first, and a later directive for the same thing
replaces an earlier one.
-/

namespace MetricsGateway

/-- The value that a field has to have: one that is told apart by its kind, or a pattern. -/
inductive FieldPattern where
  | truth (b : Bool)
  | word (n : Nat)
  | integer (n : Int)
  | number (x : Float)
  | pattern (text : List Char)

structure FieldMatch where
  name : List Char
  value : Option FieldPattern

structure Directive where
  target : Option (List Char)
  span : Option (List Char)
  fields : List FieldMatch
  limit : LevelLimit

namespace LevelLimit

def ofNumber? : Nat → Option LevelLimit
  | 0 => some off
  | 1 => some (upTo .error)
  | 2 => some (upTo .warn)
  | 3 => some (upTo .info)
  | 4 => some (upTo .debug)
  | 5 => some (upTo .trace)
  | _ => none

def read? (cs : List Char) : Option LevelLimit :=
  match Number.readUnsigned (1 <<< 64) cs with
  | .ok n => (ofNumber? n).orElse fun _ => named? cs
  | .error _ => named? cs
where
  named? (cs : List Char) : Option LevelLimit :=
    let name := String.ofList (cs.map Char.toLower)
    if name.isEmpty then some (upTo .error)
    else ([off, upTo .error, upTo .warn, upTo .info, upTo .debug, upTo .trace]).find?
      (·.name == name)

end LevelLimit

namespace FieldPattern

/-- Reads a value as the first kind that fits. -/
def read (cs : List Char) : FieldPattern :=
  if cs = "true".toList then truth true
  else if cs = "false".toList then truth false
  else match Number.readUnsigned (1 <<< 64) cs with
    | .ok n => word n
    | .error _ =>
      match negative? cs with
      | some n => integer n
      | none =>
        match Number.readFloat cs with
        | .ok x => number x
        | .error _ => pattern cs
where
  negative? : List Char → Option Int
    | '-' :: digits =>
      if digits.isEmpty || !digits.all Char.isDigit then none
      else
        let n := Number.digitsValue digits
        if n ≤ 1 <<< 63 then some (-n) else none
    | _ => none

def text : FieldPattern → String
  | truth b => if b then "true" else "false"
  | word n => toString n
  | integer n => toString n
  | number x => Number.displayText x
  | pattern cs => String.ofList cs

end FieldPattern

def FieldMatch.text (m : FieldMatch) : String :=
  String.ofList m.name ++ (match m.value with
    | some v => "=" ++ v.text
    | none => "")

namespace Directive

/-- Does the directive look into spans, beyond the names of their fields? -/
def isDynamic (d : Directive) : Bool :=
  d.span.isSome || !d.fields.isEmpty

/-- Can it be decided from the target and the names of fields alone? -/
def isStatic (d : Directive) : Bool :=
  d.span.isNone && d.fields.all (·.value.isNone)

def text (d : Directive) : String :=
  let target := (d.target.map String.ofList).getD ""
  let span := (d.span.map String.ofList).getD ""
  let fields :=
    if d.fields.isEmpty then ""
    else "\x7b" ++ ",".intercalate (d.fields.map FieldMatch.text) ++ "\x7d"
  let brackets := if d.isDynamic then "[" ++ span ++ fields ++ "]" else ""
  let scope := if d.target.isSome || d.isDynamic then target ++ brackets ++ "=" else ""
  scope ++ d.limit.name

def readFields (cs : List Char) : Option (List FieldMatch) :=
  (Text.splitOnChar ',' cs).mapM fun field =>
    if field.isEmpty then none
    else match Text.splitOnChar '=' field with
      | name :: value :: _ => some ⟨name, some (FieldPattern.read value)⟩
      | _ => some ⟨field, none⟩

/-- Reads the level after an equals sign; nothing stands for all levels. -/
def readLimit (cs : List Char) : Option LevelLimit :=
  if cs.isEmpty then some (.upTo .trace) else LevelLimit.read? cs

/-- A place in a directive: what is left of the text without the white space around it, and what
is left of the text itself after as many characters. Signs are looked for in the first and names cut
from the second. -/
structure Cursor where
  shown : List Char
  whole : List Char

namespace Cursor

def skip (c : Cursor) (n : Nat) : Cursor := ⟨c.shown.drop n, c.whole.drop n⟩

def upTo (c : Cursor) (isSign : Char → Bool) : List Char × Cursor :=
  let n := (c.shown.takeWhile (!isSign ·)).length
  (c.whole.take n, c.skip n)

end Cursor

def readAfterSpan (target span : Option (List Char)) (fields : List FieldMatch)
    (place : Cursor) : Option Directive :=
  match place.shown with
  | [] => some ⟨target, span, fields, .upTo .trace⟩
  | '=' :: _ => (readLimit (place.skip 1).whole).map fun limit => ⟨target, span, fields, limit⟩
  | _ => none

def readSpan (target : Option (List Char)) (start : Cursor) : Option Directive :=
  let (name, next) := start.upTo fun c => c == ']' || c == '\x7b'
  match next.shown with
  | ']' :: _ => readAfterSpan target (some name) [] (next.skip 1)
  | '\x7b' :: _ =>
    let (inner, close) := (next.skip 1).upTo (· == '\x7d')
    match close.shown with
    | '\x7d' :: ']' :: _ =>
      (readFields inner).bind fun fields =>
        readAfterSpan target (if name.isEmpty then none else some name) fields (close.skip 2)
    | _ => none
  | _ => none

/-- Reads one directive. A text without level is a level if it names one, and else a target that
passes all levels. -/
def read (raw : List Char) : Option Directive :=
  let start : Cursor := ⟨Text.trimmed raw, raw⟩
  match start.shown with
  | [] => none
  | '[' :: _ => readSpan none (start.skip 1)
  | first :: _ =>
    if !(first == '-' || first == ':' || first == '_' || Text.isAlphanumeric first) then none
    else
      let (name, next) := start.upTo fun c => c == '=' || c == '['
      match next.shown with
      | '=' :: _ =>
        (readLimit (next.skip 1).whole).map fun limit => ⟨some name, none, [], limit⟩
      | '[' :: _ => readSpan (some name) (next.skip 1)
      | _ =>
        match LevelLimit.read? raw with
        | some limit => some ⟨none, none, [], limit⟩
        | none => some ⟨some raw, none, [], .upTo .trace⟩

def compareLength (a b : Option (List Char)) : Ordering :=
  let size (t : Option (List Char)) : Nat :=
    match t with
    | some cs => (String.ofList cs).utf8ByteSize + 1
    | none => 0
  compare (size a) (size b)

def compareText (a b : Option (List Char)) : Ordering :=
  match a, b with
  | none, none => .eq
  | none, some _ => .lt
  | some _, none => .gt
  | some a, some b => compare (String.ofList a) (String.ofList b)

def fieldsKey (d : Directive) : String :=
  String.join (d.fields.map fun f => (if f.value.isSome then "0" else "1") ++ f.text ++ "\x00")

/-- More specific directives come first: longer targets, then those with a span, then those with
more fields; the rest is alphabetical, backwards. -/
def order (a b : Directive) : Ordering :=
  ((compareLength a.target b.target).then
    ((compare a.span.isSome.toNat b.span.isSome.toNat).then
      ((compare a.fields.length b.fields.length).then
        ((compareText a.target b.target).then
          ((compareText a.span b.span).then
            (compare a.fieldsKey b.fieldsKey)))))).swap

def insert (d : Directive) : List Directive → List Directive
  | [] => [d]
  | e :: rest =>
    match order d e with
    | .lt => d :: e :: rest
    | .eq => d :: rest
    | .gt => e :: insert d rest

end Directive

/-- A filter: directives decided by target and field names, and those that look into spans. -/
structure LogFilter where
  statics : List Directive
  dynamics : List Directive

namespace LogFilter

def ofLimit (limit : LevelLimit) : LogFilter :=
  ⟨[⟨none, none, [], limit⟩], []⟩

/-- The filter of some directives; without any, errors pass. -/
def ofDirectives (ds : List Directive) : LogFilter :=
  let dynamics := ds.filter Directive.isDynamic
  let statics := ds.filter (!Directive.isDynamic ·) ++ dynamics.filter Directive.isStatic
  let insertAll (ds : List Directive) := ds.foldl (fun sorted d => d.insert sorted) []
  if ds.isEmpty then ofLimit (.upTo .error) else ⟨insertAll statics, insertAll dynamics⟩

/-- Reads a filter; empty parts between commas are passed over. -/
def read (raw : String) : Option LogFilter :=
  let parts := (Text.splitOnChar ',' raw.toList).filter (!·.isEmpty)
  (parts.mapM Directive.read).map ofDirectives

/-- The filter of a variable, or that of the configured level when the variable is not set or cannot
be read. -/
def ofVariable (setting : Option String) (level : Level) : LogFilter :=
  (setting.bind read).getD (ofLimit (.upTo level))

def text (f : LogFilter) : String :=
  ",".intercalate ((f.statics ++ f.dynamics).map Directive.text)

/-- The least severe level that some record can pass with. A filter on the values of fields has to
see every span. -/
def maxLimit (f : LogFilter) : LevelLimit :=
  if f.dynamics.any (·.fields.any (·.value.isSome)) then .upTo .trace
  else ((f.statics ++ f.dynamics).map (·.limit)).foldl LevelLimit.max .off

end LogFilter

end MetricsGateway
