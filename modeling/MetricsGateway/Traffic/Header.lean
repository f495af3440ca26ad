import MetricsGateway.Number.Unsigned
import MetricsGateway.Text.Space
import MetricsGateway.Text.Utf8

/-!
Header fields: a list of lower-case names with their values in the order in which they came.
-/

namespace MetricsGateway

/-- A header field; its name is lower-case. -/
structure HeaderField where
  name : String
  value : Bytes
  deriving DecidableEq, Repr

abbrev Headers := List HeaderField

namespace HeaderField

def isTokenChar (c : Char) : Bool :=
  c.isAlphanum || "!#$%&'*+-.^_|~\x60".toList.contains c

def name? (cs : List Char) : Option String :=
  if cs.isEmpty || !cs.all isTokenChar then none else some (String.ofList (cs.map Char.toLower))

/-- The bytes that a value may hold: all but controls other than the tab. -/
def isValueByte (b : UInt8) : Bool :=
  b == 9 || (32 ≤ b && b != 127)

def isTokenByte (b : UInt8) : Bool :=
  isTokenChar (Char.ofNat b.toNat)

def withoutTrailingBlanks (bs : Bytes) : Bytes :=
  (bs.reverse.dropWhile fun b => b == 32 || b == 9).reverse

def readLine : Bytes → Option (Bytes × Bytes)
  | 13 :: 10 :: rest => some ([], rest)
  | 10 :: rest => some ([], rest)
  | b :: rest =>
    if isValueByte b then (readLine rest).map fun (line, rest) => (b :: line, rest) else none
  | [] => none

/-- Reads the value of a field up to the end of its line, without blanks at its ends. -/
def readValue (bs : Bytes) : Option (Bytes × Bytes) :=
  (readLine (bs.dropWhile fun b => b == 32 || b == 9)).map fun (line, rest) =>
    (withoutTrailingBlanks line, rest)

/-- A field from a name and the bytes of a value, when both are allowed. -/
def make? (name : String) (value : Bytes) : Option HeaderField :=
  match name? name.toList with
  | some name => if value.all isValueByte then some ⟨name, value⟩ else none
  | none => none

/-- The value as text, when all of it is visible ASCII, spaces and tabs. -/
def text? (value : Bytes) : Option (List Char) :=
  if value.all fun b => b == 9 || (32 ≤ b && b < 127) then
    some (value.map fun b => Char.ofNat b.toNat)
  else none

def ofText (name text : String) : HeaderField :=
  ⟨name, Text.utf8String text⟩

end HeaderField

namespace Headers

def get? (hs : Headers) (name : String) : Option Bytes :=
  (hs.find? (·.name == name)).map (·.value)

def values (hs : Headers) (name : String) : List Bytes :=
  (hs.filter (·.name == name)).map (·.value)

def has (hs : Headers) (name : String) : Bool :=
  hs.any (·.name == name)

def without (hs : Headers) (name : String) : Headers :=
  hs.filter (·.name != name)

def set (hs : Headers) (name : String) (value : Bytes) : Headers :=
  without hs name ++ [⟨name, value⟩]

/-- Fields in the order of their names; the values of one name keep their order. -/
def sorted (hs : Headers) : Headers :=
  hs.mergeSort fun a b => a.name ≤ b.name

def hopByHop : List String :=
  ["connection", "keep-alive", "proxy-authenticate", "proxy-authorization", "proxy-connection",
    "te", "trailer", "transfer-encoding", "upgrade"]

/-- The names that Connection fields list. A value that is no text lists nothing, and what is no
name is passed over. -/
def listedByConnection (hs : Headers) : List String :=
  ((values hs "connection").filterMap HeaderField.text?).flatMap fun value =>
    (Text.splitOnChar ',' value).filterMap fun token => HeaderField.name? (Text.trimmed token)

/-- The fields that are passed on: neither hop-by-hop nor listed by a Connection field. -/
def stripHopByHop (hs : Headers) : Headers :=
  let listed := listedByConnection hs
  hs.filter fun h => !listed.contains h.name && !hopByHop.contains h.name

def requestId? (hs : Headers) : Option String :=
  ((get? hs "x-request-id").bind HeaderField.text?).map String.ofList

/-- The length that the fields declare, if all of them declare the same one. -/
def declaredLength? (hs : Headers) : Option Nat :=
  let parts := (values hs "content-length").flatMap fun value =>
    match HeaderField.text? value with
    | some cs => (Text.splitOnChar ',' cs).map Text.trimmed
    | none => [[]]
  let lengths := parts.map fun cs =>
    if cs.head? = some '+' then none
    else match Number.readUnsigned (1 <<< 64) cs with
      | .ok n => some n
      | .error _ => none
  match lengths with
  | some n :: rest => if rest.all (· == some n) then some n else none
  | _ => none

def isChunked (hs : Headers) : Bool :=
  match (values hs "transfer-encoding").getLast? with
  | none => false
  | some value =>
    match HeaderField.text? value with
    | none => false
    | some cs =>
      match (Text.splitOnChar ',' cs).getLast? with
      | some coding => (Text.trimmed coding).map Char.toLower = "chunked".toList
      | none => false

end Headers

end MetricsGateway
