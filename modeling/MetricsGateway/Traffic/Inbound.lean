import MetricsGateway.Traffic.Chunked
import MetricsGateway.Traffic.Message
import MetricsGateway.Traffic.Reply

/-!
Requests as clients send them, byte for byte: a request line, fields, and a body whose extent the
fields give. What does not begin a request is answered with a status and ends the connection.
-/

namespace MetricsGateway

/-- A request with what its connection has to know: whether the connection goes on after it, whether
it speaks the older version of the protocol, whether all of its body is there, and what follows. -/
structure Arrival where
  request : Request
  persistent : Bool
  isOld : Bool
  whole : Bool
  rest : Bytes

inductive Inbound where
  | incomplete
  | malformed (status : Nat)
  | arrived (a : Arrival)

namespace Inbound

/-- A part of a request that is read, or the reason why not. -/
inductive Part (α : Type) where
  | read (value : α)
  | missing
  | wrong

/-- The bytes up to a blank, all of one kind. -/
def word (isPart : UInt8 → Bool) (bs : Bytes) : Part (Bytes × Bytes) :=
  let text := bs.takeWhile isPart
  match bs.drop text.length with
  | [] => .missing
  | 32 :: rest => if text.isEmpty then .wrong else .read (text, rest)
  | _ => .wrong

def isTargetByte (b : UInt8) : Bool := 32 < b && b != 127

def version (bs : Bytes) : Part (Bool × Bytes) :=
  let name := bs.take 8
  let isOld? :=
    if name = Text.utf8String "HTTP/1.1" then some false
    else if name = Text.utf8String "HTTP/1.0" then some true
    else none
  match isOld?, bs.drop 8 with
  | some isOld, 13 :: 10 :: rest => .read (isOld, rest)
  | some isOld, 10 :: rest => .read (isOld, rest)
  | some _, [] => .missing
  | some _, [13] => .missing
  | some _, _ => .wrong
  | none, _ => if name.isPrefixOf (Text.utf8String "HTTP/1.") then .missing else .wrong

/-- Is there an empty line that ends the fields? -/
def hasEnd : Bytes → Bool
  | 10 :: 13 :: 10 :: _ => true
  | 10 :: 10 :: _ => true
  | _ :: rest => hasEnd rest
  | [] => false

/-- Does the connection go on after a message with these fields? -/
def isPersistent (isOld : Bool) (hs : Headers) : Bool :=
  let listed := Headers.listedByConnection hs
  if isOld then listed.contains "keep-alive" && !listed.contains "close"
  else !listed.contains "close"

/-- The request that a head begins, with what there is of its body. -/
def withBody (method : String) (target : Target) (isOld : Bool) (hs : Headers) (bs : Bytes) :
    Inbound :=
  let arrival (body : Bytes) (sized whole : Bool) (rest : Bytes) : Inbound :=
    .arrived ⟨⟨method, target, hs, body, sized⟩, isPersistent isOld hs, isOld, whole, rest⟩
  if Headers.has hs "transfer-encoding" then
    if isOld || !Headers.isChunked hs then .malformed 400
    else
      let frames := Chunked.frames (bs.length + 1) bs
      arrival (Frame.bytes frames) false (!Frame.hasFault frames) []
  else if Headers.has hs "content-length" then
    match Headers.declaredLength? hs with
    | none => .malformed 400
    | some n => arrival (bs.take n) true (n ≤ bs.length) (bs.drop n)
  else arrival [] true true bs

def afterLine (method : String) (target : Bytes) (isOld : Bool) (bs : Bytes) : Inbound :=
  if !hasEnd (10 :: bs) then .incomplete
  else match Reply.readFields Reply.fieldLimit bs with
    | none => .malformed 400
    | some (hs, rest) =>
      match (Text.ofUtf8? target).map fun cs => Target.read (String.ofList cs) with
      | some (.ok t) => withBody method t isOld hs rest
      | _ => .malformed 400

def read (bs : Bytes) : Inbound :=
  match word HeaderField.isTokenByte (Reply.skipEmptyLines bs) with
  | .missing => .incomplete
  | .wrong => .malformed 400
  | .read (method, rest) =>
    match word isTargetByte rest with
    | .missing => .incomplete
    | .wrong => .malformed 400
    | .read (target, rest) =>
      match version rest with
      | .missing => .incomplete
      | .wrong => .malformed 400
      | .read (isOld, rest) => afterLine (Text.ofLatin1 method) target isOld rest

end Inbound

end MetricsGateway
