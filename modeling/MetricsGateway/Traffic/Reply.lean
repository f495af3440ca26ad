import MetricsGateway.Traffic.Chunked

/-!
Replies as they come from an upstream, byte for byte: a status line, fields, and a body whose extent
the fields give. A reply that is malformed before its body is none.
-/

namespace MetricsGateway

structure Reply where
  status : Nat
  headers : Headers
  frames : List Frame
  deriving DecidableEq, Repr

namespace Reply

/-- Status, whether the older version of the protocol is spoken, fields, and the rest. -/
structure Head where
  status : Nat
  isOld : Bool
  headers : Headers
  rest : Bytes

def skipEmptyLines : Bytes → Bytes
  | 13 :: 10 :: rest => skipEmptyLines rest
  | 10 :: rest => skipEmptyLines rest
  | bs => bs

def digit? (b : UInt8) : Option Nat :=
  if 48 ≤ b && b ≤ 57 then some (b.toNat - 48) else none

def skipPhrase : Bytes → Option Bytes
  | 32 :: rest => (HeaderField.readLine rest).map (·.2)
  | 13 :: 10 :: rest => some rest
  | 10 :: rest => some rest
  | _ => none

/-- Reads the status line: the status and whether the version is the older one. -/
def readStatusLine (bs : Bytes) : Option (Nat × Bool × Bytes) :=
  let bytes (s : String) : Bytes := Text.utf8String s
  let version :=
    if (bytes "HTTP/1.1 ").isPrefixOf bs then some false
    else if (bytes "HTTP/1.0 ").isPrefixOf bs then some true
    else none
  match version, bs.drop 9 with
  | some isOld, a :: b :: c :: rest =>
    match digit? a, digit? b, digit? c, skipPhrase rest with
    | some a, some b, some c, some rest => some (a * 100 + b * 10 + c, isOld, rest)
    | _, _, _, _ => none
  | _, _ => none

def readFields (limit : Nat) (bs : Bytes) : Option (Headers × Bytes) :=
  match bs with
  | 13 :: 10 :: rest => some ([], rest)
  | 10 :: rest => some ([], rest)
  | bs =>
    match limit with
    | 0 => none
    | limit + 1 =>
      let name := bs.takeWhile HeaderField.isTokenByte
      match HeaderField.name? (name.map fun b => Char.ofNat b.toNat), bs.drop name.length with
      | some name, 58 :: value =>
        match HeaderField.readValue value with
        | some (value, rest) =>
          (readFields limit rest).map fun (more, rest) => (⟨name, value⟩ :: more, rest)
        | none => none
      | _, _ => none

def fieldLimit : Nat := 100

def readHead (bs : Bytes) : Option Head :=
  match readStatusLine (skipEmptyLines bs) with
  | none => none
  | some (status, isOld, rest) =>
    if status < 100 then none
    else (readFields fieldLimit rest).map fun (headers, rest) => ⟨status, isOld, headers, rest⟩

/-- Reads heads until one is the answer; those before it only inform. -/
def readAnswer (fuel : Nat) (bs : Bytes) : Option Head :=
  match fuel with
  | 0 => none
  | fuel + 1 =>
    match readHead bs with
    | none => none
    | some h => if h.status < 200 && h.status != 101 then readAnswer fuel h.rest else some h

def sizedFrames (length : Nat) (bs : Bytes) : List Frame :=
  let data := bs.take length
  Frame.ofBytes data ++ (if data.length < length then [.fault] else [])

/-- The frames of the body that belongs to a head, when a request with this method was made. -/
def framesOf? (method : String) (h : Head) : Option (List Frame) :=
  if h.status = 101 || h.status = 204 || h.status = 304 || method = "HEAD" then some []
  else if method = "CONNECT" && h.status < 300 then some []
  else if Headers.has h.headers "transfer-encoding" then
    if h.isOld then none
    else if Headers.isChunked h.headers then some (Chunked.frames (h.rest.length + 1) h.rest)
    else some (Frame.ofBytes h.rest)
  else match Headers.declaredLength? h.headers with
    | some n => if n < (1 <<< 64) - 2 then some (sizedFrames n h.rest) else none
    | none =>
      if Headers.has h.headers "content-length" then none else some (Frame.ofBytes h.rest)

/-- Reads all bytes that an upstream sends in answer to a request with this method. -/
def read? (method : String) (bs : Bytes) : Option Reply :=
  (readAnswer (bs.length + 1) bs).bind fun h =>
    (framesOf? method h).map fun frames => ⟨h.status, h.headers, frames⟩

end Reply

end MetricsGateway
