import MetricsGateway.Traffic.Body
import MetricsGateway.Traffic.Header
import MetricsGateway.Url.Percent

/-!
Bodies in chunks: each chunk is its size in hexadecimal digits on a line, and then its data; a chunk
of no data ends the body, after fields that are passed over.
-/

namespace MetricsGateway.Chunked

def readSize (value : Option Nat) : Bytes → Option (Nat × Bytes)
  | [] => none
  | b :: rest =>
    match Percent.hexValue? b with
    | some d =>
      let n := value.getD 0 * 16 + d
      if n < 1 <<< 64 then readSize (some n) rest else none
    | none => value.map fun n => (n, b :: rest)

/-- Passes over the rest of the line of a size: blanks, and then an extension after a semicolon. -/
def skipLine (inExtension : Bool) : Bytes → Option Bytes
  | 13 :: 10 :: rest => some rest
  | b :: rest =>
    if b = 13 || b = 10 then none
    else if inExtension || b = 59 then skipLine true rest
    else if b = 9 || b = 32 then skipLine false rest
    else none
  | [] => none

/-- Reads the data of a chunk and the line break after it: the data that there is, and the rest if
all is there. -/
def readData (size : Nat) (bs : Bytes) : Bytes × Option Bytes :=
  let data := bs.take size
  if data.length < size then (data, none)
  else match bs.drop size with
    | 13 :: 10 :: rest => (data, some rest)
    | _ => (data, none)

def ends (fuel : Nat) (bs : Bytes) : Bool :=
  match fuel with
  | 0 => false
  | fuel + 1 =>
    match bs with
    | 13 :: 10 :: _ => true
    | _ =>
      let name := bs.takeWhile fun b => HeaderField.isTokenByte b
      match name, bs.drop name.length with
      | _ :: _, 58 :: value =>
        match HeaderField.readValue value with
        | some (_, rest) => ends fuel rest
        | none => false
      | _, _ => false

/-- The frames of a body in chunks; what is malformed or missing breaks the body off. -/
def frames (fuel : Nat) (bs : Bytes) : List Frame :=
  match fuel with
  | 0 => [.fault]
  | fuel + 1 =>
    match readSize none bs with
    | none => [.fault]
    | some (size, rest) =>
      match skipLine false rest with
      | none => [.fault]
      | some rest =>
        if size = 0 then if ends rest.length rest then [] else [.fault]
        else
          let (data, rest) := readData size rest
          match rest with
          | some rest => Frame.ofBytes data ++ frames fuel rest
          | none => Frame.ofBytes data ++ [.fault]

def sizeText (n : Nat) : Bytes :=
  Text.utf8 (Nat.toDigits 16 n)

def write (size : Nat) (bs : Bytes) : Bytes :=
  let chunks := if bs.isEmpty then [] else pieces size bs
  chunks.flatMap (fun c => sizeText c.length ++ [13, 10] ++ c ++ [13, 10])
    ++ Text.utf8String "0\r\n\r\n"

end MetricsGateway.Chunked
