/-!
Text as bytes. Decoding is strict, or replaces each longest ill-formed beginning of a character by
U+FFFD.
-/

namespace MetricsGateway

abbrev Bytes := List UInt8

namespace Text

def utf8 (cs : List Char) : Bytes :=
  cs.flatMap String.utf8EncodeChar

def utf8String (s : String) : Bytes :=
  s.toUTF8.toList

/-- How many bytes follow a first byte, and between which bounds the next one lies. -/
def utf8Lead (b : UInt8) : Option (Nat × UInt8 × UInt8) :=
  if 0xC2 ≤ b && b ≤ 0xDF then some (1, 0x80, 0xBF)
  else if b = 0xE0 then some (2, 0xA0, 0xBF)
  else if b = 0xED then some (2, 0x80, 0x9F)
  else if 0xE1 ≤ b && b ≤ 0xEF then some (2, 0x80, 0xBF)
  else if b = 0xF0 then some (3, 0x90, 0xBF)
  else if 0xF1 ≤ b && b ≤ 0xF3 then some (3, 0x80, 0xBF)
  else if b = 0xF4 then some (3, 0x80, 0x8F)
  else none

/-- Takes `count` further bytes of a character, the next one between `low` and `high`. Answers the
code point and the rest, or the rest after an ill-formed beginning. -/
def utf8Tail (value : Nat) : Nat → UInt8 → UInt8 → Bytes → Except Bytes (Nat × Bytes)
  | 0, _, _, rest => .ok (value, rest)
  | _ + 1, _, _, [] => .error []
  | count + 1, low, high, b :: rest =>
    if low ≤ b && b ≤ high then utf8Tail (value * 64 + (b.toNat - 0x80)) count 0x80 0xBF rest
    else .error (b :: rest)

def utf8LeadValue (b : UInt8) (count : Nat) : Nat :=
  b.toNat % (1 <<< (6 - count))

/-- Decodes all bytes; each ill-formed beginning becomes `none`. -/
def decodeUtf8 (fuel : Nat) (read : List (Option Char)) (bytes : Bytes) : List (Option Char) :=
  match fuel, bytes with
  | 0, _ => read.reverse
  | _, [] => read.reverse
  | fuel + 1, b :: rest =>
    if b < 0x80 then decodeUtf8 fuel (some (Char.ofNat b.toNat) :: read) rest
    else match utf8Lead b with
      | none => decodeUtf8 fuel (none :: read) rest
      | some (count, low, high) =>
        match utf8Tail (utf8LeadValue b count) count low high rest with
        | .ok (n, rest) => decodeUtf8 fuel (some (Char.ofNat n) :: read) rest
        | .error rest => decodeUtf8 fuel (none :: read) rest

def ofUtf8? (bytes : Bytes) : Option (List Char) :=
  (decodeUtf8 bytes.length [] bytes).mapM id

def ofUtf8Lossy (bytes : Bytes) : String :=
  String.ofList ((decodeUtf8 bytes.length [] bytes).map (·.getD '\uFFFD'))

/-- Bytes as characters, one for one. -/
def ofLatin1 (bytes : Bytes) : String :=
  String.ofList (bytes.map fun b => Char.ofNat b.toNat)

def latin1 (s : String) : Bytes :=
  s.toList.map fun c => UInt8.ofNat c.toNat

end Text

end MetricsGateway
