import MetricsGateway.Json.Value
import MetricsGateway.Number.Literal

/-!
Reading structured data from its text.
-/

namespace MetricsGateway.Json

abbrev Step (α : Type) := Option (α × List Char)

def isBlank (c : Char) : Bool :=
  c == ' ' || c == '\n' || c == '\r' || c == '\t'

def skipBlank (cs : List Char) : List Char :=
  cs.dropWhile isBlank

def hexValue? (c : Char) : Option Nat :=
  if c.isDigit then some (c.toNat - '0'.toNat)
  else if 'a' ≤ c && c ≤ 'f' then some (c.toNat - 'a'.toNat + 10)
  else if 'A' ≤ c && c ≤ 'F' then some (c.toNat - 'A'.toNat + 10)
  else none

def hexFour? (a b c d : Char) : Option Nat := do
  let a ← hexValue? a
  let b ← hexValue? b
  let c ← hexValue? c
  let d ← hexValue? d
  pure (((a * 16 + b) * 16 + c) * 16 + d)

def escape? : Char → Option Char
  | '"' => some '"'
  | '\\' => some '\\'
  | '/' => some '/'
  | 'b' => some '\x08'
  | 'f' => some '\x0c'
  | 'n' => some '\n'
  | 'r' => some '\r'
  | 't' => some '\t'
  | _ => none

/-- The rest of a string after its opening mark. A code point past the first plane is written as
two halves; a half that stands alone becomes U+FFFD. -/
def readString (read : List Char) : List Char → Step String
  | [] => none
  | '"' :: rest => some (String.ofList read.reverse, rest)
  | '\\' :: 'u' :: a :: b :: c :: d :: '\\' :: 'u' :: e :: f :: g :: h :: rest =>
    match hexFour? a b c d, hexFour? e f g h with
    | some high, some low =>
      if 0xD800 ≤ high && high < 0xDC00 && 0xDC00 ≤ low && low < 0xE000 then
        readString (Char.ofNat ((high - 0xD800) * 0x400 + (low - 0xDC00) + 0x10000) :: read) rest
      else
        let shown := if 0xD800 ≤ high && high < 0xE000 then '\uFFFD' else Char.ofNat high
        readString (shown :: read) ('\\' :: 'u' :: e :: f :: g :: h :: rest)
    | some high, none => readString (Char.ofNat high :: read) ('\\' :: 'u' :: e :: f :: g :: h :: rest)
    | none, _ => none
  | '\\' :: 'u' :: a :: b :: c :: d :: rest =>
    match hexFour? a b c d with
    | some n => readString ((if 0xD800 ≤ n && n < 0xE000 then '\uFFFD' else Char.ofNat n) :: read) rest
    | none => none
  | '\\' :: c :: rest =>
    match escape? c with
    | some e => readString (e :: read) rest
    | none => none
  | c :: rest => readString (c :: read) rest

/-- A whole number rounded to a double and then scaled by a power of ten, in steps of at most 308;
none when the result is too large. -/
def scaledDouble (digits : Nat) (exponent : Int) : Option Float :=
  let start := Float.ofBits (UInt64.ofNat (Number.nearestBits digits 1))
  let ten (k : Nat) : Float := Number.nearestDecimal false 1 k
  if digits = 0 then some start
  else match exponent with
    | .ofNat e =>
      if e > 308 then none
      else
        let x := start * ten e
        if x.isInf then none else some x
    | .negSucc e =>
      let k := e + 1
      some ((List.replicate (min (k / 308) 4) (ten 308)).foldl (· / ·) start / ten (k % 308))

/-- A number: whole numbers that fit 64 bits stay whole, all others are doubles. -/
def readNumber (cs : List Char) : Option (Json × List Char) :=
  let (negative, body) := match cs with
    | '-' :: r => (true, r)
    | r => (false, r)
  let isPart (c : Char) : Bool := c.isDigit || c == '.' || c == 'e' || c == 'E' || c == '+' || c == '-'
  let number := body.takeWhile isPart
  let rest := body.dropWhile isPart
  let sign (x : Float) : Float := if negative then -x else x
  if number.all Char.isDigit then
    let n := Number.digitsValue number
    if number.isEmpty then none
    else if negative && n ≠ 0 && n ≤ 1 <<< 63 then some (int (-n), rest)
    else if !negative && n < 1 <<< 64 then some (int n, rest)
    else (scaledDouble n 0).map fun x => (float (sign x), rest)
  else do
    let (digits, exponent) ← Number.readDecimal number
    let x ← scaledDouble digits exponent
    pure (float (sign x), rest)

def keyword? (cs : List Char) : Step Json :=
  match cs with
  | 't' :: 'r' :: 'u' :: 'e' :: rest => some (bool true, rest)
  | 'f' :: 'a' :: 'l' :: 's' :: 'e' :: rest => some (bool false, rest)
  | 'n' :: 'u' :: 'l' :: 'l' :: rest => some (null, rest)
  | _ => none

mutual

/-- Reads one value; the fuel bounds the steps and is set from the length of the text. -/
def readValue : Nat → List Char → Step Json
  | 0, _ => none
  | fuel + 1, cs =>
    match skipBlank cs with
    | '"' :: rest => (readString [] rest).map fun (s, rest) => (str s, rest)
    | '[' :: rest =>
      match skipBlank rest with
      | ']' :: rest => some (arr [], rest)
      | rest => (readItems fuel [] rest).map fun (items, rest) => (arr items, rest)
    | '\x7b' :: rest =>
      match skipBlank rest with
      | '\x7d' :: rest => some (obj [], rest)
      | rest => (readMembers fuel [] rest).map fun (members, rest) => (obj members, rest)
    | c :: rest => if c = '-' || c.isDigit then readNumber (c :: rest) else keyword? (c :: rest)
    | [] => none

def readItems : Nat → List Json → List Char → Step (List Json)
  | 0, _, _ => none
  | fuel + 1, read, cs =>
    match readValue fuel cs with
    | none => none
    | some (item, rest) =>
      match skipBlank rest with
      | ',' :: rest => readItems fuel (item :: read) rest
      | ']' :: rest => some ((item :: read).reverse, rest)
      | _ => none

def readMembers : Nat → List (String × Json) → List Char → Step (List (String × Json))
  | 0, _, _ => none
  | fuel + 1, read, cs =>
    match skipBlank cs with
    | '"' :: rest =>
      match readString [] rest with
      | none => none
      | some (key, rest) =>
        match skipBlank rest with
        | ':' :: rest =>
          match readValue fuel rest with
          | none => none
          | some (value, rest) =>
            match skipBlank rest with
            | ',' :: rest => readMembers fuel ((key, value) :: read) rest
            | '\x7d' :: rest => some (((key, value) :: read).reverse, rest)
            | _ => none
        | _ => none
    | _ => none

end

def read? (s : String) : Option Json :=
  let cs := s.toList
  match readValue (2 * cs.length + 2) cs with
  | some (value, rest) => if (skipBlank rest).isEmpty then some value else none
  | none => none

end MetricsGateway.Json
