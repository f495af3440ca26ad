import MetricsGateway.Number.Binary64
import MetricsGateway.Number.Unsigned

/-!
Reading a double from its decimal text: digits with at most one point, at least one digit, an
optional sign and an optional exponent; or the words for infinity and for no number, in any case.
-/

namespace MetricsGateway.Number

inductive LiteralError where
  | empty
  | invalid
  deriving DecidableEq, Repr

def LiteralError.message : LiteralError → String
  | .empty => "cannot parse float from empty string"
  | .invalid => "invalid float literal"

def digitsValue (cs : List Char) : Nat :=
  cs.foldl (fun n c => n * 10 + (c.toNat - '0'.toNat)) 0

/-- An exponent after its mark: an optional sign and at least one digit, to the end. -/
def readExponent (cs : List Char) : Option Int :=
  let (negative, digits) := match cs with
    | '-' :: r => (true, r)
    | '+' :: r => (false, r)
    | r => (false, r)
  if digits.isEmpty || !digits.all Char.isDigit then none
  else
    let n : Int := digitsValue digits
    some (if negative then -n else n)

/-- Digits and at most one point, then an optional exponent: the whole number that the digits
write, and the power of ten that scales it. -/
def readDecimal (cs : List Char) : Option (Nat × Int) :=
  let whole := cs.takeWhile Char.isDigit
  let rest := cs.dropWhile Char.isDigit
  let (fraction, rest) := match rest with
    | '.' :: r => (r.takeWhile Char.isDigit, r.dropWhile Char.isDigit)
    | r => ([], r)
  if whole.isEmpty && fraction.isEmpty then none
  else
    let digits := digitsValue (whole ++ fraction)
    let places : Int := fraction.length
    match rest with
    | [] => some (digits, -places)
    | c :: r => if c = 'e' || c = 'E' then (readExponent r).map (digits, · - places) else none

def isWord (word : String) (cs : List Char) : Bool :=
  cs.map Char.toLower == word.toList

def readFloat (cs : List Char) : Except LiteralError Float :=
  if cs.isEmpty then .error .empty else
  let (negative, body) := match cs with
    | '-' :: r => (true, r)
    | '+' :: r => (false, r)
    | r => (false, r)
  if isWord "inf" body || isWord "infinity" body then
    .ok (Float.ofBits (if negative then 0xFFF0000000000000 else 0x7FF0000000000000))
  else if isWord "nan" body then
    .ok (Float.ofBits (if negative then 0xFFF8000000000000 else 0x7FF8000000000000))
  else match readDecimal body with
    | some (digits, exponent) => .ok (nearestDecimal negative digits exponent)
    | none => .error .invalid

end MetricsGateway.Number
