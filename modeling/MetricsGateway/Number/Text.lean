import MetricsGateway.Number.Shortest

/-!
How doubles are written. Each way of writing takes the shortest decimal that reads back and decides
where the point stands, when an exponent is used and how the special values are named.
-/

namespace MetricsGateway.Number

inductive Magnitude where
  | notANumber
  | infinite
  | finite (value : Decimal)
  deriving Repr

def magnitude (x : Float) : Bool × Magnitude :=
  let bits := x.toBits.toNat
  let negative : Bool := bits ≥ 1 <<< 63
  match Binary64.ofFloat? x with
  | none => (negative, if bits % (1 <<< 52) = 0 then .infinite else .notANumber)
  | some parts =>
    if parts.mantissa = 0 then (negative, .finite ⟨0, 0⟩)
    else
      let (num, den) := parts.ratio
      (negative, .finite (shortestDecimal (bits % (1 <<< 63)) num den))

/-- Digits with the point where it belongs and no exponent; a whole number is followed by `whole`. -/
def positional (d : Decimal) (whole : String) : String :=
  let digits := Nat.toDigits 10 d.digits
  match d.exponent with
  | .ofNat e => String.ofList (digits ++ List.replicate (if d.digits = 0 then 0 else e) '0') ++ whole
  | .negSucc e =>
    let places := e + 1
    let filled := List.replicate (places + 1 - digits.length) '0' ++ digits
    String.ofList (filled.take (filled.length - places) ++ '.' :: filled.drop (filled.length - places))

/-- One digit, a point and the rest, and a power of ten; `plus` stands before a positive power. -/
def scientific (d : Decimal) (plus : String) : String :=
  let digits := Nat.toDigits 10 d.digits
  let power : Int := d.exponent + (digits.length - 1 : Nat)
  let mantissa := match digits with
    | [] => "0"
    | [c] => String.ofList [c]
    | c :: rest => String.ofList (c :: '.' :: rest)
  mantissa ++ "e" ++ (if power < 0 then toString power else plus ++ toString power)

def signed (negative : Bool) (text : String) : String :=
  if negative then "-" ++ text else text

/-- In messages: never with an exponent, whole numbers without a point. -/
def displayText (x : Float) : String :=
  match magnitude x with
  | (_, .notANumber) => "NaN"
  | (negative, .infinite) => signed negative "inf"
  | (negative, .finite d) => signed negative (positional d "")

def Decimal.power (d : Decimal) : Int :=
  d.exponent + ((Nat.toDigits 10 d.digits).length - 1 : Nat)

/-- In log fields: positional from `1e-4` to below `1e16`, else with an exponent. -/
def fieldText (x : Float) : String :=
  match magnitude x with
  | (_, .notANumber) => "NaN"
  | (negative, .infinite) => signed negative "inf"
  | (negative, .finite d) =>
    signed negative <|
      if d.digits = 0 || (-4 ≤ d.power && d.power < 16) then positional d ".0" else scientific d ""

/-- In structured data: positional from `1e-5` to below `1e16`, else with a signed exponent; only
finite numbers have such a text. -/
def dataText? (x : Float) : Option String :=
  match magnitude x with
  | (_, .notANumber) => none
  | (_, .infinite) => none
  | (negative, .finite d) =>
    some <| signed negative <|
      if d.digits = 0 || (-5 ≤ d.power && d.power < 16) then positional d ".0" else scientific d "+"

end MetricsGateway.Number
