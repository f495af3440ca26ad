import MetricsGateway.Number.Literal
import MetricsGateway.Text.Quoted
import MetricsGateway.Text.Space
import MetricsGateway.Time.Duration

/-!
Durations as they are given in flags: one or more parts, each a number and a unit, as in `1m30s`.
The parts are rounded one by one and then added exactly.
-/

namespace MetricsGateway

inductive TimeUnit where
  | nanosecond
  | microsecond
  | millisecond
  | second
  | minute
  | hour
  deriving DecidableEq, Repr

namespace TimeUnit

def ofName? (name : List Char) : Option TimeUnit :=
  if name = ['n', 's'] then some nanosecond
  else if name = ['u', 's'] || name = ['µ', 's'] then some microsecond
  else if name = ['m', 's'] then some millisecond
  else if name = ['s'] then some second
  else if name = ['m'] then some minute
  else if name = ['h'] then some hour
  else none

def seconds : TimeUnit → Float
  | nanosecond => 1e-9
  | microsecond => 1e-6
  | millisecond => 1e-3
  | second => 1.0
  | minute => 60.0
  | hour => 3600.0

end TimeUnit

inductive DurationError where
  | empty
  | negative
  | noNumber
  | invalidNumber (number : String)
  | missingUnit
  | unknownUnit (name : String)
  | outOfRange
  deriving DecidableEq, Repr

def DurationError.message (raw : String) : DurationError → String
  | empty => "empty duration"
  | negative => "negative duration " ++ Text.quoted raw
  | noNumber => "invalid duration " ++ Text.quoted raw
  | invalidNumber number =>
    "invalid number " ++ Text.quoted number ++ " in duration " ++ Text.quoted raw
  | missingUnit => "missing unit in duration " ++ Text.quoted raw
  | unknownUnit name => "unknown unit " ++ Text.quoted name ++ " in duration " ++ Text.quoted raw
  | outOfRange => "duration " ++ Text.quoted raw ++ " out of range"

namespace Duration

def isNumberChar (c : Char) : Bool :=
  c.isDigit || c == '.'

def ofUnits? (number : Float) (unit : TimeUnit) : Option Duration :=
  ofFloat? (number * unit.seconds)

/-- The length of one part, given its number and the name of its unit. -/
def partLength (number name : List Char) : Except DurationError Duration :=
  match number, Number.readFloat number with
  | [], _ => .error .noNumber
  | _, .error _ => .error (.invalidNumber (String.ofList number))
  | _, .ok value =>
    if name = [] then .error .missingUnit
    else match TimeUnit.ofName? name with
      | none => .error (.unknownUnit (String.ofList name))
      | some unit =>
        match ofUnits? value unit with
        | none => .error .outOfRange
        | some length => .ok length

/-- The number at the start, the name after it, and the rest from the next number on. -/
def splitPart (cs : List Char) : List Char × List Char × List Char :=
  let tail := cs.dropWhile isNumberChar
  (cs.takeWhile isNumberChar, tail.takeWhile (!isNumberChar ·), tail.dropWhile (!isNumberChar ·))

theorem splitPart_rest_length_lt {cs : List Char} (h : cs ≠ []) :
    (splitPart cs).2.2.length < cs.length := by
  cases cs with
  | nil => exact absurd rfl h
  | cons c cs =>
    have hdrop (p : Char → Bool) (l : List Char) : (l.dropWhile p).length ≤ l.length :=
      (List.dropWhile_suffix p).length_le
    by_cases hc : isNumberChar c
    · simp only [splitPart, List.dropWhile_cons, hc, if_true, List.length_cons]
      exact Nat.lt_succ_of_le (Nat.le_trans (hdrop _ _) (hdrop _ _))
    · simp only [splitPart, List.dropWhile_cons, hc, List.length_cons]
      simp only [Bool.not_eq_true] at hc
      simp only [Bool.false_eq_true, if_false, List.dropWhile_cons, hc, Bool.not_false, if_true]
      exact Nat.lt_succ_of_le (hdrop _ _)

/-- Adds the parts of a text to `total`. -/
def addParts (total : Duration) (cs : List Char) : Except DurationError Duration :=
  if _h : cs = [] then .ok total
  else
    match partLength (splitPart cs).1 (splitPart cs).2.1 with
    | .error e => .error e
    | .ok length =>
      match total.add? length with
      | none => .error .outOfRange
      | some total => addParts total (splitPart cs).2.2
  termination_by cs.length
  decreasing_by exact splitPart_rest_length_lt (by assumption)

/-- Reads a duration; white space around it is skipped, and a bare `0` needs no unit. -/
def read (raw : String) : Except DurationError Duration :=
  let cs := Text.trimmed raw.toList
  match cs with
  | ['0'] => .ok zero
  | [] => .error .empty
  | '-' :: _ => .error .negative
  | cs => addParts zero cs

end Duration

end MetricsGateway
