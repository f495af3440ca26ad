/-!
Text written in ASCII letters, digits and hyphens: first what is ASCII already, then, after a hyphen,
where the other characters go. These follow in the order of their code points, each as the distance
from the one before in digits to a varying base.
-/

namespace MetricsGateway.Text.Punycode

def digit? (c : Char) : Option Nat :=
  if 'a' ≤ c && c ≤ 'z' then some (c.toNat - 97)
  else if c.isDigit then some (c.toNat - 48 + 26)
  else none

def digitChar (d : Nat) : Char :=
  if d < 26 then Char.ofNat (97 + d) else Char.ofNat (48 + d - 26)

/-- The value from which on a digit is followed by another one, at the place `k`. -/
def threshold (k bias : Nat) : Nat :=
  if k ≤ bias then 1 else if bias + 26 ≤ k then 26 else k - bias

theorem threshold_pos (k bias : Nat) : 0 < threshold k bias := by
  unfold threshold
  split
  · omega
  · split <;> omega

/-- Scales a distance down, counting the places that this takes. -/
def scale (distance k : Nat) : Nat × Nat :=
  if 455 < distance then scale (distance / 35) (k + 36) else (distance, k)
  termination_by distance
  decreasing_by omega

/-- The bias for the next distance, when there are now `count` characters. -/
def adapt (distance count : Nat) (first : Bool) : Nat :=
  let distance := if first then distance / 700 else distance / 2
  let (distance, k) := scale (distance + distance / count) 0
  k + 36 * distance / (distance + 38)

def digits (bias k distance : Nat) : List Char :=
  let t := threshold k bias
  if distance < t then [digitChar distance]
  else
    digitChar (t + (distance - t) % (36 - t)) ::
      digits bias (k + 36) ((distance - t) / (36 - t))
  termination_by distance
  decreasing_by
    have := threshold_pos k bias
    exact Nat.lt_of_le_of_lt (Nat.div_le_self _ _) (by omega)

/-- The state of encoding: what is written, the distance so far, the bias, and how many characters
are written. -/
structure Encoding where
  written : List Char
  distance : Nat
  bias : Nat
  count : Nat

def Encoding.look (basic n : Nat) (e : Encoding) (c : Char) : Encoding :=
  if c.toNat < n then { e with distance := e.distance + 1 }
  else if c.toNat = n then
    ⟨e.written ++ digits e.bias 36 e.distance, 0, adapt e.distance (e.count + 1) (e.count = basic),
      e.count + 1⟩
  else e

def Encoding.write (basic : Nat) (text : List Char) (e : Encoding) (n : Nat) : List Nat → Encoding
  | [] => e
  | m :: rest =>
    let e := { e with distance := e.distance + (m - n) * (e.count + 1) }
    let e := text.foldl (Encoding.look basic m) e
    Encoding.write basic text { e with distance := e.distance + 1 } (m + 1) rest

def isBasic (c : Char) : Bool := c.toNat < 0x80

def encode (text : List Char) : List Char :=
  let basic := text.filter isBasic
  let others := ((text.filter (!isBasic ·)).map (·.toNat)).mergeSort.eraseDups
  let e : Encoding := ⟨[], 0, 72, basic.length⟩
  basic ++ (if basic.isEmpty then [] else ['-']) ++ (e.write basic.length text 0x80 others).written

/-- Reads a distance onto `sum` and answers what follows; each digit has the weight `weight`. -/
def readDistance (bias k weight sum : Nat) : List Char → Option (Nat × List Char)
  | [] => none
  | c :: cs =>
    match digit? c with
    | none => none
    | some d =>
      let t := threshold k bias
      let sum := sum + d * weight
      if 1 <<< 32 ≤ sum then none
      else if d < t then some (sum, cs)
      else readDistance bias (k + 36) (weight * (36 - t)) sum cs

theorem length_of_readDistance {bias k weight sum n : Nat} {cs rest : List Char}
    (h : readDistance bias k weight sum cs = some (n, rest)) : rest.length < cs.length := by
  induction cs generalizing k weight sum with
  | nil => simp [readDistance] at h
  | cons c cs ih =>
    rw [readDistance] at h
    split at h
    · simp at h
    · dsimp only at h
      split at h
      · simp at h
      · split at h
        · simp only [Option.some.injEq, Prod.mk.injEq] at h
          simp [← h.2]
        · exact Nat.lt_trans (ih h) (by simp)

/-- Inserts the characters that the distances tell into what is there. -/
def insertAll (bias n place : Nat) (text cs : List Char) : Option (List Char) :=
  if cs.isEmpty then some text
  else
    match _h : readDistance bias 36 1 place cs with
    | none => none
    | some (sum, rest) =>
      let count := text.length + 1
      let n := n + sum / count
      if Nat.isValidChar n then
        insertAll (adapt (sum - place) count (place = 0)) n (sum % count + 1)
          (text.insertIdx (sum % count) (Char.ofNat n)) rest
      else none
  termination_by cs.length
  decreasing_by exact length_of_readDistance (by assumption)

/-- What stands before the last hyphen, and what after it. -/
def splitLastHyphen (cs : List Char) : List Char × List Char :=
  match cs.reverse.span (· != '-') with
  | (tail, []) => ([], tail.reverse)
  | (tail, _ :: head) => (head.reverse, tail.reverse)

def decode? (cs : List Char) : Option (List Char) :=
  let (basic, rest) := splitLastHyphen cs
  if basic.all isBasic then insertAll 72 0x80 0 basic rest else none

end MetricsGateway.Text.Punycode
