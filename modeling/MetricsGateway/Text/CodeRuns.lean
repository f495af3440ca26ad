/-!
Tables of properties of code points. A table lists runs of code points that share a value, from the
first code point on. It is written as words: a letter, and hexadecimal numbers between commas.
-/

namespace MetricsGateway.Text

/-- A word of a table: what its letter means is up to the table. -/
structure TableWord where
  letter : Char
  numbers : List Nat
  deriving DecidableEq, Repr

namespace TableWord

def hexDigit? (c : Char) : Option Nat :=
  if c.isDigit then some (c.toNat - 48)
  else if 'a' ≤ c && c ≤ 'f' then some (c.toNat - 87)
  else none

def readNumbers (n : Nat) : List Char → List Nat
  | [] => [n]
  | c :: cs =>
    match hexDigit? c with
    | some d => readNumbers (n * 16 + d) cs
    | none => if c = ',' then n :: readNumbers 0 cs else [n]

def readLine : List Char → List TableWord
  | [] => []
  | c :: cs =>
    if c = ',' || (hexDigit? c).isSome then readLine cs
    else ⟨c, readNumbers 0 cs⟩ :: readLine cs

def read (lines : List String) : List TableWord :=
  lines.flatMap fun line => readLine line.toList

end TableWord

structure CodeRun (α : Type) where
  length : Nat
  value : α

/-- The run that holds a code point: its value, and the place of the code point in it. -/
def runAt? {α : Type} : List (CodeRun α) → Nat → Option (α × Nat)
  | [], _ => none
  | r :: rs, n => if n < r.length then some (r.value, n) else runAt? rs (n - r.length)

/-- A table of letters, each with the length of its run. -/
def letterRuns (lines : List String) : List (CodeRun Char) :=
  (TableWord.read lines).map fun w => ⟨w.numbers.headD 0, w.letter⟩

def letterAt (runs : List (CodeRun Char)) (c : Char) : Option Char :=
  (runAt? runs c.toNat).map (·.1)

end MetricsGateway.Text
