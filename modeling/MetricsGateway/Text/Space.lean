/-!
White space and lines in text.
-/

namespace MetricsGateway.Text

/-- The characters with the property White_Space. -/
def isSpace (c : Char) : Bool :=
  let n := c.toNat
  (9 ≤ n && n ≤ 13) || n == 0x20 || n == 0x85 || n == 0xA0 || n == 0x1680
    || (0x2000 ≤ n && n ≤ 0x200A) || n == 0x2028 || n == 0x2029 || n == 0x202F
    || n == 0x205F || n == 0x3000

def trimmed (cs : List Char) : List Char :=
  ((cs.dropWhile isSpace).reverse.dropWhile isSpace).reverse

def isBlank (s : String) : Bool :=
  s.toList.all isSpace

/-- The text up to its first line break, without a carriage return before the break. -/
def firstLine (s : String) : String :=
  let line := s.toList.takeWhile (· != '\n')
  match line.reverse with
  | '\r' :: rest => if line.length < s.length then String.ofList rest.reverse else s
  | _ => String.ofList line

def lines (s : String) : List String :=
  let parts := s.splitOn "\n"
  let parts := if parts.getLast? = some "" then parts.dropLast else parts
  parts.map fun p => if p.endsWith "\r" then (p.dropEnd 1).toString else p

/-- Cuts at each occurrence of `sep`; there is always one part more than separators. -/
def splitOnChar (sep : Char) : List Char → List (List Char)
  | [] => [[]]
  | c :: cs =>
    match splitOnChar sep cs with
    | [] => [[c]]
    | part :: parts => if c = sep then [] :: part :: parts else (c :: part) :: parts

/-- Cuts before the first occurrence of `sep` and after it. -/
def splitOnce (sep : Char) (cs : List Char) : Option (List Char × List Char) :=
  match cs.dropWhile (· != sep) with
  | [] => none
  | _ :: rest => some (cs.takeWhile (· != sep), rest)

def splitLast (sep : Char) (cs : List Char) : Option (List Char × List Char) :=
  (splitOnce sep cs.reverse).map fun (after, before) => (before.reverse, after.reverse)

def dropPrefix? : List Char → List Char → Option (List Char)
  | [], cs => some cs
  | _ :: _, [] => none
  | p :: ps, c :: cs => if p = c then dropPrefix? ps cs else none

theorem dropPrefix?_eq_some_iff {start cs rest : List Char} :
    dropPrefix? start cs = some rest ↔ cs = start ++ rest := by
  induction start generalizing cs with
  | nil => simp [dropPrefix?]
  | cons c start ih =>
    cases cs with
    | nil => simp [dropPrefix?]
    | cons d cs =>
      unfold dropPrefix?
      split
      · next h => simp [ih, h]
      · next h =>
        simp only [List.cons_append, List.cons.injEq, reduceCtorEq, false_iff, not_and]
        exact fun e => absurd e.symm h

end MetricsGateway.Text
