import MetricsGateway.Text.Quoted
import MetricsGateway.Text.Space

/-!
Numeric hosts. A domain whose last label is a number is an IPv4 address of one to four parts, each
decimal, octal or hexadecimal, the last one filling the bytes that are left; an address in square
brackets is an IPv6 address.
-/

namespace MetricsGateway.Address

def digitsIn? (base : Nat) (cs : List Char) : Option Nat :=
  cs.foldlM (fun n c =>
    let d :=
      if c.isDigit then c.toNat - '0'.toNat
      else if 'a' ≤ c && c ≤ 'f' then c.toNat - 'a'.toNat + 10
      else if 'A' ≤ c && c ≤ 'F' then c.toNat - 'A'.toNat + 10
      else base
    if d < base then some (n * base + d) else none) 0

/-- One part of an IPv4 address: a leading `0x` means base sixteen and a leading `0` base eight. -/
def part? : List Char → Option Nat
  | [] => none
  | '0' :: 'x' :: rest => digitsIn? 16 rest
  | '0' :: 'X' :: rest => digitsIn? 16 rest
  | '0' :: c :: rest => digitsIn? 8 (c :: rest)
  | cs => digitsIn? 10 cs

def labels (domain : List Char) : List (List Char) :=
  let parts := Text.splitOnChar '.' domain
  if 1 < parts.length && parts.getLast? = some [] then parts.dropLast else parts

/-- Is the last label a number, so that the domain has to be an IPv4 address? -/
def endsInNumber (domain : List Char) : Bool :=
  match (labels domain).getLast? with
  | none => false
  | some [] => false
  | some last => last.all Char.isDigit || (part? last).isSome

def ipv4? (domain : List Char) : Option Nat := do
  let parts := labels domain
  if 4 < parts.length then none
  let numbers ← parts.mapM part?
  let last ← numbers.getLast?
  let first := numbers.dropLast
  if first.any (255 < ·) || Nat.pow 256 (4 - first.length) ≤ last then none
  pure (first.zipIdx.foldl (fun sum (n, i) => sum + n * Nat.pow 256 (3 - i)) last)

def ipv4Text (n : Nat) : String :=
  ".".intercalate ([3, 2, 1, 0].map fun i => toString (n / Nat.pow 256 i % 256))

/-- The pieces of an IPv6 address read so far, and the place of the double colon. -/
structure Pieces where
  pieces : List Nat
  gap : Option Nat

def hexPiece (max value : Nat) : List Char → Nat × List Char
  | [] => (value, [])
  | c :: cs =>
    match max, digitsIn? 16 [c] with
    | max + 1, some d => hexPiece max (value * 16 + d) cs
    | _, _ => (value, c :: cs)

def decimalByte? (cs : List Char) : Option (Nat × List Char) :=
  let digits := cs.takeWhile Char.isDigit
  match digitsIn? 10 digits with
  | some n =>
    if digits.isEmpty || (1 < digits.length && digits.head? = some '0') || 255 < n then none
    else some (n, cs.dropWhile Char.isDigit)
  | none => none

/-- The four decimal bytes at the end of an IPv6 address, as two pieces. -/
def decimalTail? (cs : List Char) : Option (List Nat) := do
  let byteAfterDot (cs : List Char) : Option (Nat × List Char) :=
    match cs with
    | '.' :: rest => decimalByte? rest
    | _ => none
  let (a, cs) ← decimalByte? cs
  let (b, cs) ← byteAfterDot cs
  let (c, cs) ← byteAfterDot cs
  let (d, cs) ← byteAfterDot cs
  if cs.isEmpty then pure [a * 256 + b, c * 256 + d] else none

/-- Reads the pieces that follow; the fuel bounds their number. -/
def readPieces : Nat → Pieces → List Char → Option Pieces
  | _, read, [] => some read
  | 0, _, _ => none
  | fuel + 1, read, cs =>
    if read.pieces.length = 8 then none
    else match cs with
      | ':' :: rest =>
        if read.gap.isSome then none
        else
          let pieces := read.pieces ++ [0]
          readPieces fuel ⟨pieces, some pieces.length⟩ rest
      | cs =>
        let (value, rest) := hexPiece 4 0 cs
        match rest with
        | [] => some ⟨read.pieces ++ [value], read.gap⟩
        | '.' :: _ =>
          if rest.length = cs.length || 6 < read.pieces.length then none
          else (decimalTail? cs).map fun two => ⟨read.pieces ++ two, read.gap⟩
        | ':' :: rest =>
          if rest.isEmpty then none else readPieces fuel ⟨read.pieces ++ [value], read.gap⟩ rest
        | _ => none

def ipv6? (cs : List Char) : Option (List Nat) := do
  let read ← match cs with
    | ':' :: ':' :: rest => readPieces 9 ⟨[0], some 1⟩ rest
    | ':' :: _ => none
    | cs => if cs.length < 2 then none else readPieces 9 ⟨[], none⟩ cs
  match read.gap with
  | none => if read.pieces.length = 8 then some read.pieces else none
  | some gap =>
    if 8 < read.pieces.length then none
    else some (read.pieces.take gap ++ List.replicate (8 - read.pieces.length) 0
      ++ read.pieces.drop gap)

/-- Where the first longest run of at least two zero pieces begins, and its length. -/
def zeroRun (pieces : List Nat) : Nat × Nat :=
  let runAt (i : Nat) : Nat := ((pieces.drop i).takeWhile (· == 0)).length
  (List.range 8).foldl (fun best i => if max 1 best.2 < runAt i then (i, runAt i) else best) (8, 0)

/-- Pieces in base sixteen; the longest run of zeros is left out. -/
def ipv6Text (pieces : List Nat) : String :=
  let (start, length) := zeroRun pieces
  let shown (ps : List Nat) : String :=
    ":".intercalate (ps.map fun p => String.ofList (Text.hexDigits p))
  if length = 0 then shown pieces
  else shown (pieces.take start) ++ "::" ++ shown (pieces.drop (start + length))

end MetricsGateway.Address
