import MetricsGateway.Text.Composition
import MetricsGateway.Text.Direction
import MetricsGateway.Text.Joining
import MetricsGateway.Text.Punycode
import MetricsGateway.Text.Space
import MetricsGateway.Text.Utf8
import MetricsGateway.Url.DomainMapping

/-!
Domains in the form in which they are looked up: lower-case ASCII. A label of other letters is
written in ASCII behind the mark `xn--`; a label that comes with this mark has to be one that could
have been written so.
-/

namespace MetricsGateway.Domain

def isForbidden (c : Char) : Bool :=
  c.toNat ≤ 0x20 || c.toNat == 0x7F || "%#/:<>?@[\\]^|".toList.contains c

/-- What is looked up is ASCII and holds nothing that is forbidden. -/
def isPlain (c : Char) : Bool := !isForbidden c && c.toNat < 0x80

structure Label where
  shown : List Char
  plain : List Char
  deriving DecidableEq, Repr

namespace Label

def encodedMark : List Char := "xn--".toList

/-- The characters that ask their neighbours to join, or not to join. -/
def joiner : Char := '\u200d'

def nonJoiner : Char := '\u200c'

/-- May the characters that steer joining stand where they do? `before` is what was passed, the
latest first. -/
def joinersFit (before : List Char) : List Char → Bool
  | [] => true
  | c :: cs =>
    let silent := before.head?.any (Text.Composition.classOf · = Text.Composition.silentClass)
    (c ≠ joiner || silent) && (c ≠ nonJoiner || silent || Text.joins before cs) &&
      joinersFit (c :: before) cs

/-- A label of letters begins with no mark. -/
def isSound (cs : List Char) : Bool :=
  !cs.head?.any Text.isMark && joinersFit [] cs

def writtenLimit : Nat := 1000

def readLimit : Nat := 2000

/-- Reads what follows the mark of an encoded label. -/
def decode? (code : List Char) : Option (List Char) :=
  if code.isEmpty || code.getLast? = some '-' || readLimit < code.length then none
  else (Text.Punycode.decode? code).filter fun cs =>
    cs.all DomainMapping.keeps && Text.Composition.composed cs = cs && isSound cs

def read? (cs : List Char) : Option Label :=
  match Text.dropPrefix? encodedMark cs with
  | some code => (decode? code).map fun shown => ⟨shown, cs⟩
  | none =>
    if cs.all Text.Punycode.isBasic then some ⟨cs, cs⟩
    else if isSound cs && cs.length ≤ writtenLimit then
      some ⟨cs, encodedMark ++ Text.Punycode.encode cs⟩
    else none

def directions (l : Label) : List Text.Direction := l.shown.map Text.Direction.ofChar

end Label

def isOrdered (labels : List Label) : Bool :=
  let directions := labels.map Label.directions
  !directions.any (·.any Text.Direction.isFromRight) || directions.all Text.Direction.isOrdered

def toAscii? (domain : List Char) : Option (List Char) := do
  let mapped ← DomainMapping.applyAll? domain
  let labels ← (Text.splitOnChar '.' (Text.Composition.composed mapped)).mapM Label.read?
  let plain := List.intercalate ['.'] (labels.map (·.plain))
  if isOrdered labels && plain.all isPlain then some plain else none

theorem isPlain_of_toAscii? {domain plain : List Char} (h : toAscii? domain = some plain) :
    ∀ c ∈ plain, isPlain c = true := by
  simp only [toAscii?, Option.bind_eq_bind, Option.bind_eq_some_iff, Option.ite_none_right_eq_some,
    Option.some.injEq, Bool.and_eq_true, List.all_eq_true] at h
  obtain ⟨_, _, _, _, ⟨_, h⟩, rfl⟩ := h
  exact h

end MetricsGateway.Domain
