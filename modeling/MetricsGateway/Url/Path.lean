import MetricsGateway.Text.Space
import MetricsGateway.Url.Percent

/-!
Paths of URLs as lists of segments. Dots, also percent-encoded ones, are resolved while the segments
are read, so a path never climbs above its root.
-/

namespace MetricsGateway.Url

def isSingleDot (segment : List Char) : Bool :=
  let lower := segment.map Char.toLower
  lower == ['.'] || lower == ['%', '2', 'e']

/-- The spellings of a segment that goes up. -/
def isDoubleDot (segment : List Char) : Bool :=
  let lower := segment.map Char.toLower
  lower == ['.', '.'] || lower == ['.', '%', '2', 'e'] || lower == ['%', '2', 'e', '.']
    || lower == ['%', '2', 'e', '%', '2', 'e']

/-- A letter and a colon or a bar, as in the name of a drive: such a segment is never left. -/
def isDriveLetter (segment : List Char) : Bool :=
  match segment with
  | [a, b] => a.isAlpha && (b == ':' || b == '|')
  | _ => false

/-- Leaves the last segment; segments are kept last first. -/
def leave : List (List Char) → List (List Char)
  | [] => []
  | segment :: above => if isDriveLetter segment then segment :: above else above

/-- Resolves raw segments onto the segments read so far, last first. A path that ends in dots ends
with an empty segment. -/
def resolve (read : List (List Char)) : List (List Char) → List (List Char)
  | [] => read.reverse
  | [last] =>
    let segment := Percent.encode Percent.inPath last
    if isDoubleDot segment then ([] :: leave read).reverse
    else if isSingleDot segment then ([] :: read).reverse
    else (segment :: read).reverse
  | raw :: rest =>
    let segment := Percent.encode Percent.inPath raw
    if isDoubleDot segment then resolve (leave read) rest
    else if isSingleDot segment then resolve read rest
    else resolve (segment :: read) rest

/-- Tabs and line breaks are skipped everywhere in a URL. -/
def isSkipped (c : Char) : Bool :=
  c == '\t' || c == '\n' || c == '\r'

def slashed (c : Char) : Char :=
  if c = '\\' then '/' else c

def segmentsOf (cs : List Char) : List (List Char) :=
  let cs := (cs.filter (!isSkipped ·)).map slashed
  let cs := match cs with
    | '/' :: rest => rest
    | cs => cs
  resolve [] (Text.splitOnChar '/' cs)

def pathText (segments : List (List Char)) : List Char :=
  segments.flatMap ('/' :: ·)

end MetricsGateway.Url
