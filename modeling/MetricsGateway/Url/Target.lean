import MetricsGateway.Text.Space

/-!
The targets of HTTP requests, which are held to a stricter form than URLs: a path with an optional
query, or an absolute address with scheme and authority, or an authority alone.
-/

namespace MetricsGateway

inductive TargetError where
  | empty
  | tooLong
  | invalidCharacter
  | invalidAuthority
  | invalidFormat
  | schemeTooLong
  deriving DecidableEq, Repr

def TargetError.message : TargetError → String
  | empty => "empty string"
  | tooLong => "uri too long"
  | invalidCharacter => "invalid uri character"
  | invalidAuthority => "invalid authority"
  | invalidFormat => "invalid format"
  | schemeTooLong => "scheme too long"

structure Target where
  scheme : Option (List Char)
  authority : List Char
  pathPart : List Char
  query : Option (List Char)
  deriving DecidableEq, Repr

namespace Target

def maxBytes : Nat := 65534

/-- The path, which is a slash where an address names none. -/
def path (t : Target) : List Char :=
  if t.pathPart.isEmpty && (t.scheme.isSome || t.query.isSome) then ['/'] else t.pathPart

def chars (t : Target) : List Char :=
  (match t.scheme with
    | some s => s ++ "://".toList
    | none => []) ++ t.authority ++ t.path ++
    (match t.query with
      | some q => '?' :: q
      | none => [])

def isAuthorityChar (c : Char) : Bool :=
  c.isAlphanum || "!$&'()*+,-.:;=@[]_~".toList.contains c

structure AuthorityState where
  colons : Nat
  opened : Bool
  closed : Bool
  percent : Bool
  afterAt : Bool

/-- Takes one character of an authority into account. -/
def AuthorityState.next (s : AuthorityState) (c : Char) : Except TargetError AuthorityState :=
  let s := { s with afterAt := false }
  if c = ':' then
    if 8 ≤ s.colons then .error .invalidAuthority else .ok { s with colons := s.colons + 1 }
  else if c = '[' then
    if s.percent || s.opened then .error .invalidAuthority else .ok { s with opened := true }
  else if c = ']' then
    if !s.opened || s.closed then .error .invalidAuthority
    else .ok { s with closed := true, colons := 0, percent := false }
  else if c = '@' then .ok { s with colons := 0, percent := false, afterAt := true }
  else if c = '%' then .ok { s with percent := true }
  else if isAuthorityChar c then .ok s
  else .error .invalidCharacter

/-- Splits off the authority, which ends where a path, query or fragment begins. -/
def splitAuthority (cs : List Char) : Except TargetError (List Char × List Char) :=
  let isEnd (c : Char) : Bool := c == '/' || c == '?' || c == '#'
  let authority := cs.takeWhile (!isEnd ·)
  match authority.foldlM AuthorityState.next ⟨0, false, false, false, false⟩ with
  | .error e => .error e
  | .ok s =>
    if s.opened != s.closed || 1 < s.colons || s.afterAt || s.percent then .error .invalidAuthority
    else .ok (authority, cs.dropWhile (!isEnd ·))

def isPathChar (c : Char) : Bool :=
  let n := c.toNat
  n == 0x21 || (0x24 ≤ n && n ≤ 0x3B) || n == 0x3D || (0x40 ≤ n && n ≤ 0x5F)
    || (0x61 ≤ n && n ≤ 0x7A) || n == 0x7C || 0x7E ≤ n || c == '"' || c == '\x7b' || c == '\x7d'

def isQueryChar (c : Char) : Bool :=
  let n := c.toNat
  n == 0x21 || (0x24 ≤ n && n ≤ 0x3B) || n == 0x3D || 0x3F ≤ n

/-- Reads path and query; a fragment is dropped. -/
def readPath (cs : List Char) : Except TargetError (List Char × Option (List Char)) :=
  let path := cs.takeWhile fun c => c != '?' && c != '#'
  if !path.all isPathChar then .error .invalidCharacter
  else match cs.drop path.length with
    | '?' :: rest =>
      let query := rest.takeWhile (· != '#')
      if query.all isQueryChar then .ok (path, some query) else .error .invalidCharacter
    | _ => .ok (path, none)

/-- The scheme of an address and what follows the slashes. -/
def splitScheme (cs : List Char) : Except TargetError (Option (List Char) × List Char) :=
  let isSchemeChar (c : Char) : Bool := c.isAlphanum || c == '+' || c == '-' || c == '.'
  let scheme := cs.takeWhile isSchemeChar
  let lower := scheme.map Char.toLower
  match cs.drop scheme.length with
  | ':' :: '/' :: '/' :: rest =>
    if lower = "http".toList || lower = "https".toList then .ok (some lower, rest)
    else if cs.length ≤ 3 then .ok (none, cs)
    else if 64 < scheme.length then .error .schemeTooLong
    else .ok (some scheme, rest)
  | _ => .ok (none, cs)

def read (raw : String) : Except TargetError Target :=
  let cs := raw.toList
  if maxBytes < raw.utf8ByteSize then .error .tooLong
  else match cs with
    | [] => .error .empty
    | ['*'] => .ok ⟨none, [], ['*'], none⟩
    | '/' :: _ =>
      match readPath cs with
      | .error e => .error e
      | .ok (path, query) => .ok ⟨none, [], path, query⟩
    | cs =>
      match splitScheme cs with
      | .error e => .error e
      | .ok (scheme, rest) =>
        match splitAuthority rest with
        | .error e => .error e
        | .ok (authority, rest) =>
          if scheme.isNone then
            if rest.isEmpty then .ok ⟨none, authority, [], none⟩ else .error .invalidFormat
          else if authority.isEmpty then .error .invalidFormat
          else match readPath rest with
            | .error e => .error e
            | .ok (path, query) => .ok ⟨scheme, authority, path, query⟩

/-- The host and port of the authority, after any user information. -/
def place (t : Target) : List Char :=
  (t.authority.reverse.takeWhile (· != '@')).reverse

/-- Does a request to the target get to what listens at a numeric address? Only plain connections
are made. -/
def reaches (t : Target) (address : String) : Bool :=
  t.scheme = some "http".toList && t.place = address.toList

end Target

end MetricsGateway
