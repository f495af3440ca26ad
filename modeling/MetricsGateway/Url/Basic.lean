import MetricsGateway.Number.Unsigned
import MetricsGateway.Url.Address
import MetricsGateway.Url.Domain
import MetricsGateway.Url.Path

/-!
Absolute URLs of the schemes `http` and `https`: their parts, their text, and reading them from a
text. Texts of other schemes are read far enough to know which fault comes first.
-/

namespace MetricsGateway

inductive Scheme where
  | http
  | https
  deriving DecidableEq, Repr

namespace Scheme

def name : Scheme → String
  | http => "http"
  | https => "https"

def defaultPort : Scheme → Nat
  | http => 80
  | https => 443

end Scheme

inductive Host where
  | domain (name : List Char)
  | ipv4 (bits : Nat)
  | ipv6 (pieces : List Nat)
  deriving DecidableEq, Repr

def Host.text : Host → String
  | domain name => String.ofList name
  | ipv4 bits => Address.ipv4Text bits
  | ipv6 pieces => "[" ++ Address.ipv6Text pieces ++ "]"

inductive UrlError where
  | emptyHost
  | invalidDomain
  | invalidPort
  | invalidIpv4
  | invalidIpv6
  | invalidDomainCharacter
  | noScheme
  | unsupportedScheme (scheme : String)
  deriving DecidableEq, Repr

/-- A URL in parts; those of its text are written as they stand in it. The port is given only when
it is not the default of the scheme. -/
structure Url where
  scheme : Scheme
  username : List Char
  password : List Char
  host : Host
  port : Option Nat
  segments : List (List Char)
  query : Option (List Char)
  fragment : Option (List Char)
  deriving DecidableEq, Repr

namespace Url

def userInfoText (u : Url) : List Char :=
  if u.username.isEmpty && u.password.isEmpty then []
  else u.username ++ (if u.password.isEmpty then [] else ':' :: u.password) ++ ['@']

def authorityText (u : Url) : List Char :=
  u.userInfoText ++ u.host.text.toList ++
    (match u.port with
      | some p => ':' :: (toString p).toList
      | none => [])

def path (u : Url) : List Char :=
  pathText u.segments

def queryText (u : Url) : List Char :=
  match u.query with
  | some q => '?' :: q
  | none => []

def chars (u : Url) : List Char :=
  u.scheme.name.toList ++ "://".toList ++ u.authorityText ++ u.path ++ u.queryText ++
    (match u.fragment with
      | some f => '#' :: f
      | none => [])

def text (u : Url) : String := String.ofList u.chars

def withPath (u : Url) (path : List Char) : Url :=
  { u with segments := segmentsOf path }

def withQuery (u : Url) (query : List Char) : Url :=
  { u with query := some (Percent.encode Percent.inQuery (query.filter (!isSkipped ·))) }

@[simp]
theorem withPath_authorityText (u : Url) (path : List Char) :
    (u.withPath path).authorityText = u.authorityText := rfl

@[simp]
theorem withQuery_authorityText (u : Url) (query : List Char) :
    (u.withQuery query).authorityText = u.authorityText := rfl

@[simp]
theorem withQuery_segments (u : Url) (query : List Char) :
    (u.withQuery query).segments = u.segments := rfl

/-- Controls and spaces at both ends of a text are not part of a URL. -/
def isTrimmed (c : Char) : Bool := c.toNat ≤ 0x20

/-- Splits a text into the name of its scheme, in lower case, and what follows the colon. -/
def splitScheme? (cs : List Char) : Option (List Char × List Char) :=
  let isSchemeChar (c : Char) : Bool := c.isAlphanum || c == '+' || c == '-' || c == '.'
  match cs with
  | [] => none
  | first :: _ =>
    if !first.isAlpha then none
    else match cs.dropWhile isSchemeChar with
      | ':' :: rest => some ((cs.takeWhile isSchemeChar).map Char.toLower, rest)
      | _ => none

def isAuthorityEnd (special : Bool) (c : Char) : Bool :=
  c == '/' || c == '?' || c == '#' || (special && c == '\\')

/-- The encoded name and password in a user information. -/
def readUserInfo (cs : List Char) : List Char × List Char :=
  match Text.splitOnce ':' cs with
  | some (name, password) =>
    (Percent.encode Percent.inUserInfo name, Percent.encode Percent.inUserInfo password)
  | none => (Percent.encode Percent.inUserInfo cs, [])

/-- The host at the start of a text and the rest: it ends at a colon outside square brackets, at a
slash or backslash, or where the query or fragment begins. -/
def splitHost (special : Bool) (inBrackets : Bool) : List Char → List Char × List Char
  | [] => ([], [])
  | c :: cs =>
    if (c == ':' && !inBrackets) || isAuthorityEnd special c then ([], c :: cs)
    else
      let (host, rest) := splitHost special (c == '[' || (inBrackets && c != ']')) cs
      (c :: host, rest)

def readBracketed (cs : List Char) : Except UrlError Host :=
  match cs.reverse with
  | ']' :: inner =>
    match Address.ipv6? inner.reverse with
    | some pieces => .ok (.ipv6 pieces)
    | none => .error .invalidIpv6
  | _ => .error .invalidIpv6

/-- Reads a host that is looked up by name or number. -/
def readHost (cs : List Char) : Except UrlError Host :=
  match cs with
  | '[' :: rest => readBracketed rest
  | cs =>
    match (Text.ofUtf8? (Percent.decode (Text.utf8 cs))).bind Domain.toAscii? with
    | none => .error .invalidDomain
    | some [] => .error .emptyHost
    | some domain =>
      if Address.endsInNumber domain then
        match Address.ipv4? domain with
        | some bits => .ok (.ipv4 bits)
        | none => .error .invalidIpv4
      else .ok (.domain domain)

/-- Checks a host of a scheme that does not look hosts up. -/
def checkOpaqueHost (cs : List Char) : Except UrlError Unit :=
  match cs with
  | '[' :: rest => (readBracketed rest).map fun _ => ()
  | cs =>
    if cs.any ("\x00\t\n\r #/:<>?@[\\]^|".toList.contains ·) then .error .invalidDomainCharacter
    else .ok ()

/-- Reads the digits of a port up to the end of the authority; at most 65535. -/
def readPort (value : Option Nat) : List Char → Except UrlError (Option Nat × List Char)
  | [] => .ok (value, [])
  | c :: cs =>
    if c.isDigit then
      let n := value.getD 0 * 10 + (c.toNat - '0'.toNat)
      if 65535 < n then .error .invalidPort else readPort (some n) cs
    else if isAuthorityEnd true c then .ok (value, c :: cs)
    else .error .invalidPort

/-- Splits off the user information, which ends at the last `@` of the authority. An `@` with
nothing between it and the end of the authority is refused when nothing stands before it either. -/
def splitUserInfo (special : Bool) (cs : List Char) :
    Except UrlError (List Char × List Char) :=
  let authority := cs.takeWhile (!isAuthorityEnd special ·)
  let rest := cs.dropWhile (!isAuthorityEnd special ·)
  match Text.splitLast '@' authority with
  | none => .ok ([], cs)
  | some ([], []) => if rest.isEmpty then .ok ([], []) else .error .emptyHost
  | some (info, host) => .ok (info, host ++ rest)

/-- The part after the last of the given beginnings of query and fragment. -/
def splitFragment (cs : List Char) : List Char × Option (List Char) :=
  match Text.splitOnce '#' cs with
  | some (before, fragment) => (before, some (Percent.encode Percent.inFragment fragment))
  | none => (cs, none)

def splitQuery (cs : List Char) : List Char × Option (List Char) :=
  match Text.splitOnce '?' cs with
  | some (before, query) => (before, some (Percent.encode Percent.inQuery query))
  | none => (cs, none)

/-- Reads what follows the slashes of an `http` or `https` URL. -/
def readHierarchy (scheme : Scheme) (cs : List Char) : Except UrlError Url := do
  let (info, cs) ← splitUserInfo true cs
  let (hostText, cs) := splitHost true false cs
  if hostText.isEmpty then throw .emptyHost
  let host ← readHost hostText
  let (port, cs) ← match cs with
    | ':' :: rest => readPort none rest
    | cs => pure (none, cs)
  let (cs, fragment) := splitFragment cs
  let (path, query) := splitQuery cs
  let (username, password) := readUserInfo info
  pure {
    scheme, username, password, host, query, fragment
    port := if port = some scheme.defaultPort then none else port
    segments := segmentsOf path }

def checkOther (scheme : List Char) (cs : List Char) : Except UrlError Unit := do
  let unsupported := UrlError.unsupportedScheme (String.ofList scheme)
  if scheme = "file".toList then
    match cs.map slashed with
    | '/' :: '/' :: _ =>
      let host := (cs.drop 2).takeWhile (!isAuthorityEnd true ·)
      if !host.isEmpty && !isDriveLetter host then
        let _ ← readHost host
    | _ => pure ()
  else
    let special := ["ws", "wss", "ftp"].any (·.toList == scheme)
    let authority? := if special then some (cs.dropWhile fun c => c == '/' || c == '\\') else
      match cs with
      | '/' :: '/' :: rest => some rest
      | _ => none
    match authority? with
    | none => pure ()
    | some cs =>
      let (info, cs) ← splitUserInfo special cs
      let (hostText, cs) := splitHost special false cs
      if special && hostText.isEmpty then throw .emptyHost
      if special then
        let _ ← readHost hostText
      else checkOpaqueHost hostText
      match cs with
      | ':' :: rest =>
        if hostText.isEmpty then throw .emptyHost
        let _ ← readPort none rest
      | _ => if hostText.isEmpty && !info.isEmpty then throw .emptyHost
  throw unsupported

def read (raw : String) : Except UrlError Url :=
  let trimmed := ((raw.toList.dropWhile isTrimmed).reverse.dropWhile isTrimmed).reverse
  let cs := trimmed.filter (!isSkipped ·)
  match splitScheme? cs with
  | none => .error .noScheme
  | some (scheme, rest) =>
    let afterSlashes := rest.dropWhile fun c => c == '/' || c == '\\'
    if scheme = "http".toList then readHierarchy .http afterSlashes
    else if scheme = "https".toList then readHierarchy .https afterSlashes
    else match checkOther scheme rest with
      | .error e => .error e
      | .ok () => .error (.unsupportedScheme (String.ofList scheme))

end Url

end MetricsGateway
