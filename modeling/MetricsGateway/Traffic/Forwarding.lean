import MetricsGateway.Url.Basic
import MetricsGateway.Url.Target

/-!
Where a request is forwarded to: the address of an upstream, with a path appended and the query of
the request.
-/

namespace MetricsGateway

def withoutTrailingSlashes (cs : List Char) : List Char :=
  (cs.reverse.dropWhile (· == '/')).reverse

/-- The address with `path` appended to its own, unless it is only slashes, and with `query` in
place of its own, if there is one. -/
def Url.joined (base : Url) (path : List Char) (query : Option (List Char)) : Url :=
  let path := path.dropWhile (· == '/')
  let moved :=
    if path.isEmpty then base
    else base.withPath (withoutTrailingSlashes base.path ++ '/' :: path)
  match query with
  | some q => moved.withQuery q
  | none => moved

def targetOf (base : Url) (path : List Char) (query : Option (List Char)) :
    Except TargetError Target :=
  Target.read (base.joined path query).text

end MetricsGateway
