/-!
Actors by their place in a group and their name.
-/

namespace MetricsGateway

structure ActorId where
  index : Nat
  name : String
  deriving DecidableEq, Repr

def ActorId.text (a : ActorId) : String :=
  a.name ++ "#" ++ toString a.index

end MetricsGateway
