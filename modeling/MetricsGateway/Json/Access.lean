import MetricsGateway.Json.Value

/-!
Members of objects, where a member that is missing, or of another kind than asked for, counts as a
plain default.
-/

namespace MetricsGateway.Json

def field (j : Json) (key : String) : Json := (j.get? key).getD null

def string (j : Json) (key : String) : String :=
  match field j key with
  | str s => s
  | _ => ""

def natOr (j : Json) (key : String) (value : Nat) : Nat :=
  match field j key with
  | int n => n.toNat
  | _ => value

def nat (j : Json) (key : String) : Nat := natOr j key 0

def flag (j : Json) (key : String) : Bool :=
  match field j key with
  | bool b => b
  | _ => false

def items (j : Json) (key : String) : List Json :=
  match field j key with
  | arr xs => xs
  | _ => []

def optional {α : Type} (f : α → Json) : Option α → Json
  | some a => f a
  | none => null

end MetricsGateway.Json
