import MetricsGateway.Actor.Exit
import MetricsGateway.Telemetry.Metrics

/-!
A group of actors that live and die together. The group takes the completions of its actors one by
one, in the order in which they arrive. The first one decides the outcome and makes the group
interrupt every actor; the others are only counted.
-/

namespace MetricsGateway

inductive RunEnd where
  | ok
  | failed (failure : Failure)
  | panicked
  deriving DecidableEq, Repr

/-- The failure that an end of the actor with this name counts as. -/
def RunEnd.failure? (name : String) : RunEnd → Option Failure
  | ok => none
  | failed f => some f
  | panicked => some (.panicked name)

/-- A run that ended: whose it was, and the failure it ended with. -/
structure Completion where
  index : Nat
  failure : Option Failure
  deriving DecidableEq, Repr

def Completion.isSuccess (c : Completion) : Bool := c.failure.isNone

/-- The names of the actors in the order of registration, and the completions taken so far, the
first one first. -/
structure Group where
  names : List String
  taken : List Completion
  deriving DecidableEq, Repr

namespace Group

inductive Act where
  | exit (actor : String) (success : Bool)
  | log (record : LogRecord)
  | interrupt (index : Nat) (cause : Option Failure)

def target : String := "observatorium::lifecycle::group"

def new (names : List String) : Group := ⟨names, []⟩

def nameOf (g : Group) (index : Nat) : String := (g.names[index]?).getD ""

def id (g : Group) (index : Nat) : ActorId := ⟨index, g.nameOf index⟩

def remaining (g : Group) : Nat := g.names.length - g.taken.length

def returned (g : Group) : Bool := g.names.length ≤ g.taken.length

def outcome (g : Group) : Outcome :=
  match g.taken with
  | [] => .empty
  | c :: _ => ⟨some (g.id c.index), c.failure⟩

def scope (name : String) : Scope :=
  ⟨⟨"actor", .info, target⟩, [("name", .shown name)]⟩

def starting (name : String) : LogRecord :=
  ⟨.debug, target, [scope name], "actor starting", []⟩

def stopping (id : ActorId) : Option Failure → LogRecord
  | none => ⟨.info, target, [], "actor finished, stopping group", [("actor", .shown id.text)]⟩
  | some f =>
    ⟨.error, target, [], "actor failed, stopping group",
      [("actor", .shown id.text), ("error", .shown f.message)]⟩

def stopped (id : ActorId) (remaining : Nat) : Option Failure → LogRecord
  | none =>
    ⟨.debug, target, [], "actor stopped", [("actor", .shown id.text), ("remaining", .count remaining)]⟩
  | some f =>
    ⟨.debug, target, [], "actor stopped with error",
      [("actor", .shown id.text), ("remaining", .count remaining), ("error", .shown f.message)]⟩

def fanOut (g : Group) (cause : Option Failure) : List Act :=
  (List.range g.names.length).map (.interrupt · cause)

/-- The acts on a completion, and the group that has taken it. -/
def take (g : Group) (c : Completion) : List Act × Group :=
  let next : Group := { g with taken := g.taken ++ [c] }
  let exit := Act.exit (g.nameOf c.index) c.isSuccess
  if g.taken.isEmpty then
    (exit :: .log (stopping (g.id c.index) c.failure) :: g.fanOut c.failure, next)
  else
    ([exit, .log (stopped (g.id c.index) next.remaining c.failure)], next)

def takeAll (g : Group) : List Completion → List Act × Group
  | [] => ([], g)
  | c :: rest =>
    let (acts, g) := g.take c
    let (more, g) := g.takeAll rest
    (acts ++ more, g)

/-- What is said when the actors are lost, so that no further completion can come. -/
def loss (g : Group) : List LogRecord :=
  if g.returned then []
  else if g.taken.isEmpty then
    [⟨.error, target, [], "run group lost its actors before any completed", []⟩]
  else
    [⟨.warn, target, [], "completion channel closed early", [("remaining", .count g.remaining)]⟩]

def records (acts : List Act) : List LogRecord :=
  acts.filterMap fun
    | .log r => some r
    | _ => none

def metrics (acts : List Act) (m : Metrics) : Metrics :=
  acts.foldl (fun m => fun
    | .exit actor success => m.record (.actorExit actor success)
    | _ => m) m

@[simp] theorem taken_take (g : Group) (c : Completion) : (g.take c).2.taken = g.taken ++ [c] := by
  unfold take; split <;> rfl

@[simp] theorem names_take (g : Group) (c : Completion) : (g.take c).2.names = g.names := by
  unfold take; split <;> rfl

end Group

end MetricsGateway
