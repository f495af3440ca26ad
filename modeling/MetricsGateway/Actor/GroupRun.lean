import MetricsGateway.Actor.Group
import MetricsGateway.History

/-!
A group while it runs. Each actor runs in a task of its own; when the actor has ended, its task sends
a completion into a channel with room for one completion of each actor. The group takes completions
out of the channel and does what each calls for act by act, while the other actors go on.
-/

namespace MetricsGateway

/-- The task of an actor: the actor runs, or it has ended and its completion is not sent yet, or the
completion was sent. -/
inductive RunTask where
  | running
  | ended (how : RunEnd)
  | reported
  deriving DecidableEq, Repr

/-- The group, the tasks of the actors that were started, in the order of registration, the
completions in the channel, the oldest first, and what is still to be done about the completion
taken last. -/
structure GroupRun where
  group : Group
  tasks : List RunTask
  channel : List Completion
  due : List Group.Act

/-- The group starts the next actor, an actor ends, its task sends the completion, or the group takes
a completion or does what is due. -/
inductive GroupMove where
  | start
  | finish (index : Nat) (how : RunEnd)
  | report (index : Nat)
  | take
  | act
  deriving DecidableEq, Repr

namespace GroupRun

inductive Happening where
  | started (index : Nat)
  | ended (index : Nat) (how : RunEnd)
  | arrived (c : Completion)
  | taken (c : Completion)
  | done (act : Group.Act)

def new (names : List String) : GroupRun := ⟨.new names, [], [], []⟩

def names (g : GroupRun) : List String := g.group.names

def capacity (g : GroupRun) : Nat := g.names.length

def completion (g : GroupRun) (index : Nat) (how : RunEnd) : Completion :=
  ⟨index, how.failure? (g.group.nameOf index)⟩

def start? (g : GroupRun) : Option (Happening × GroupRun) :=
  if g.tasks.length < g.names.length then
    some (.started g.tasks.length, { g with tasks := g.tasks ++ [.running] })
  else none

def finish? (g : GroupRun) (index : Nat) (how : RunEnd) : Option (Happening × GroupRun) :=
  if g.tasks[index]? = some .running then
    some (.ended index how, { g with tasks := g.tasks.set index (.ended how) })
  else none

/-- A task whose completion finds no room in the channel has to wait. -/
def report? (g : GroupRun) (index : Nat) : Option (Happening × GroupRun) :=
  match g.tasks[index]? with
  | some (.ended how) =>
    if g.channel.length < g.capacity then
      some (.arrived (g.completion index how),
        { g with
          tasks := g.tasks.set index .reported
          channel := g.channel ++ [g.completion index how] })
    else none
  | _ => none

/-- Completions are taken after all actors were started, one after the other, until there is one of
each actor. -/
def take? (g : GroupRun) : Option (Happening × GroupRun) :=
  match g.channel with
  | [] => none
  | c :: rest =>
    if g.tasks.length = g.names.length && g.due.isEmpty && !g.group.returned then
      let (acts, group) := g.group.take c
      some (.taken c, { g with group, channel := rest, due := acts })
    else none

def act? (g : GroupRun) : Option (Happening × GroupRun) :=
  match g.due with
  | [] => none
  | act :: rest => some (.done act, { g with due := rest })

def step? (g : GroupRun) : GroupMove → Option (Happening × GroupRun)
  | .start => g.start?
  | .finish index how => g.finish? index how
  | .report index => g.report? index
  | .take => g.take?
  | .act => g.act?

def run? (g : GroupRun) (moves : List GroupMove) : Option (List Happening × GroupRun) :=
  History.run? step? g moves

/-- The group returns once it has taken the completions of all actors and nothing is due. A group
without actors returns at once. -/
def outcome? (g : GroupRun) : Option Outcome :=
  if g.group.returned && g.due.isEmpty then some g.group.outcome else none

/-- The completions that have arrived, those that were taken first. -/
def arrived (g : GroupRun) : List Completion := g.group.taken ++ g.channel

def endings (story : List Happening) : List (Nat × RunEnd) :=
  story.filterMap fun
    | .ended index how => some (index, how)
    | _ => none

def arrivals (story : List Happening) : List Completion :=
  story.filterMap fun
    | .arrived c => some c
    | _ => none

def takings (story : List Happening) : List Completion :=
  story.filterMap fun
    | .taken c => some c
    | _ => none

def acts (story : List Happening) : List Group.Act :=
  story.filterMap fun
    | .done act => some act
    | _ => none

/-- The completions taken and the interrupts, as they follow one another. -/
def milestones (story : List Happening) : List Happening :=
  story.filter fun
    | .taken _ => true
    | .done (.interrupt _ _) => true
    | _ => false

end GroupRun

end MetricsGateway
