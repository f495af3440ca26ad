import MetricsGateway.Actor.Group

/-!
Groups of scripted actors on a clock in milliseconds. What an actor does is written down beforehand,
so the times at which actors end follow from the scripts and from the first completion.
-/

namespace MetricsGateway

/-- What an actor does: whether it returns at once, when it ends by itself, whether interrupts reach
it, how long it lingers before it returns, and how it ends by itself or stopped. -/
structure Script where
  name : String
  atOnce : Bool
  ending : Option Nat
  deaf : Bool
  linger : Nat
  ended : RunEnd
  stopped : RunEnd
  interruptedBefore : Nat
  deriving DecidableEq, Repr

structure Return where
  index : Nat
  time : Nat
  natural : Bool
  ended : RunEnd
  deriving DecidableEq, Repr

namespace Script

/-- The return of an actor that is interrupted at a time, or never. An interrupt before the start
holds on. -/
def return? (a : Script) (index : Nat) (interrupt : Option Nat) : Option Return :=
  let stop :=
    if a.deaf then none
    else if 0 < a.interruptedBefore then some 0
    else interrupt
  if a.atOnce then some ⟨index, 0, true, a.ended⟩
  else
    match a.ending, stop with
    | none, none => none
    | some e, none => some ⟨index, e + a.linger, true, a.ended⟩
    | none, some s => some ⟨index, s + a.linger, false, a.stopped⟩
    | some e, some s =>
      if e ≤ s then some ⟨index, e + a.linger, true, a.ended⟩
      else some ⟨index, s + a.linger, false, a.stopped⟩

end Script

namespace Rehearsal

inductive Event where
  | start (index time : Nat)
  | interrupt (index time : Nat) (cause : Option Failure)
  | finish (index time : Nat) (natural : Bool)
  deriving DecidableEq, Repr

/-- When the actors are taken away, if ever: before the start, or once all of them wait. -/
inductive Loss where
  | never
  | beforeStart
  | onceWaiting
  deriving DecidableEq, Repr

/-- What happened: the events in order, the log records, the group as it ended, its acts, and the
time at which the last actor returned. -/
structure Report where
  events : List Event
  records : List LogRecord
  acts : List Group.Act
  group : Group
  returnedAt : Option Nat

def returns (actors : List Script) (interrupt : Option Nat) : List Return :=
  (actors.zipIdx.filterMap fun (a, i) => a.return? i interrupt).mergeSort (·.time ≤ ·.time)

def completion (actors : List Script) (r : Return) : Completion :=
  ⟨r.index, r.ended.failure? ((actors[r.index]?.map (·.name)).getD "")⟩

def finish (r : Return) : Event := .finish r.index r.time r.natural

def interruptsBefore (actors : List Script) : List Event :=
  actors.zipIdx.flatMap fun (a, i) => List.replicate a.interruptedBefore (.interrupt i 0 none)

/-- Each actor starts in turn and runs until it waits; some return right then. -/
def starts (actors : List Script) (immediate : List Return) : List Event :=
  (List.range actors.length).flatMap fun i =>
    .start i 0 :: (immediate.filter (·.index = i)).map finish

def interruptsOf (time : Nat) (acts : List Group.Act) : List Event :=
  acts.filterMap fun
    | .interrupt i cause => some (.interrupt i time cause)
    | _ => none

def play (loss : Loss) (actors : List Script) : Report :=
  let group := Group.new (actors.map (·.name))
  let alone := returns actors none
  let immediate := alone.filter (·.time = 0)
  let before := interruptsBefore actors
  let opening := before ++ starts actors immediate
  let said := actors.map fun a => Group.starting a.name
  match loss with
  | .beforeStart => ⟨before, group.loss, [], group, none⟩
  | .onceWaiting =>
    let (acts, group) := group.takeAll (immediate.map (completion actors))
    ⟨opening ++ interruptsOf 0 acts, said ++ Group.records acts ++ group.loss, acts, group, none⟩
  | .never =>
    match alone with
    | [] => ⟨opening, said, [], group, if actors.isEmpty then some 0 else none⟩
    | first :: _ =>
      let early := if first.time = 0 then immediate else [first]
      let isEarly (r : Return) : Bool := early.any (·.index = r.index)
      let late := (returns actors (some first.time)).filter (!isEarly ·)
      let order := early ++ late
      let (acts, group) := group.takeAll (order.map (completion actors))
      let ended := if first.time = 0 then [] else [finish first]
      ⟨opening ++ ended ++ interruptsOf first.time acts ++ late.map finish,
        said ++ Group.records acts, acts, group,
        if group.returned then order.getLast?.map (·.time) else none⟩

end Rehearsal

end MetricsGateway
