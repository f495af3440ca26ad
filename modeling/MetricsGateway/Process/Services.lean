import MetricsGateway.Actor.GroupRun
import MetricsGateway.Actor.Signals
import MetricsGateway.Connections.Drill

/-!
The actors of the gateway in their group: a watcher of signals and the server. What happens is given
by events; the end of an actor is known to its task, and what the group does reaches the actors.
-/

namespace MetricsGateway

/-- One watcher with at most one run, the server, and the group in which they run. -/
structure Services where
  watchers : Watchers
  server : Server
  run : GroupRun

/-- The start of both actors, a signal, an interrupt from outside, a move of the watcher, an event of
the server, or a move of the group. -/
inductive ServicesEvent where
  | start
  | raise (signal : Signal)
  | interrupt (actor : Nat) (cause : Option Failure)
  | watch (move : WatchMove)
  | serve (event : ServerEvent)
  | group (move : GroupMove)

/-- Events that nobody outside has a part in: the moves of the group, of the watcher and of the
server's runs, and that time passes. -/
def ServicesEvent.isOwn : ServicesEvent → Bool
  | .watch _ | .group _ | .serve (.pass _) => true
  | .serve (.run _ move) => move.isOwn
  | _ => false

/-- The actors whose completions arrive in a history, in order. -/
def ServicesEvent.reports (events : List ServicesEvent) : List Nat :=
  events.filterMap fun
    | .group (.report actor) => some actor
    | _ => none

def WatchPhase.end? : WatchPhase → Option RunEnd
  | .ended _ => some .ok
  | .refused fault => some (.failed (.signals fault))
  | _ => none

namespace Services

def names : List String := ["signals", "server"]

def watcherIndex : Nat := 0

def serverIndex : Nat := 1

def new (o : ServerOptions) : Services := ⟨⟨[.new], []⟩, .new o, .new names⟩

def group (s : Services) : Group := s.run.group

def isListening (s : Services) : Bool := s.server.state.isReady

def isWatcherStopped (s : Services) : Bool := s.watchers.isStopped 0

def end? (s : Services) (actor : Nat) : Option RunEnd :=
  if actor = watcherIndex then (s.watchers.latest? 0).bind (·.phase.end?) else s.server.result? 0

/-- The task of an actor learns that the actor has ended. -/
def note (s : Services) (actor : Nat) : Services :=
  match (s.end? actor).bind (s.run.finish? actor) with
  | some (_, run) => { s with run }
  | none => s

def inSpan (actor : Nat) (o : Observed) : Observed :=
  o.within (Group.scope (names.getD actor ""))

/-- Both actors begin to run, each in a task of its own. -/
def start? (s : Services) : Option (Observed × Services) :=
  (s.run.run? [.start, .start]).map fun (_, run) =>
    (.said (names.map Group.starting),
      { watchers := { s.watchers with runs := s.watchers.runs ++ [⟨0, true, .spawned⟩] }
        server := { s.server with runs := s.server.runs ++ [.called] }
        run })

def interrupt (s : Services) (actor : Nat) (cause : Option Failure) : Observed × Services :=
  if actor = watcherIndex then
    let (said, watchers) := s.watchers.interrupt 0 cause
    (.said said, { s with watchers })
  else
    let (o, server) := s.server.interrupt cause
    (o, { s with server })

def perform (s : Services) : GroupRun.Happening → Observed × Services
  | .done (.exit actor success) => (.counting [.actorExit actor success], s)
  | .done (.log r) => (.said [r], s)
  | .done (.interrupt actor cause) => s.interrupt actor cause
  | _ => (.none, s)

/-- A move of the group. Starts and ends of actors are not up to it. -/
def drive? (s : Services) : GroupMove → Option (Observed × Services)
  | .start => none
  | .finish _ _ => none
  | m => (s.run.step? m).map fun (what, run) => { s with run }.perform what

def watch? (s : Services) (m : WatchMove) : Option (Observed × Services) :=
  (s.watchers.move? 0 m).map fun (said, watchers) =>
    (inSpan watcherIndex (.said said), { s with watchers }.note watcherIndex)

def serve? (s : Services) (e : ServerEvent) : Option (Observed × Services) :=
  (s.server.step? e).map fun (o, server) =>
    (inSpan serverIndex o, { s with server }.note serverIndex)

/-- One event; none when it is not admitted. The group starts once, and only it and those outside
call or interrupt the server. -/
def step? (s : Services) : ServicesEvent → Option (Observed × Services)
  | .start => s.start?
  | .raise signal => some (.none, { s with watchers := (s.watchers.raise signal).2 })
  | .interrupt actor cause => some (s.interrupt actor cause)
  | .watch m => s.watch? m
  | .serve .call => none
  | .serve (.interrupt _) => none
  | .serve e => s.serve? e
  | .group m => s.drive? m

def run? (s : Services) (events : List ServicesEvent) : Option (List Observed × Services) :=
  History.run? step? s events

def outcome? (s : Services) : Option Outcome := s.run.outcome?

def watchNext? (s : Services) : Option (Observed × Services) := do
  let r ← s.watchers.runs[0]?
  let m ← s.watchers.nextMove? r
  s.watch? m

/-- What is due is done and what has ended is reported before anything else, the watcher moves before
the server, and completions are taken when nothing else can happen. -/
instance : Hosting Services where
  server := server
  step? s e := s.step? (.serve e)
  before? s :=
    (s.drive? .act).orElse fun _ =>
      (s.drive? (.report watcherIndex)).orElse fun _ =>
        (s.drive? (.report serverIndex)).orElse fun _ => s.watchNext?
  after? s := s.drive? .take

end Services

end MetricsGateway
