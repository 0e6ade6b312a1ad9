import Overseer.Boot.Cohort
import Overseer.Manager.Queue
import Overseer.Runner.Lifecycle

/-!
The state of the process manager, and what can be asked of it. Commands are admitted while fewer
jobs run than the configuration allows; those of a queue pass the queue manager first; a command
that is run directly waits for nothing. An id belongs to one running job at most.
-/

namespace Overseer.Manager

inductive ManagerError where
  | unknownCommand (command : String)
  | duplicateId (id : String)
  | closed
  | alreadyStarted
  deriving DecidableEq, Repr, Inhabited

def ManagerError.message : ManagerError → String
  | .unknownCommand command => s!"unknown command type '{command}'"
  | .duplicateId id => s!"job '{id}' is already running"
  | .closed => "process manager is closed"
  | .alreadyStarted => "process manager already started"

def spawnMessage (cause : String) : String := s!"spawn failed: {cause}"

/-- What the admission of commands is about to do. A wake-up is not missed once it is armed. -/
inductive Admission where
  | off
  | idle
  | armed (woken : Bool)
  | waiting (woken : Bool)
  | ready
  | holding (c : Command) (origin : Runner.Origin)
  | stopped
  deriving BEq, Repr, Inhabited

inductive PushStatus where
  | waiting
  | accepted
  | refused
  deriving DecidableEq, Repr, Inhabited

structure Push where
  command : Command
  status : PushStatus
  deriving BEq, Repr, Inhabited

inductive Event where
  | pushed (accepted : Bool)
  | launched
  | terminated
  | fired (index : Nat) (f : Firing)
  | message (m : Message)
  | flushed (s : Stats.Snapshot)
  | result (r : JobResult)
  | routed (route : String) (r : JobResult)
  | booted
  deriving BEq, Repr, Inhabited

structure LogEntry where
  time : Nat
  id : String
  runner : Option Nat
  event : Event
  deriving BEq, Repr, Inhabited

structure System where
  config : Config
  now : Nat
  dawn : Int
  factories : List (String × Nat)
  routes : List String
  runners : List Runner
  registry : List (String × Nat)
  queue : Queue
  started : Bool
  commands : List Command
  commandsOpen : Bool
  pushes : List Push
  admission : Admission
  slices : List Boot.Slice
  boots : List Boot.Sequence
  log : List LogEntry
  deriving BEq, Repr, Inhabited

namespace System

def releaseCapacity : Nat := 1

def new (config : Config) (dawn : Int) : System where
  config; dawn
  now := 0
  factories := []
  routes := []
  runners := []
  registry := []
  queue := .new releaseCapacity
  started := false
  commands := []
  commandsOpen := true
  pushes := []
  admission := .off
  slices := []
  boots := []
  log := []

def clock (s : System) : Runner.Clock := ⟨s.now, s.dawn + s.now⟩

def note (s : System) (id : String) (runner : Option Nat) (e : Event) : System :=
  { s with log := ⟨s.now, id, runner, e⟩ :: s.log }

def live (s : System) : Nat := s.registry.length

/-- Hands a result to the handlers: those of every result first, then those of the route. -/
def report (s : System) (c : Command) (runner : Option Nat) (r : JobResult) : System :=
  (s.routes.filter (· == c.route)).foldl (fun s route => s.note c.id runner (.routed route r))
    (s.note c.id runner (.result r))

def reject (s : System) (c : Command) (state : JobState) : System :=
  s.report c none (.new c state)

def spawn (s : System) (c : Command) (hooks : List Hook) (origin : Runner.Origin) :
    System × Except ManagerError Nat :=
  match s.factories.lookup c.command with
  | none => (s.reject c .unknownCommand, .error (.unknownCommand c.command))
  | some factory =>
      if (s.registry.lookup c.id).isSome then (s.reject c .duplicateId, .error (.duplicateId c.id))
      else
        let number := s.runners.length
        ({ s with
          runners := s.runners ++ [.new s.config s.now c factory hooks origin]
          registry := (c.id, number) :: s.registry }, .ok number)

def run (s : System) (c : Command) (hooks : List Hook) : System × Except ManagerError Nat :=
  s.spawn c hooks .direct

def start (s : System) : Except ManagerError System :=
  if s.started then .error .alreadyStarted
  else .ok { s with started := true, admission := .idle, queue := s.queue.start.1 }

def cancelled (s : System) : Bool := s.queue.cancelled

def cancel (s : System) : System := { s with queue := s.queue.cancel }

def push (s : System) (c : Command) : System × Nat :=
  ({ s with pushes := s.pushes ++ [⟨c, .waiting⟩] }, s.pushes.length)

def handleRoute (s : System) (route : String) : System := { s with routes := s.routes ++ [route] }

def register (s : System) (kind : String) (factory : Nat) : System :=
  { s with factories := (kind, factory) :: s.factories.filter fun f => f.1 != kind }

def unregister (s : System) (kind : String) : System × Bool :=
  ({ s with factories := s.factories.filter fun f => f.1 != kind },
    (s.factories.lookup kind).isSome)

def killRunner (s : System) (i : Nat) : System :=
  { s with runners := s.runners.modify i fun r => { r with killed := true } }

def kill (s : System) (id : String) : System × Bool :=
  match s.registry.lookup id with
  | some i => (s.killRunner i, true)
  | none => (s, false)

def killAll (s : System) : System := s.registry.foldl (fun s job => s.killRunner job.2) s

def runner? (s : System) (id : String) : Option Runner :=
  (s.registry.lookup id).bind fun i => s.runners[i]?

def boot (s : System) (slices : List (List Boot.Entry)) : System :=
  { s with boots := s.boots ++ [⟨slices, none, false⟩] }

end System

end Overseer.Manager
