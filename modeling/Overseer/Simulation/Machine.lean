import Overseer.Manager.Builtin
import Overseer.Simulation.Child

/-!
A machine that runs the manager on a clock of its own, with scripted processes. It has one task for
everything that can go on at the same time. A task whose turn has come moves until it has to wait;
tasks that can move again queue up behind the others; when no task can move, the clock goes on to
the next moment at which one can.

Every change of the system is one of its steps.
-/

namespace Overseer.Simulation

open Manager

inductive Maker where
  | scripts (all : List Script) (built : Nat)
  | builtin (b : Builtin)
  | program (kind : Exec.ProgramKind)
  deriving BEq, Repr, Inhabited

inductive Player where
  | scripted (script : Script) (part : Part)
  | builtin (b : Builtin)
  deriving BEq, Repr, Inhabited

inductive Task where
  | dispatcher
  | producer
  | admission
  | push (i : Nat)
  | boot (i : Nat)
  | entry (slice i : Nat)
  | runner (i : Nat)
  | collector (i : Nat)
  | player (i : Nat)
  deriving DecidableEq, Repr

structure Machine where
  system : System
  host : HostInfo
  makers : List Maker
  players : List (Nat × Player)
  turns : List Task
  deriving BEq, Repr, Inhabited

namespace Machine

def localhost : HostInfo where
  os := [("hostname", .str "localhost"), ("os", .str "linux"), ("arch", .str "x86_64"),
    ("kernel", .str ""), ("uptime", .nat 1)]
  memory := ["total", "available", "used", "free", "swap_total", "swap_free", "swap_used"].map
    fun key => (key, .nat 1)

def dawn : Int := 1000000000000

def new (config : Config) (host : HostInfo) : Machine := ⟨.new config dawn, host, [], [], []⟩

def act? (m : Machine) (act : Action) : Option Machine :=
  (m.system.step? act).map fun system => { m with system }

def call (m : Machine) (c : Call) : Machine := (m.act? (.call c)).getD m

def register (m : Machine) (kind : String) (maker : Maker) : Machine :=
  { m with makers := m.makers ++ [maker] }.call (.register kind m.makers.length)

def registerBuiltins (m : Machine) : Machine :=
  Builtin.all.foldl (fun m b => m.register b.kind (.builtin b)) m

def registerDefaults (m : Machine) : Machine :=
  ((m.register Exec.systemKind (.program .system)).register Exec.containerKind
    (.program .container)).registerBuiltins

def setPlayer (m : Machine) (i : Nat) (p : Player) : Machine :=
  { m with players := (i, p) :: m.players.filter fun entry => entry.1 != i }

def dropPlayer (m : Machine) (i : Nat) : Machine :=
  { m with players := m.players.filter fun entry => entry.1 != i }

def play (now : Nat) (script : Script) : Runner.Launch × Player :=
  let launch : Runner.Launch := match script.failure, script.pidFailure with
    | some text, _ => ⟨[], some (spawnMessage text)⟩
    | none, some text => ⟨[], some (spawnMessage text)⟩
    | none, none => ⟨script.pid.toList, none⟩
  (launch, .scripted script (Part.start script now))

def build (now : Nat) (c : Command) : Maker → Maker × Runner.Launch × Player
  | .builtin b => (.builtin b, ⟨[], none⟩, .builtin b)
  | .scripts all built =>
      (.scripts all (built + 1), play now ((all[built]? <|> all.getLast?).getD .silent))
  | .program kind => (.program kind, play now (Child.script kind c))

def launch? (m : Machine) (i : Nat) (r : Runner) : Option Machine :=
  let maker := m.makers[r.factory]?.getD (.scripts [] 0)
  let (maker, launch, player) := build m.system.now r.command maker
  (m.act? (.runner i (.launch launch))).map fun m =>
    { m with makers := m.makers.set r.factory maker }.setPlayer i player

def usageOf (m : Machine) (i : Nat) : Usage :=
  match m.players.lookup i with
  | some (.scripted script _) => script.usage
  | _ => .zero

def actFirst? (m : Machine) : List Action → Option Machine
  | [] => none
  | act :: rest => m.act? act <|> m.actFirst? rest

def moveRunner? (m : Machine) (i : Nat) : Option Machine :=
  match m.system.runners[i]? with
  | none => none
  | some r =>
      match r.phase with
      | .starting => m.launch? i r
      | .listening _ =>
          m.actFirst? ([.obey, .expire, .sample (m.usageOf i), .tick, .receive].map (.runner i))
      | .draining _ => m.actFirst? ([.discard, .conclude].map (.runner i))
      -- Either may come first when both are possible; here a pause that is over comes first.
      | .pausing _ _ => m.actFirst? ([.resume, .abandon].map (.runner i))
      | .stopping _ => m.act? (.runner i .report)
      | .closing _ _ => m.act? (.runner i .farewell)
      | .ended _ | .crashed => none

def isTold (r : Runner) : Bool :=
  match r.phase with
  | .listening a => a.terminated
  | .draining a => a.terminated
  | _ => false

def movePlayer? (m : Machine) (i : Nat) : Option Machine :=
  match m.system.runners[i]?, m.players.lookup i with
  | some r, some (.builtin b) =>
      let (actions, answer) := b.perform m.host m.system r.command
      let m := actions.foldl (fun m act => (m.act? act).getD m) m
      let script := { Script.silent with
        cues := (Builtin.messages answer).map fun m => ⟨0, some m⟩, deaf := true }
      some (m.setPlayer i (.scripted script (Part.start script m.system.now)))
  | some r, some (.scripted script part) =>
      match part.move? script m.system.now (isTold r) with
      | none => none
      | some (part, move) =>
          let m := m.setPlayer i (.scripted script part)
          match move with
          | .say message => some ((m.act? (.runner i (.emit message))).getD m)
          | .pause => some m
          | .hangUp => some ((m.act? (.runner i .hangUp)).getD m |>.dropPlayer i)
  | _, _ => none

def move? (m : Machine) : Task → Option Machine
  | .dispatcher => m.actFirst? [.stopDispatcher, .dispatch]
  | .producer => m.actFirst? [.stopProducer, .deliver, .produce]
  | .admission =>
      m.actFirst? [.stopAdmission, .arm, .count, .wake, .enroll, .takeDirect, .takeReleased]
  | .push i => m.act? (.enter i)
  | .boot i => m.act? (.boot i)
  | .entry n i => m.act? (.entry n i)
  | .runner i => m.moveRunner? i
  | .collector i => m.actFirst? ([.collect, .flush].map (.runner i))
  | .player i => m.movePlayer? i

def tasks (m : Machine) : List Task :=
  let s := m.system
  let waiting := (s.pushes.zipIdx.filter fun (p, _) => p.status == .waiting).map fun (_, i) =>
    Task.push i
  let boots := (s.boots.zipIdx.filter fun (b, _) => !b.finished).map fun (_, i) => Task.boot i
  let entries := s.slices.zipIdx.flatMap fun (slice, n) =>
    (slice.tasks.zipIdx.filter fun (t, _) => !t.done).map fun (_, i) => Task.entry n i
  let runners := (s.runners.zipIdx.filter fun (r, _) => r.published?.isNone).flatMap fun (_, i) =>
    [Task.runner i, .collector i, .player i]
  [.dispatcher, .producer, .admission] ++ waiting ++ boots ++ entries ++ runners

def queueUp (m : Machine) : Machine :=
  let woken := m.tasks.filter fun t => !m.turns.contains t && (m.move? t).isSome
  { m with turns := m.turns ++ woken }

def turnLimit : Nat := 100000

def turn (t : Task) : Nat → Machine → Machine
  | 0, m => m
  | fuel + 1, m =>
      match m.move? t with
      | some next => turn t fuel next
      | none => m

/-- Lets all tasks move until none can, the clock standing still. -/
def settle (m : Machine) : Machine :=
  go turnLimit m.queueUp
where
  go : Nat → Machine → Machine
    | 0, m => m
    | fuel + 1, m =>
        match m.turns with
        | [] => m
        | t :: rest => go fuel (turn t turnLimit { m with turns := rest }).queueUp

def runnerAlarms (r : Runner) : List Nat :=
  (if r.collector.stopped then [] else [r.collector.nextTick]) ++
    match r.phase with
    | .listening a => [a.nextSample, a.nextTick] ++ (a.deadline? r.command).toList
    | .pausing _ wakeAt => [wakeAt]
    | _ => []

def alarm? (m : Machine) : Option Nat :=
  let runners := m.system.runners.filter fun r => r.published?.isNone
  let players := m.players.filterMap fun (_, p) =>
    match p with
    | .scripted _ part => part.due?
    | .builtin _ => none
  ((runners.flatMap runnerAlarms ++ players).filter (m.system.now < ·)).min?

def goTo (m : Machine) (t : Nat) : Machine := (m.act? (.pass (t - m.system.now))).getD m

def advanceUntil (stop : Machine → Bool) (goal : Nat) : Nat → Machine → Machine
  | 0, m => m
  | fuel + 1, m =>
      if stop m then m
      else
        match m.alarm? with
        | some t =>
            if t ≤ goal then advanceUntil stop goal fuel (m.goTo t).settle
            else (m.goTo goal).settle
        | none => (m.goTo goal).settle

def advance (m : Machine) (ms : Nat) : Machine :=
  let goal := m.system.now + ms
  advanceUntil (fun m => m.system.now == goal) goal (ms + 1) m.settle

def result? (m : Machine) (i : Nat) : Option JobResult :=
  m.system.runners[i]?.bind Runner.published?

def await (m : Machine) (i limit : Nat) : Machine :=
  let goal := m.system.now + limit
  advanceUntil (fun m => (m.result? i).isSome || m.system.now == goal) goal (limit + 1) m.settle

def history (m : Machine) : List LogEntry := m.system.log.reverse

end Machine

end Overseer.Simulation
