import Overseer.Decimal.Shortest
import Overseer.Runner.Attempt
import Overseer.Runner.Hook
import Overseer.Runner.Restart
import Overseer.Stats.Collector

/-!
The runner: it supervises one job from its first attempt to its result. `Runner.step?` says which
steps it can take; where several are possible any of them may come first. What a step does to the
rest of the world is told by its effects.
-/

namespace Overseer

/-- The last things that a runner does, one after the other. -/
inductive Runner.Farewell where
  | leave
  | release
  | wake
  | publish
  deriving DecidableEq, Repr, Inhabited

inductive Runner.Phase where
  | starting
  | listening (a : Attempt)
  /-- Waiting for the end of a stream whose messages no longer count. -/
  | draining (a : Attempt)
  | pausing (r : JobResult) (wakeAt : Nat)
  | stopping (r : JobResult)
  | closing (r : JobResult) (next : Farewell)
  | ended (r : JobResult)
  /-- The runner has died over an attempt whose timers it could not set. It leaves no result. -/
  | crashed
  deriving BEq, Repr, Inhabited

/-- How a job came to be started. -/
inductive Runner.Origin where
  | direct
  | admitted
  | released
  deriving DecidableEq, Repr, Inhabited

structure Runner where
  command : Command
  factory : Nat
  hooks : List Hook
  origin : Runner.Origin
  collector : Stats.Collector
  killed : Bool
  usage : Usage
  failures : Nat
  attempts : Nat
  phase : Runner.Phase
  deriving BEq, Repr, Inhabited

namespace Runner

structure Launch where
  pids : List Int
  failure : Option String
  deriving DecidableEq, Repr, Inhabited

structure Clock where
  now : Nat
  epoch : Int
  deriving DecidableEq, Repr, Inhabited

def Clock.nanos (c : Clock) : Int := c.epoch * Stats.nanosPerMilli

inductive Action where
  | launch (l : Launch)
  | obey
  | expire
  | sample (u : Usage)
  | tick
  | receive
  | discard
  | conclude
  | resume
  | abandon
  | collect
  | flush
  | report
  | farewell
  | emit (m : Message)
  | hangUp
  | kill
  deriving BEq, Repr

inductive Effect where
  | launched
  | terminated
  | fired (index : Nat) (hook : Hook) (f : Firing)
  | message (m : Message)
  | flushed (s : Stats.Snapshot)
  | result (r : JobResult)
  | left
  | released
  | woke
  deriving BEq, Repr

def new (config : Manager.Config) (now : Nat) (command : Command) (factory : Nat)
    (hooks : List Hook) (origin : Origin) : Runner where
  command; factory; hooks; origin
  collector := .start command.id
    (if command.statsInterval = 0 then config.effectiveStatsInterval
      else command.statsInterval.toNat * Clock.millisPerSecond) now
  killed := false
  usage := .zero
  failures := 0
  attempts := 0
  phase := .starting

def published? (r : Runner) : Option JobResult :=
  match r.phase with
  | .ended result => some result
  | _ => none

def reveal (r : Runner) (s : Sight) : Runner × List Effect :=
  let (hooks, fired) := Hook.observeAll r.hooks s
  ({ r with hooks }, fired.map fun (i, h, f) => .fired i h f)

def stop (r : Runner) (result : JobResult) : Runner :=
  { r with collector := r.collector.post .stop, phase := .stopping result }

def usageLines (u : Usage) : List String :=
  [s!"_cpu_:{Decimal.render .plain u.cpu}|g", s!"_rss_:{u.rss.toNat}|g",
    s!"_vms_:{u.vms.toNat}|g", s!"_swap_:{u.swap.toNat}|g"]

/-- Follows the process of a new attempt. The runner dies of a timer that is out of the range of the
clock, and then nobody holds its collector any more, which stops. -/
def follow (config : Manager.Config) (clock : Clock) (r : Runner) : Runner :=
  if Attempt.isTimely config clock.now then
    { r with phase := .listening (.start config r.command clock.now clock.epoch) }
  else { r with collector := r.collector.post .stop, phase := .crashed }

def launch (config : Manager.Config) (clock : Clock) (r : Runner) (l : Launch) :
    Runner × List Effect :=
  let r := { r with attempts := r.attempts + 1 }
  let (r, seen) := l.pids.foldl (fun (r, seen) pid =>
    let (r, more) := r.reveal (.pid pid)
    (r, seen ++ more)) (r, [])
  match l.failure with
  | none => (r.follow config clock, .launched :: seen)
  | some error =>
      let (r, exits) := r.reveal (.exit .error)
      (r.stop (Attempt.failedResult r.command clock.epoch error), .launched :: seen ++ exits)

def receive (clock : Clock) (r : Runner) (a : Attempt) (m : Message) : Runner × List Effect :=
  let m := m.stamp (.ofInt clock.nanos)
  let (r, seen) := r.reveal (.message m)
  let heard := if r.command.accepts m.level then [.message m] else []
  let collector :=
    if m.level = .statistics then r.collector.post (.line m.content) else r.collector
  let a := a.record m
  ({ r with collector, phase := if Attempt.isFinal m then .draining a else .listening a },
    seen ++ heard)

def conclude (config : Manager.Config) (clock : Clock) (r : Runner) (a : Attempt) :
    Runner × List Effect :=
  let result := a.conclude clock.now
  let (r, seen) := r.reveal (.exit result.state)
  if result.state = .killed then (r.stop result, seen)
  else
    let (failures, delay) :=
      (Policy.of config r.command).next r.failures result.state (clock.now - a.began)
    let r := { r with failures }
    match delay with
    | some d => ({ r with phase := .pausing result (Clock.wakeAt clock.now d) }, seen)
    | none => (r.stop result, seen)

def farewell (r : Runner) (result : JobResult) : Farewell → Runner × List Effect
  | .leave => ({ r with phase := .closing result .release }, [.left])
  | .release => ({ r with phase := .closing result .wake }, [.released])
  | .wake => ({ r with phase := .closing result .publish }, [.woke])
  | .publish => ({ r with phase := .ended result }, [])

def listen? (config : Manager.Config) (clock : Clock) (r : Runner) (a : Attempt) :
    Action → Option (Runner × List Effect)
  | .obey =>
      -- From here on messages are thrown away, whatever the process still says.
      if r.killed then
        some ({ r with phase := .draining (a.terminate .killed) }, [.terminated])
      else none
  | .expire =>
      match a.deadline? r.command with
      | some t =>
          if t ≤ clock.now then
            some ({ r with phase := .listening { a.terminate .timeout with timedOut := true } },
              [.terminated])
          else none
      | none => none
  | .sample u =>
      if a.nextSample ≤ clock.now then
        some ({ r with
          usage := u
          collector := (usageLines u).foldl (fun c line => c.post (.line line)) r.collector
          phase := .listening
            { a with nextSample := a.nextSample + config.effectiveMeterInterval } }, [])
      else none
  | .tick =>
      if a.nextTick ≤ clock.now then
        let a := { a with nextTick := a.nextTick + config.effectiveHookTick }
        some ({ r with phase := .listening a }.reveal (.tick (clock.now - a.began)))
      else none
  | .receive =>
      match a.stream with
      | m :: rest => some (r.receive clock { a with stream := rest } m)
      | [] => if a.streamOpen then none else some ({ r with phase := .draining a }, [])
  | .emit m =>
      if a.streamOpen then
        some ({ r with phase := .listening { a with stream := a.stream ++ [m] } }, [])
      else none
  | .hangUp => some ({ r with phase := .listening { a with streamOpen := false } }, [])
  | _ => none

def drain? (config : Manager.Config) (clock : Clock) (r : Runner) (a : Attempt) :
    Action → Option (Runner × List Effect)
  | .discard =>
      match a.stream with
      | _ :: rest => some ({ r with phase := .draining { a with stream := rest } }, [])
      | [] => none
  | .conclude =>
      if a.stream.isEmpty && !a.streamOpen then some (r.conclude config clock a) else none
  | .emit m =>
      if a.streamOpen then
        some ({ r with phase := .draining { a with stream := a.stream ++ [m] } }, [])
      else none
  | .hangUp => some ({ r with phase := .draining { a with streamOpen := false } }, [])
  | _ => none

def advance? (config : Manager.Config) (clock : Clock) (r : Runner) (act : Action) :
    Option (Runner × List Effect) :=
  match r.phase with
  | .starting =>
      match act with
      | .launch l => some (r.launch config clock l)
      | _ => none
  | .listening a => r.listen? config clock a act
  | .draining a => r.drain? config clock a act
  | .pausing result wakeAt =>
      match act with
      | .resume => if wakeAt ≤ clock.now then some ({ r with phase := .starting }, []) else none
      | .abandon => if r.killed then some (r.stop { result with state := .killed }, []) else none
      | _ => none
  | .stopping result =>
      match act with
      | .report =>
          if r.collector.stopped then
            some ({ r with phase := .closing result .leave }, [.result result])
          else none
      | _ => none
  | .closing result next =>
      match act with
      | .farewell => some (r.farewell result next)
      | _ => none
  | .ended _ | .crashed => none

/-- The runner after a step, with what others notice; none if it cannot be taken now. -/
def step? (config : Manager.Config) (clock : Clock) (r : Runner) (act : Action) :
    Option (Runner × List Effect) :=
  let flushed (outcome : Option Stats.Snapshot × Stats.Collector) : Runner × List Effect :=
    ({ r with collector := outcome.2 }, outcome.1.toList.map .flushed)
  match act with
  | .kill => some ({ r with killed := true }, [])
  | .collect =>
      if r.collector.stopped || r.collector.mailbox.isEmpty then none
      else some (flushed (r.collector.receive clock.nanos))
  | .flush =>
      if r.collector.due clock.now then some (flushed (r.collector.tick clock.nanos)) else none
  | act => r.advance? config clock act

end Runner

end Overseer
