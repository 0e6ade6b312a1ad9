import Overseer.Clock
import Overseer.Stats.Aggregator

/-!
The collector of a job: an aggregator with a mailbox, which flushes at every tick of its interval
and once more when it is stopped. Its steps may come in any order that their conditions allow.

Clock times are milliseconds.
-/

namespace Overseer.Stats

inductive Letter where
  | line (text : String)
  | stop
  deriving DecidableEq, Repr

structure Collector where
  aggregator : Aggregator
  mailbox : List Letter
  nextTick : Nat
  stopped : Bool
  deriving BEq, Repr, Inhabited

def nanosPerMilli : Nat := 1000000

namespace Collector

def period (c : Collector) : Nat := c.aggregator.interval / nanosPerMilli

/-- A collector started at `now` with the given interval in milliseconds. It does not come to work
when its first tick is out of the range of the clock. -/
def start (scope : String) (interval now : Nat) : Collector :=
  let aggregator := Aggregator.new scope (interval * nanosPerMilli)
  let nextTick := now + aggregator.interval / nanosPerMilli
  ⟨aggregator, [], nextTick, decide (Clock.range ≤ nextTick)⟩

def post (c : Collector) (l : Letter) : Collector :=
  if c.stopped then c else { c with mailbox := c.mailbox ++ [l] }

def flush (c : Collector) (epoch : Int) : Option Snapshot × Collector :=
  let (snapshot, aggregator) := c.aggregator.flush epoch
  (snapshot, { c with aggregator })

def receive (c : Collector) (epoch : Int) : Option Snapshot × Collector :=
  if c.stopped then (none, c)
  else
    match c.mailbox with
    | [] => (none, c)
    | .line text :: rest =>
        (none, { c with aggregator := c.aggregator.accept text, mailbox := rest })
    | .stop :: rest =>
        let (snapshot, c) := c.flush epoch
        (snapshot, { c with mailbox := rest, stopped := true })

def due (c : Collector) (now : Nat) : Bool := !c.stopped && decide (c.nextTick ≤ now)

def tick (c : Collector) (epoch : Int) : Option Snapshot × Collector :=
  let (snapshot, c) := c.flush epoch
  (snapshot, { c with nextTick := c.nextTick + c.period })

inductive Event where
  | post (l : Letter)
  | advance (ms : Nat)
  deriving DecidableEq, Repr

structure Timeline where
  now : Nat
  collector : Collector
  flushes : List (Nat × Snapshot)
  deriving BEq, Repr

namespace Timeline

def note (t : Timeline) : Option Snapshot × Collector → Timeline
  | (s, collector) =>
      { t with collector, flushes := t.flushes ++ s.toList.map fun s => (t.now, s) }

def drain : Nat → Timeline → Timeline
  | 0, t => t
  | fuel + 1, t =>
      if t.collector.mailbox.isEmpty then t
      else drain fuel (t.note (t.collector.receive (t.now * nanosPerMilli)))

def advanceTo (goal : Nat) : Nat → Timeline → Timeline
  | 0, t => { t with now := goal }
  | fuel + 1, t =>
      if t.collector.due goal then
        let t := { t with now := t.collector.nextTick }
        advanceTo goal fuel (t.note (t.collector.tick (t.now * nanosPerMilli)))
      else { t with now := goal }

def step (t : Timeline) : Event → Timeline
  | .post l =>
      let t := { t with collector := t.collector.post l }
      t.drain t.collector.mailbox.length
  | .advance ms => t.advanceTo (t.now + ms) (ms + 1)

end Timeline

def history (scope : String) (interval : Nat) (events : List Event) : List (Nat × Snapshot) :=
  (events.foldl Timeline.step ⟨0, start scope interval 0, []⟩).flushes

end Collector

end Overseer.Stats
