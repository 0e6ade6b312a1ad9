import Overseer.Stats.Collector

/-!
A collector on a task of its own. Its owner feeds it without ever waiting, until it stops it or lets
it go. The task reads its mailbox and ticks, whichever comes first, and hands over what it flushes.

Clock times are milliseconds. A part of the interval that is below a millisecond shows only in the
moments of the ticks.
-/

namespace Overseer.Stats

inductive Handle where
  | held
  | dropped
  | stopping
  | returned
  deriving DecidableEq, Repr

structure Service where
  collector : Collector
  handle : Handle
  delivered : List Snapshot
  deriving Repr

namespace Service

def start (scope : String) (interval now : Nat) : Service := ⟨.start scope interval now, .held, []⟩

inductive Action where
  | feed (line : String)
  | stop
  | drop
  | read (epoch : Int)
  | tick (now : Nat) (epoch : Int)
  | joined
  deriving Repr

def post (v : Service) (l : Letter) : Service := { v with collector := v.collector.post l }

def deliver (v : Service) : Option Snapshot × Collector → Service
  | (snapshot, collector) => { v with collector, delivered := v.delivered ++ snapshot.toList }

/-- Reads the next letter. An empty mailbox is waited at as long as anyone can write to it; when
nobody can, the task goes on as at a stop. -/
def read? (v : Service) (epoch : Int) : Option Service :=
  if v.collector.stopped then none
  else
    match v.collector.mailbox with
    | _ :: _ => some (v.deliver (v.collector.receive epoch))
    | [] =>
        if v.handle = .dropped then
          some (v.deliver ((v.collector.post .stop).receive epoch))
        else none

def step? (v : Service) : Action → Option Service
  | .feed line => if v.handle = .held then some (v.post (.line line)) else none
  | .stop => if v.handle = .held then some { v.post .stop with handle := .stopping } else none
  | .drop => if v.handle = .held then some { v with handle := .dropped } else none
  | .read epoch => v.read? epoch
  | .tick now epoch =>
      if v.collector.due now then some (v.deliver (v.collector.tick epoch)) else none
  | .joined =>
      if v.handle = .stopping ∧ v.collector.stopped = true then some { v with handle := .returned }
      else none

def run? (v : Service) : List Action → Option Service
  | [] => some v
  | a :: rest => (v.step? a).bind fun next => next.run? rest

end Service

end Overseer.Stats
