import Overseer.Host.Registry

/-!
The children of the agent, as the host sees them. Children run, end, and are collected; the host may
give the number of a collected child to a new one. `World.step?` says what may happen in which
state, in any order.
-/

namespace Overseer.Host

/-- A child, told from all others by its serial number. -/
structure Child where
  serial : Nat
  pid : Pid
  deriving DecidableEq, Repr, Inhabited

structure Waiting where
  child : Child
  ticket : Nat
  deriving DecidableEq, Repr, Inhabited

structure Answered where
  child : Child
  answer : WaitAnswer
  deriving DecidableEq, Repr, Inhabited

structure World where
  registry : Registry
  running : List Child
  ready : List (Child × ExitStatus)
  owned : List Child
  waiting : List Waiting
  answered : List Answered
  collected : List (Child × ExitStatus)
  nextSerial : Nat
  deriving DecidableEq, Repr, Inhabited

namespace World

def initial : World := ⟨.empty, [], [], [], [], [], [], 0⟩

def used (w : World) : List Pid := w.running.map (·.pid) ++ w.ready.map (·.1.pid)

inductive Action where
  | register (pid : Pid)
  | fail
  | finish (child : Child) (code signal : Option Int)
  | reap
  | claim (child : Child)
  | answer (w : Waiting)
  deriving DecidableEq, Repr

def step? (w : World) : Action → Option World
  | .register pid =>
      if pid ∈ w.used then none
      else
        let child : Child := ⟨w.nextSerial, pid⟩
        some { w with
          registry := w.registry.register (some pid)
          running := child :: w.running
          owned := child :: w.owned
          nextSerial := w.nextSerial + 1 }
  | .fail => some { w with registry := w.registry.register none }
  | .finish child code signal =>
      if child ∈ w.running then
        some { w with
          running := w.running.erase child
          ready := w.ready ++ [(child, ⟨child.pid, code, signal⟩)] }
      else none
  | .reap =>
      some { w with
        registry := w.registry.reap (w.ready.map (·.2))
        ready := []
        collected := w.collected ++ w.ready }
  | .claim child =>
      if child ∈ w.owned then
        match w.registry.claim child.pid with
        | (registry, some ticket) =>
            some { w with
              registry
              owned := w.owned.erase child
              waiting := ⟨child, ticket⟩ :: w.waiting }
        | (registry, none) =>
            some { w with
              registry
              owned := w.owned.erase child
              answered := ⟨child, .notRegistered child.pid⟩ :: w.answered }
      else none
  | .answer waiting =>
      if waiting ∈ w.waiting then
        match w.registry.answer? waiting.child.pid waiting.ticket with
        | some answer =>
            some { w with
              waiting := w.waiting.erase waiting
              answered := ⟨waiting.child, answer⟩ :: w.answered }
        | none => none
      else none

inductive Reachable : World → Prop where
  | initial : Reachable initial
  | next {w next : World} {act : Action} (reach : Reachable w) (step : w.step? act = some next) :
      Reachable next

end World

end Overseer.Host
