import Overseer.Host.Children

/-!
The lock of the registry. A parent spawns its child and enters it while it holds the lock. The
reaper takes the lock when it is woken and asks the host for one child after the other that has
ended, until the host knows of none. The host takes no notice of the lock: a child may end as soon
as it exists, and its number is free again as soon as the reaper was told of its end.

All children come to be through the registry, and nobody but the reaper collects them.
-/

namespace Overseer.Host

inductive Report where
  | event (e : WaitEvent)
  | interrupted
  | noChildren
  | failed
  deriving DecidableEq, Repr

/-- Who holds the lock, and how far that one is. -/
inductive Holder where
  | nobody
  | spawning
  | entering (child : Child)
  | asking
  | posting (child : Child) (status : ExitStatus)
  deriving DecidableEq, Repr, Inhabited

structure LockedWorld extends World where
  served : Bool
  holder : Holder
  entered : List (Child × Nat)
  deriving DecidableEq, Repr, Inhabited

namespace LockedWorld

def initial (served : Bool) : LockedWorld := ⟨.initial, served, .nobody, []⟩

inductive Action where
  | lock
  | spawn (pid : Pid)
  | fail
  | enter
  | finish (child : Child) (e : WaitEvent)
  | wake
  | ask (report : Report)
  | post
  | claim (child : Child)
  | answer (w : Waiting)
  deriving DecidableEq, Repr

def told? (l : LockedWorld) (e : WaitEvent) : Option LockedWorld :=
  match ExitStatus.ofEvent? e with
  | none => some l
  | some status =>
      (l.ready.find? fun r => r.2 = status).map fun r =>
        { l with
          ready := l.ready.erase r
          collected := l.collected ++ [r]
          holder := .posting r.1 r.2 }

/-- What the reaper does when it hears a report: it goes on asking until there is nothing to be told
or the host fails to answer. -/
def hear? (l : LockedWorld) : Report → Option LockedWorld
  | .interrupted => some l
  | .failed => some { l with holder := .nobody }
  | .noChildren =>
      if l.running.isEmpty && l.ready.isEmpty then some { l with holder := .nobody } else none
  | .event .stillAlive => if l.ready.isEmpty then some { l with holder := .nobody } else none
  | .event e => l.told? e

def elsewhere? (l : LockedWorld) (act : World.Action) : Option LockedWorld :=
  (l.toWorld.step? act).map fun w => { l with toWorld := w }

def step? (l : LockedWorld) : Action → Option LockedWorld
  | .lock => if l.served && l.holder = .nobody then some { l with holder := .spawning } else none
  | .spawn pid =>
      if l.holder = .spawning ∧ pid ∉ l.used then
        let child : Child := ⟨l.nextSerial, pid⟩
        some { l with
          running := child :: l.running
          nextSerial := l.nextSerial + 1
          holder := .entering child }
      else none
  | .fail =>
      if l.holder = .spawning then
        some { l with registry := l.registry.register none, holder := .nobody }
      else none
  | .enter =>
      match l.holder with
      | .entering child =>
          some { l with
            registry := l.registry.register (some child.pid)
            owned := child :: l.owned
            entered := (child, l.registry.nextTicket) :: l.entered
            holder := .nobody }
      | _ => none
  | .finish child e =>
      match ExitStatus.ofEvent? e with
      | some status =>
          if status.pid = child.pid then l.elsewhere? (.finish child status.code status.signal)
          else none
      | none => none
  | .wake => if l.served && l.holder = .nobody then some { l with holder := .asking } else none
  | .ask report => if l.holder = .asking then l.hear? report else none
  | .post =>
      match l.holder with
      | .posting _ status =>
          some { l with registry := l.registry.collect status, holder := .asking }
      | _ => none
  | .claim child => if l.holder = .nobody then l.elsewhere? (.claim child) else none
  | .answer w => l.elsewhere? (.answer w)

inductive Reachable (served : Bool) : LockedWorld → Prop where
  | initial : Reachable served (.initial served)
  | next {l next : LockedWorld} {act : Action} (reach : Reachable served l)
      (step : l.step? act = some next) : Reachable served next

end LockedWorld

end Overseer.Host
