import Overseer.Manager.System

/-!
The steps of the manager and of everything that it runs. `System.step?` is the only source of
change: what a scheduler may do is what it allows, in any order, and `Reachable` is what any order
may lead to.
-/

namespace Overseer.Manager

inductive Call where
  | start
  | cancel
  | push (c : Command)
  | run (c : Command) (hooks : List Hook)
  | handleRoute (route : String)
  | register (kind : String) (factory : Nat)
  | unregister (kind : String)
  | kill (id : String)
  | killAll
  | boot (slices : List (List Boot.Entry))
  deriving BEq, Repr

inductive Action where
  | pass (ms : Nat)
  | call (c : Call)
  | runner (i : Nat) (act : Runner.Action)
  | enter (i : Nat)
  | dispatch
  | produce
  | deliver
  | stopDispatcher
  | stopProducer
  | arm
  | count
  | wake
  | takeDirect
  | takeReleased
  | enroll
  | stopAdmission
  | boot (i : Nat)
  | entry (slice i : Nat)
  deriving BEq, Repr

namespace System

def answer (s : System) : Call → System
  | .start =>
      match s.start with
      | .ok next => next
      | .error _ => s
  | .cancel => s.cancel
  | .push c => (s.push c).1
  | .run c hooks => (s.run c hooks).1
  | .handleRoute route => s.handleRoute route
  | .register kind factory => s.register kind factory
  | .unregister kind => (s.unregister kind).1
  | .kill id => (s.kill id).1
  | .killAll => s.killAll
  | .boot slices => s.boot slices

def release (s : System) (flag : FlagRef) (value : Bool) : System :=
  { s with slices := s.slices.modify flag.slice fun slice => slice.release flag.key value }

def wakeAdmission (s : System) : System :=
  match s.admission with
  | .armed _ => { s with admission := .armed true }
  | .waiting _ => { s with admission := .waiting true }
  | _ => s

def absorb (i : Nat) (r : Runner) (s : System) : Runner.Effect → System
  | .launched => s.note r.command.id (some i) .launched
  | .terminated => s.note r.command.id (some i) .terminated
  | .fired index hook f =>
      match hook.flag with
      | some flag => s.release flag (Hook.releaseValue f)
      | none => s.note r.command.id (some i) (.fired index f)
  | .message m => s.note r.command.id (some i) (.message m)
  | .flushed snapshot => s.note snapshot.scope (some i) (.flushed snapshot)
  | .result result => s.report r.command (some i) result
  | .left => { s with registry := s.registry.filter fun job => job.1 != r.command.id }
  | .released =>
      if r.origin = .released then { s with queue := s.queue.notify r.command.queue } else s
  | .woke => s.wakeAdmission

def stepRunner? (s : System) (i : Nat) (act : Runner.Action) : Option System :=
  match s.runners[i]? with
  | none => none
  | some r =>
      match r.step? s.config s.clock act with
      | none => none
      | some (next, effects) =>
          some (effects.foldl (absorb i r) { s with runners := s.runners.set i next })

def isNextPush (s : System) (i : Nat) : Bool :=
  (s.pushes.take i).all fun p => p.status != .waiting || !p.command.queue.isEmpty

def settlePush (s : System) (i : Nat) (c : Command) (accepted : Bool) : System :=
  { s with pushes := s.pushes.set i ⟨c, if accepted then .accepted else .refused⟩ }.note c.id none
    (.pushed accepted)

def enter? (s : System) (i : Nat) : Option System :=
  match s.pushes[i]? with
  | some ⟨c, .waiting⟩ =>
      if !c.queue.isEmpty then
        let (queue, accepted) := s.queue.push c
        some ({ s with queue }.settlePush i c accepted)
      else if !s.commandsOpen then some (s.settlePush i c false)
      else if s.isNextPush i && decide (s.commands.length < s.config.effectiveMaxJobs) then
        some ({ s with commands := s.commands ++ [c] }.settlePush i c true)
      else none
  | _ => none

/-- Starts the job of an admitted command. A queue whose command is rejected goes on. -/
def enroll (s : System) (c : Command) (origin : Runner.Origin) : System :=
  match s.spawn c [] origin with
  | (s, .ok _) => { s with admission := .idle }
  | (s, .error _) =>
      { s with
        admission := .idle
        queue := if origin = .released then s.queue.notify c.queue else s.queue }

def stopAdmission (s : System) : System :=
  { s with
    admission := .stopped, commands := [], commandsOpen := false, queue := s.queue.dropOutput }

def admissionRests (s : System) : Bool :=
  match s.admission with
  | .idle | .armed _ | .waiting _ | .ready => true
  | _ => false

def stepBoot? (s : System) (i : Nat) : Option System :=
  match s.boots[i]? with
  | none => none
  | some b =>
      if b.finished then none
      else
        match b.current, b.pending with
        | some n, _ =>
            match s.slices[n]? with
            | some slice =>
                if slice.isUp then
                  some { s with boots := s.boots.set i { b with current := none } }
                else none
            | none => none
        | none, [] =>
            let boots := s.boots.set i { b with finished := true }
            some ({ s with boots }.note "" none .booted)
        | none, entries :: rest =>
            some { s with
              slices := s.slices ++ [.start entries]
              boots := s.boots.set i ⟨rest, some s.slices.length, false⟩ }

def stepEntry? (s : System) (n i : Nat) : Option System :=
  match s.slices[n]? with
  | none => none
  | some slice =>
      match slice.tasks[i]? with
      | none => none
      | some t =>
          match slice.verdict? t with
          | none => none
          | some false =>
              some { s with slices := s.slices.set n ((slice.finish i).release t.entry.key false) }
          | some true =>
              let flag : FlagRef := ⟨n, t.entry.key⟩
              let s := { s with slices := s.slices.set n (slice.finish i) }
              match s.run t.entry.toCommand (t.entry.readinessHooks flag) with
              | (s, .ok _) => some s
              | (s, .error _) => some (s.release flag false)

def step? (s : System) : Action → Option System
  | .pass ms => some { s with now := s.now + ms }
  | .call c => some (s.answer c)
  | .runner i act => s.stepRunner? i act
  | .enter i => s.enter? i
  | .dispatch => s.queue.dispatch?.map fun queue => { s with queue }
  | .produce => s.queue.produce?.map fun queue => { s with queue }
  | .deliver => s.queue.deliver?.map fun queue => { s with queue }
  | .stopDispatcher => s.queue.stopDispatcher?.map fun queue => { s with queue }
  | .stopProducer => s.queue.stopProducer?.map fun queue => { s with queue }
  | .arm =>
      match s.admission with
      | .idle => some { s with admission := .armed false }
      | _ => none
  | .count =>
      -- Jobs are counted before a command is taken, and not once more when it has been.
      match s.admission with
      | .armed woken =>
          some { s with
            admission := if s.live < s.config.effectiveMaxJobs then .ready else .waiting woken }
      | _ => none
  | .wake =>
      match s.admission with
      | .waiting true => some { s with admission := .idle }
      | _ => none
  | .takeDirect =>
      match s.admission, s.commands with
      | .ready, c :: rest => some { s with admission := .holding c .admitted, commands := rest }
      | _, _ => none
  | .takeReleased =>
      match s.admission, s.queue.take? with
      | .ready, some (c, queue) => some { s with admission := .holding c .released, queue }
      | _, _ => none
  | .enroll =>
      match s.admission with
      | .holding c origin => some (s.enroll c origin)
      | _ => none
  | .stopAdmission => if s.cancelled && s.admissionRests then some s.stopAdmission else none
  | .boot i => s.stepBoot? i
  | .entry n i => s.stepEntry? n i

end System

inductive Step : System → Action → System → Prop where
  | step {s : System} {act : Action} {next : System} (h : s.step? act = some next) :
      Step s act next

inductive Reachable (config : Config) (dawn : Int) : System → Prop where
  | new : Reachable config dawn (.new config dawn)
  | next {s next : System} {act : Action} (reach : Reachable config dawn s)
      (step : s.step? act = some next) : Reachable config dawn next

end Overseer.Manager
