import Overseer.Exec.Relay
import Overseer.Host.Signal

/-!
The supervision of a child process: while the relay goes on, the job asks what the child uses, and
may tell it to end. A kill signals the group of the child first, then the processes that the meter
tracks, and once more the group when the time of grace is over. Nothing is signalled any more when
the child is known to have ended.
-/

namespace Overseer.Exec

structure Supervision where
  relay : Relay
  begun : Nat
  grace : Nat
  sent : List (Host.Signal × Host.Addressee)
  deriving DecidableEq, Repr, Inhabited

namespace Supervision

inductive Action where
  | relay (act : Relay.Action)
  | sample (processes : Nat → Option Usage) (status : Host.Pid → Option String)
  | killGroup
  | killTracked
  | expire

def start (pid : Host.Pid) (stdout stderr : List Stream.Arrival) : Supervision where
  relay := .start pid stdout stderr
  begun := 0
  grace := 0
  sent := []

def send (s : Supervision) (signals : List (Host.Signal × Host.Addressee)) : Supervision :=
  { s with sent := s.sent ++ signals }

def step? (s : Supervision) : Action → Option Supervision
  | .relay act => (s.relay.step? act).map fun relay => { s with relay }
  | .sample processes status =>
      if s.relay.exited then some s
      else
        let (_, meter) := s.relay.meter.sample (usageOf processes status)
        some { s with relay := { s.relay with meter } }
  | .killGroup =>
      match s.relay.targets? with
      | some targets =>
          some ({ s with begun := s.begun + 1 }.send [(.terminate, .ofGroup targets.group)])
      | none => some s
  -- The meter is read only now: it may know more than when the group was signalled.
  | .killTracked =>
      if s.begun = 0 then none
      else
        let signals := s.relay.meter.tracked.map fun pid => (.terminate, .ofPid pid)
        some ({ s with begun := s.begun - 1, grace := s.grace + 1 }.send signals)
  | .expire =>
      if s.grace = 0 then none
      else
        let rest := { s with grace := s.grace - 1 }
        match s.relay.targets? with
        | some targets => some (rest.send [(.kill, .ofGroup targets.group)])
        | none => some rest

inductive Reachable (pid : Host.Pid) (stdout stderr : List Stream.Arrival) : Supervision → Prop where
  | start : Reachable pid stdout stderr (.start pid stdout stderr)
  | next {s next : Supervision} {act : Action} (reach : Reachable pid stdout stderr s)
      (step : s.step? act = some next) : Reachable pid stdout stderr next

end Supervision

end Overseer.Exec
