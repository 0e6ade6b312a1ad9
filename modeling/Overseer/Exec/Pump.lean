import Overseer.Exec.Meter
import Overseer.Job.Message

/-!
The pump of a child process: it passes on the messages that the child prints, but for the internal
ones, and says itself how the child ended. What the child claims about its end is an error line.
-/

namespace Overseer.Exec

def reportedPid? (content : String) : Option Host.Pid :=
  (Decimal.readSigned 32 (Text.trimChars content.toList)).toOption

def intercept (meter : Meter) (m : Message) : Meter × Option Message :=
  if m.level = .exitState then (meter, some { m with level := .stderr })
  else if !m.level.isInternal then (meter, some m)
  else if m.level = .monitorPid then
    match reportedPid? m.content with
    | some pid => (meter.track pid, none)
    | none => (meter, none)
  else (meter, none)

def interceptAll (meter : Meter) : List Message → Meter × List Message
  | [] => (meter, [])
  | m :: rest =>
      let (meter, passed) := intercept meter m
      let (meter, others) := interceptAll meter rest
      (meter, passed.toList ++ others)

def endState : Option Host.ExitStatus → JobState
  | some status => if status.isSuccess then .success else .error
  | none => .error

inductive Interleaving {α : Type} : List α → List α → List α → Prop where
  | nil : Interleaving [] [] []
  | left {a : α} {as bs cs : List α} (rest : Interleaving as bs cs) :
      Interleaving (a :: as) bs (a :: cs)
  | right {b : α} {as bs cs : List α} (rest : Interleaving as bs cs) :
      Interleaving as (b :: bs) (b :: cs)

def delivered (meter : Meter) (raw : List Message) (status : Option Host.ExitStatus) :
    List Message :=
  (interceptAll meter raw).2 ++ [.exit (endState status)]

/-- The processes that are signalled when a job is killed: the group of its child, named by its
leader, and what the meter tracks. -/
structure KillTargets where
  group : Host.Pid
  single : List Host.Pid
  deriving DecidableEq, Repr

def killTargets? (meter : Meter) (exited : Bool) : Option KillTargets :=
  if exited then none else meter.main.map fun pid => ⟨pid, meter.tracked⟩

end Overseer.Exec
