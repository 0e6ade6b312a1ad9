import Overseer.Exec.Pump
import Overseer.Stream.Reader

/-!
The relay between a child process and its job. Two readers follow the output streams of the child
and share a channel, a pump takes the messages out of it and puts those that it passes on into the
stream of the job. When both readers are done it waits for the end of the child and tells how that
was. The channels are bounded, and the tasks may take their steps in any order in which they are
possible; the job takes messages to the end of its stream.
-/

namespace Overseer.Exec

inductive Source where
  | stdout
  | stderr
  deriving DecidableEq, Repr

def Source.level : Source → Level
  | .stdout => Overseer.Level.stdout
  | .stderr => Overseer.Level.stderr

inductive Relay.Stage where
  | taking
  | passing (m : Message)
  | waiting
  | telling (status : Option Host.ExitStatus)
  | done (status : Option Host.ExitStatus)
  deriving DecidableEq, Repr, Inhabited

structure Relay where
  stdout : Stream.Reader
  stderr : Stream.Reader
  raw : List Message
  stage : Relay.Stage
  meter : Meter
  stream : List Message
  taken : List Message
  deriving DecidableEq, Repr, Inhabited

namespace Relay

inductive Action where
  | read (source : Source)
  | offer (source : Source)
  | fetch
  | pass
  | close
  | learn (status : Option Host.ExitStatus)
  | tell
  | take
  deriving DecidableEq, Repr

def capacity : Nat := 64

def start (pid : Host.Pid) (stdout stderr : List Stream.Arrival) : Relay where
  stdout := .start Source.stdout.level stdout
  stderr := .start Source.stderr.level stderr
  raw := []
  stage := .taking
  meter := Meter.new.attach pid
  stream := []
  taken := []

def reader (r : Relay) : Source → Stream.Reader
  | .stdout => r.stdout
  | .stderr => r.stderr

def setReader (r : Relay) : Source → Stream.Reader → Relay
  | .stdout, reader => { r with stdout := reader }
  | .stderr, reader => { r with stderr := reader }

def isSilent (r : Relay) : Bool := r.raw.isEmpty && r.stdout.finished && r.stderr.finished

def give? (r : Relay) (m : Message) (stage : Stage) : Option Relay :=
  if r.stream.length < capacity then some { r with stage, stream := r.stream ++ [m] } else none

def exited (r : Relay) : Bool :=
  match r.stage with
  | .telling _ | .done _ => true
  | _ => false

def targets? (r : Relay) : Option KillTargets := killTargets? r.meter r.exited

def step? (r : Relay) : Action → Option Relay
  | .read source => (r.reader source).read?.map (r.setReader source)
  | .offer source =>
      match (r.reader source).outgoing with
      | some m =>
          if r.raw.length < capacity then
            let next := r.setReader source { r.reader source with outgoing := none }
            some { next with raw := r.raw ++ [m] }
          else none
      | none => none
  | .fetch =>
      match r.stage, r.raw with
      | .taking, m :: raw =>
          let (meter, passed) := intercept r.meter m
          some { r with raw, meter, stage := passed.elim .taking .passing }
      | _, _ => none
  | .pass =>
      match r.stage with
      | .passing m => r.give? m .taking
      | _ => none
  | .close =>
      match r.stage with
      | .taking => if r.isSilent then some { r with stage := .waiting } else none
      | _ => none
  -- The child is waited for only when its output is over.
  | .learn status =>
      match r.stage with
      | .waiting => some { r with stage := .telling status }
      | _ => none
  | .tell =>
      match r.stage with
      | .telling status => r.give? (.exit (endState status)) (.done status)
      | _ => none
  | .take =>
      match r.stream with
      | m :: stream => some { r with stream, taken := r.taken ++ [m] }
      | [] => none

inductive Reachable (pid : Host.Pid) (stdout stderr : List Stream.Arrival) : Relay → Prop where
  | start : Reachable pid stdout stderr (.start pid stdout stderr)
  | next {r next : Relay} {act : Action} (reach : Reachable pid stdout stderr r)
      (step : r.step? act = some next) : Reachable pid stdout stderr next

end Relay

end Overseer.Exec
