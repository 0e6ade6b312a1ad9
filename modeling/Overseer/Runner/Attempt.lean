import Overseer.Clock
import Overseer.Job.Result
import Overseer.Job.Usage
import Overseer.Manager.Config
import Overseer.Stream.Ring

/-!
One attempt of a job: its process talks to it through a stream of messages, and it keeps what the
result is to tell. Times are milliseconds of the clock.
-/

namespace Overseer.Runner

structure Attempt where
  began : Nat
  stream : List Message
  streamOpen : Bool
  terminated : Bool
  state : Option JobState
  timedOut : Bool
  output : Stream.Ring
  errors : Stream.Ring
  result : JobResult
  nextSample : Nat
  nextTick : Nat
  deriving BEq, Repr, Inhabited

namespace Attempt

def blank (c : Command) (startTime : Int) : JobResult :=
  { JobResult.new c .error with startTime := .ofInt startTime }

def start (config : Manager.Config) (c : Command) (now : Nat) (startTime : Int) : Attempt where
  began := now
  stream := []
  streamOpen := true
  terminated := false
  state := none
  timedOut := false
  output := .new config.effectiveStreamLines
  errors := .new config.effectiveStreamLines
  result := blank c startTime
  nextSample := now + config.effectiveMeterInterval
  nextTick := now + config.effectiveHookTick

/-- Whether the clock can count to the first sample and to the first tick of an attempt. -/
def isTimely (config : Manager.Config) (now : Nat) : Bool :=
  decide (now + config.effectiveMeterInterval < Clock.range) &&
    decide (now + config.effectiveHookTick < Clock.range)

def failedResult (c : Command) (startTime : Int) (error : String) : JobResult :=
  { blank c startTime with streams := ("", error ++ "\n") }

def deadline? (c : Command) (a : Attempt) : Option Nat :=
  if c.maxTime = 0 || a.timedOut then none
  else some (Clock.wakeAt a.began (c.maxTime.toNat * Clock.millisPerSecond))

def terminate (a : Attempt) (state : JobState) : Attempt :=
  { a with terminated := true, state := some state }

def isFinal (m : Message) : Bool := m.level == .exitState

def record (a : Attempt) (m : Message) : Attempt :=
  if m.level = .exitState then
    -- A timeout is not overruled by what the process says of itself afterwards.
    if a.timedOut then a else { a with state := some ((JobState.parse? m.content).getD .error) }
  else if m.level = .stdout then { a with output := a.output.push m.content }
  else if m.level = .stderr then { a with errors := a.errors.push m.content }
  else if m.level = .critical then { a with result := { a.result with critical := m.content } }
  else if m.level.isResult then
    { a with result := { a.result with level := m.level, data := m.content } }
  else a

def conclude (a : Attempt) (now : Nat) : JobResult :=
  { a.result with
    state := a.state.getD .error
    streams := (a.output.contents, a.errors.contents)
    time := (now - a.began).toUInt64 }

end Attempt

end Overseer.Runner
