import Overseer.Clock
import Overseer.Job.Command
import Overseer.Manager.Config

/-!
When a job runs again. A failed attempt is followed by another one after a short delay as long as
the failures in a row stay below a limit; a recurring job runs again after its period in any case.
-/

namespace Overseer.Runner

/-- What decides whether a job runs again. Times are milliseconds. -/
structure Policy where
  maxRestart : Nat
  restartDelay : Nat
  stabilityWindow : Nat
  recurringPeriod : Nat
  deriving DecidableEq, Repr, Inhabited

def Policy.of (config : Manager.Config) (c : Command) : Policy where
  maxRestart := c.maxRestart.toNat
  restartDelay := config.restartDelay
  stabilityWindow := config.stabilityWindow
  recurringPeriod := c.recurringPeriod.toNat * Clock.millisPerSecond

namespace Policy

def countFailure (p : Policy) (failures elapsed : Nat) : Nat :=
  -- The window is compared as it stands: here zero is no default.
  if p.stabilityWindow ≤ elapsed then 1 else failures + 1

/-- The failures in a row and the delay until the next attempt, if there is one, after an attempt
that ended in a state other than killed. -/
def next (p : Policy) (failures : Nat) (state : JobState) (elapsed : Nat) : Nat × Option Nat :=
  if !state.isSuccess && decide (0 < p.maxRestart) then
    let failures := p.countFailure failures elapsed
    if failures < p.maxRestart then (failures, some p.restartDelay)
    else (failures, if p.recurringPeriod = 0 then none else some p.recurringPeriod)
  else if p.recurringPeriod = 0 then (failures, none)
  else (if state.isSuccess then 0 else failures, some p.recurringPeriod)

end Policy

end Overseer.Runner
