/-!
The limits and periods of the process manager. Times are milliseconds. Where an accessor says so, a
field that is zero stands for its default.
-/

namespace Overseer.Manager

structure Config where
  maxJobs : Nat
  streamLines : Nat
  statsInterval : Nat
  meterInterval : Nat
  restartDelay : Nat
  hookTick : Nat
  stabilityWindow : Nat
  deriving DecidableEq, Repr, Inhabited

namespace Config

def default : Config where
  maxJobs := 100
  streamLines := 1000
  statsInterval := 30000
  meterInterval := 30000
  restartDelay := 1000
  hookTick := 1000
  stabilityWindow := 10000

def orDefault (n fallback : Nat) : Nat := if n = 0 then fallback else n

def effectiveMaxJobs (c : Config) : Nat := orDefault c.maxJobs default.maxJobs
def effectiveStreamLines (c : Config) : Nat := orDefault c.streamLines default.streamLines
def effectiveStatsInterval (c : Config) : Nat := orDefault c.statsInterval default.statsInterval
def effectiveMeterInterval (c : Config) : Nat := orDefault c.meterInterval default.meterInterval
def effectiveHookTick (c : Config) : Nat := orDefault c.hookTick default.hookTick

theorem effectiveMaxJobs_pos (c : Config) : 0 < c.effectiveMaxJobs := by
  unfold effectiveMaxJobs orDefault
  by_cases h : c.maxJobs = 0
  · rw [if_pos h]
    decide
  · rw [if_neg h]
    omega

end Config

end Overseer.Manager
