/-!
The clock by which jobs wait. Times are milliseconds from its start; it can count only so far.
-/

namespace Overseer.Clock

def millisPerSecond : Nat := 1000

/-- The first time that the clock cannot count to. -/
def range : Nat := (Nat.pow 2 63 - 1) * millisPerSecond

def longestWait : Nat := 30 * 365 * 24 * 60 * 60 * millisPerSecond

/-- When a wait ends that begins at `now`. -/
def wakeAt (now length : Nat) : Nat :=
  if range ≤ now + length then now + longestWait else now + length

end Overseer.Clock
