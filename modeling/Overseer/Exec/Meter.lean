import Overseer.Decimal.Whole
import Overseer.Host.ExitStatus
import Overseer.Job.Usage
import Overseer.Text.Blank

/-!
The meter of a job: which processes its used resources are summed over.
-/

namespace Overseer.Exec

structure Meter where
  main : Option Host.Pid
  tracked : List Host.Pid
  deriving DecidableEq, Repr, Inhabited

namespace Meter

def new : Meter := ⟨none, []⟩

def attach (m : Meter) (pid : Host.Pid) : Meter := { m with main := some pid }

def track (m : Meter) (pid : Host.Pid) : Meter :=
  if some pid = m.main ∨ pid ∈ m.tracked then m else { m with tracked := m.tracked ++ [pid] }

def sample (usage : Host.Pid → Option Usage) (m : Meter) : Usage × Meter :=
  match m.main with
  | none => (.zero, m)
  | some main =>
      let present := m.tracked.filter fun pid => (usage pid).isSome
      ((usage main).toList ++ present.filterMap usage |>.foldl Usage.merge .zero,
        { m with tracked := present })

end Meter

def textLines (s : List Char) : List (List Char) :=
  (Text.pieces '\n' s).map fun line =>
    match line.getLast? with
    | some '\r' => line.dropLast
    | _ => line

def swapLabel : List Char := "VmSwap:".toList

def swapOf? (status : String) : Option Nat := do
  let line ← (textLines status.toList).find? fun line => swapLabel.isPrefixOf line
  let word ← (Text.words (line.drop swapLabel.length)).head?
  let kilobytes ← (Decimal.readNat (Nat.pow 2 64) word).toOption
  return kilobytes * 1024

/-- What a process uses, by the table of the processes and by the text of its status. The table is
looked up without the sign of the process id. -/
def usageOf (processes : Nat → Option Usage) (status : Host.Pid → Option String) (pid : Host.Pid) :
    Option Usage :=
  (processes pid.natAbs).map fun usage =>
    { usage with swap := (((status pid).bind swapOf?).getD 0).toUInt64 }

end Overseer.Exec
