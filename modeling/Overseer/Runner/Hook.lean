import Overseer.Job.Message
import Overseer.Pattern.Basic

/-!
Hooks: observers of a runner. A hook is shown what goes on and fires when it has seen what it waits
for; all but the one that reports everything fire once at most.
-/

namespace Overseer

inductive Sight where
  | tick (elapsed : Nat)
  | message (m : Message)
  | exit (state : JobState)
  | pid (n : Int)
  deriving DecidableEq, Repr, Inhabited

inductive Trigger where
  | delay (limit : Nat)
  | exit
  | pid
  | content (pattern : Pattern.Regex)
  | everything
  | nothing
  deriving DecidableEq, Repr, Inhabited

inductive Firing where
  | delay
  | exit (success : Bool)
  | pid (n : Int)
  | content
  | seen (s : Sight)
  deriving DecidableEq, Repr, Inhabited

/-- The flag of a boot slice that a hook releases by firing. -/
structure FlagRef where
  slice : Nat
  key : String
  deriving DecidableEq, Repr, Inhabited

structure Hook where
  trigger : Trigger
  fired : Bool
  flag : Option FlagRef
  deriving DecidableEq, Repr, Inhabited

namespace Hook

def watch (trigger : Trigger) : Hook := ⟨trigger, false, none⟩

def releasing (trigger : Trigger) (flag : FlagRef) : Hook := ⟨trigger, false, some flag⟩

def Trigger.pull? : Trigger → Sight → Option Firing
  | .delay limit, .tick elapsed => if limit < elapsed then some .delay else none
  | .exit, .exit state => some (.exit state.isSuccess)
  | .pid, .pid n => some (.pid n)
  | .content pattern, .message m => if pattern.isMatch m.content then some .content else none
  | .everything, s => some (.seen s)
  | _, _ => none

def observe (h : Hook) (s : Sight) : Hook × Option Firing :=
  if h.fired then (h, none)
  else
    match Trigger.pull? h.trigger s with
    | none => (h, none)
    | some f => ({ h with fired := h.trigger != .everything }, some f)

def releaseValue : Firing → Bool
  | .exit success => success
  | _ => true

def observeAll (hooks : List Hook) (s : Sight) : List Hook × List (Nat × Hook × Firing) :=
  let seen := hooks.map fun h => h.observe s
  (seen.map (·.1),
    seen.zipIdx.filterMap fun ((h, f), i) => f.map fun f => (i, h, f))

theorem observe_fired (h : Hook) (s : Sight) (fired : h.fired = true) :
    h.observe s = (h, none) := by
  unfold observe
  rw [if_pos fired]

end Hook

end Overseer
