import Overseer.Boot.Entry
import Overseer.Boot.Rendezvous
import Overseer.Pattern.Meaning
import Overseer.Runner.Hook

/-!
A slice of the startup batch on its way up. Every entry has a flag; it is started when the flags of
what it depends on are true, and its hooks release its own flag. The slice is up when all flags are
released, whatever their values.
-/

namespace Overseer.Boot

structure Task where
  entry : Entry
  waiter : Waiter
  done : Bool
  deriving BEq, Repr, Inhabited

structure Slice where
  rendezvous : Rendezvous
  tasks : List Task
  deriving BEq, Repr, Inhabited

namespace Entry

def dependencies (e : Entry) : List String := e.after.filter fun d => (Phase.ofTag? d).isNone

def settleDelay : Nat := 2000

def readinessHooks (e : Entry) (flag : FlagRef) : List Hook :=
  let up := match e.runningMatch with
    | some text =>
        match Pattern.parse text with
        | .ok pattern => [Trigger.content pattern]
        | .error _ => []
    | none =>
        if e.runningDelay < 0 then []
        else if e.runningDelay = 0 then [Trigger.delay settleDelay]
        else [Trigger.delay (e.runningDelay.toInt.toNat * 1000)]
  (up ++ [Trigger.exit]).map fun t => Hook.releasing t flag

end Entry

namespace Slice

def provided (s : Slice) : List String := s.tasks.map (·.entry.key)

/-- Starts waiting. What no entry of the slice provides counts as up. -/
def start (entries : List Entry) : Slice where
  tasks := entries.map fun e => ⟨e, .start .allTrue e.dependencies, false⟩
  rendezvous :=
    let foreign := (entries.flatMap Entry.dependencies).filter fun d =>
      !(entries.map (·.key)).contains d
    foreign.foldl (fun r key => (r.release key true).1) .empty

def release (s : Slice) (key : String) (value : Bool) : Slice :=
  { s with rendezvous := (s.rendezvous.release key value).1 }

def isUp (s : Slice) : Bool := s.provided.all fun key => (s.rendezvous.get? key).isSome

def verdict? (s : Slice) (t : Task) : Option Bool :=
  if t.done then none else (t.waiter.settle s.rendezvous).answer

def finish (s : Slice) (i : Nat) : Slice :=
  { s with tasks := s.tasks.modify i fun t => { t with done := true } }

end Slice

/-- A boot: slices that come up one after another. -/
structure Sequence where
  pending : List (List Entry)
  current : Option Nat
  finished : Bool
  deriving BEq, Repr, Inhabited

end Overseer.Boot
