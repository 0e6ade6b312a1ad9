/-!
The rendezvous: flags that are released once, and waiters for several of them. A flag need not be
known before it is awaited or released.
-/

namespace Overseer.Boot

structure Rendezvous where
  released : List (String × Bool)
  deriving DecidableEq, Repr, Inhabited

namespace Rendezvous

def empty : Rendezvous := ⟨[]⟩

def get? (r : Rendezvous) (key : String) : Option Bool := r.released.lookup key

def release (r : Rendezvous) (key : String) (value : Bool) : Rendezvous × Bool :=
  if (r.get? key).isSome then (r, false) else (⟨(key, value) :: r.released⟩, true)

end Rendezvous

/-- What a waiter wants of its flags: that all are true, or merely that all are released. -/
inductive Demand where
  | allTrue
  | released
  deriving DecidableEq, Repr, Inhabited

/-- A waiter looks at its keys one after another. -/
structure Waiter where
  demand : Demand
  keys : List String
  answer : Option Bool
  deriving DecidableEq, Repr, Inhabited

namespace Waiter

def start (demand : Demand) (keys : List String) : Waiter := ⟨demand, keys, none⟩

def step? (r : Rendezvous) (w : Waiter) : Option Waiter :=
  if w.answer.isSome then none
  else
    match w.keys with
    | [] => some { w with answer := some true }
    | key :: rest =>
        match r.get? key, w.demand with
        | none, _ => none
        | some false, .allTrue => some { w with answer := some false }
        | some _, _ => some { w with keys := rest }

def settle (r : Rendezvous) (w : Waiter) : Waiter :=
  go w.keys
where
  go : List String → Waiter
    | [] => { w with keys := [], answer := some (w.answer.getD true) }
    | key :: rest =>
        if w.answer.isSome then w
        else
          match r.get? key, w.demand with
          | none, _ => { w with keys := key :: rest }
          | some false, .allTrue => { w with keys := key :: rest, answer := some false }
          | some _, _ => go rest

end Waiter

end Overseer.Boot
