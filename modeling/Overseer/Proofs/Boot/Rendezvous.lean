import Mathlib.Tactic.Common
import Overseer.Boot.Rendezvous

/-!
# Flags and waiters

A flag has the value of its first release, and keeps it. A waiter comes as far as the first of its
keys that it cannot pass.
-/

namespace Overseer.Boot

/-! ## Flags -/

theorem Rendezvous.get?_release_eq (r : Rendezvous) (key other : String) (value : Bool) :
    (r.release key value).1.get? other =
      if other = key then some ((r.get? key).getD value) else r.get? other := by
  cases known : r.get? key with
  | some v =>
      have same : (r.release key value).1 = r := by simp [release, known]
      rw [same]
      split
      · rename_i own
        rw [own, known]
        rfl
      · rfl
  | none =>
      have added : (r.release key value).1 = ⟨(key, value) :: r.released⟩ := by
        simp [release, known]
      rw [added, get?, List.lookup_cons]
      by_cases own : other = key
      · simp [own]
      · rw [beq_eq_false_iff_ne.2 own, if_neg own]
        rfl

theorem Rendezvous.get?_release {r : Rendezvous} {key other : String} {value v : Bool}
    (known : r.get? other = some v) : (r.release key value).1.get? other = some v := by
  rw [get?_release_eq]
  split
  · rename_i own
    rw [← own, known]
    rfl
  · exact known

/-! ## Waiters -/

def Demand.passes : Demand → Bool → Bool
  | .allTrue, value => value
  | .released, _ => true

namespace Waiter

variable {r : Rendezvous} {w : Waiter} {key : String} {keys passed rest : List String}

theorem settle_go_passed (unanswered : w.answer = none)
    (free : ∀ key ∈ passed, ∃ v, r.get? key = some v ∧ w.demand.passes v = true) :
    settle.go r w (passed ++ rest) = settle.go r w rest := by
  induction passed with
  | nil => rfl
  | cons first passed ih =>
      rw [List.forall_mem_cons] at free
      obtain ⟨⟨v, known, passes⟩, free⟩ := free
      rw [List.cons_append, ← ih free, settle.go, unanswered, known]
      cases demand : w.demand with
      | released => simp
      | allTrue =>
          rw [demand] at passes
          cases passes
          simp

theorem settle_go_blocked (unanswered : w.answer = none) (unknown : r.get? key = none) :
    settle.go r w (key :: rest) = { w with keys := key :: rest } := by
  rw [settle.go, unanswered, unknown]
  rfl

theorem settle_go_refused (unanswered : w.answer = none) (demand : w.demand = .allTrue)
    (failed : r.get? key = some false) :
    settle.go r w (key :: rest) = { w with keys := key :: rest, answer := some false } := by
  rw [settle.go, unanswered, failed, demand]
  rfl

theorem answer_settle (r : Rendezvous) (keys : List String) :
    ((Waiter.start .allTrue keys).settle r).answer =
      match keys.find? fun key => r.get? key != some true with
      | none => some true
      | some key => r.get? key := by
  have go : ∀ (w : Waiter) (left : List String), w.demand = .allTrue → w.answer = none →
      (settle.go r w left).answer =
        match left.find? fun key => r.get? key != some true with
        | none => some true
        | some key => r.get? key := by
    intro w left demand unanswered
    induction left with
    | nil => simp [settle.go, unanswered]
    | cons first rest ih =>
        unfold settle.go
        rw [unanswered, demand]
        cases known : r.get? first with
        | none => simp [known]
        | some v => cases v <;> simp [known, ih]
  exact go (.start .allTrue keys) keys rfl rfl

theorem all_true (settled : ((Waiter.start .allTrue keys).settle r).answer = some true) :
    ∀ key ∈ keys, r.get? key = some true := by
  rw [answer_settle] at settled
  split at settled
  · rename_i none
    simpa using none
  · rename_i key found
    have other := List.find?_some found
    simp [settled] at other

end Waiter

end Overseer.Boot
