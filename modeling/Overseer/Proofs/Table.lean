import Mathlib

/-!
# Tables

A list of entries as a table: a key stands for the value of its first entry.
-/

namespace Overseer.Table

variable {β γ : Type} {key : String}

theorem lookup_cons (key first : String) (b : β) (rest : List (String × β)) :
    ((first, b) :: rest).lookup key = if key = first then some b else rest.lookup key := by
  by_cases same : key = first
  · simp [same]
  · rw [List.lookup_cons, beq_eq_false_iff_ne.2 same, if_neg same]

theorem lookup_map (f : β → γ) (entries : List (String × β)) :
    (entries.map fun (k, b) => (k, f b)).lookup key = (entries.lookup key).map f := by
  induction entries with
  | nil => rfl
  | cons head rest ih =>
      obtain ⟨first, b⟩ := head
      rw [List.map_cons, lookup_cons, lookup_cons, ih]
      split <;> rfl

theorem lookup_filter (gone key : String) (entries : List (String × β)) :
    (entries.filter fun e => e.1 != gone).lookup key =
      if key = gone then none else entries.lookup key := by
  induction entries with
  | nil => simp
  | cons head rest ih =>
      obtain ⟨first, b⟩ := head
      rw [List.filter_cons, lookup_cons]
      by_cases here : first = gone
      · subst here
        rw [if_neg (by simp), ih]
        split <;> rfl
      · rw [if_pos (by simpa using here), lookup_cons, ih]
        by_cases same : key = gone
        · subst same
          simp [Ne.symm here]
        · simp [same]

end Overseer.Table
