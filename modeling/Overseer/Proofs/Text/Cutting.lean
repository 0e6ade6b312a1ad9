import Mathlib
import Overseer.Text.Blank

/-!
# Cutting a text

What trimming leaves, and what a text is cut into at a character: at its first occurrence, or at
all of them.
-/

namespace Overseer.Text

variable {c : Char} {s t : List Char}

theorem trimChars_eq_self (first : ∀ c, s.head? = some c → isBlank c = false)
    (last : ∀ c, s.getLast? = some c → isBlank c = false) : trimChars s = s := by
  have dropped {s : List Char} (first : ∀ c, s.head? = some c → isBlank c = false) :
      s.dropWhile isBlank = s := by
    cases s with
    | nil => rfl
    | cons c rest => rw [List.dropWhile_cons_of_neg (by simp [first c rfl])]
  have last : ∀ c, s.reverse.head? = some c → isBlank c = false := by
    rwa [List.head?_reverse]
  rw [trimChars, dropEndWhile, dropped first, dropped last, List.reverse_reverse]

theorem cutAt_append (absent : c ∉ s) (t : List Char) : cutAt c (s ++ c :: t) = some (s, t) := by
  induction s with
  | nil => simp [cutAt]
  | cons d rest ih =>
      obtain ⟨other, behind⟩ : c ≠ d ∧ c ∉ rest := by simpa using absent
      rw [List.cons_append, cutAt, if_neg (Ne.symm other), ih behind]
      rfl

theorem append_cons_inj {a b x y : List Char} (absent : c ∉ a) (absent' : c ∉ b)
    (same : a ++ c :: x = b ++ c :: y) : a = b ∧ x = y := by
  have cuts := congrArg (cutAt c) same
  rw [cutAt_append absent, cutAt_append absent'] at cuts
  simpa using cuts

theorem pieces_ne_nil (c : Char) (s : List Char) : pieces c s ≠ [] := by
  cases s with
  | nil => exact List.cons_ne_nil _ _
  | cons d rest =>
      unfold pieces
      split
      · exact List.cons_ne_nil _ _
      · split <;> exact List.cons_ne_nil _ _

theorem pieces_of_absent (absent : c ∉ s) : pieces c s = [s] := by
  induction s with
  | nil => rfl
  | cons d rest ih =>
      obtain ⟨other, behind⟩ : c ≠ d ∧ c ∉ rest := by simpa using absent
      simp [pieces, ih behind, Ne.symm other]

theorem pieces_append (absent : c ∉ s) (t : List Char) :
    pieces c (s ++ c :: t) = s :: pieces c t := by
  induction s with
  | nil =>
      obtain ⟨head, tail, split⟩ := List.exists_cons_of_ne_nil (pieces_ne_nil c t)
      simp [pieces, split]
  | cons d rest ih =>
      obtain ⟨other, behind⟩ : c ≠ d ∧ c ∉ rest := by simpa using absent
      simp [pieces, ih behind, Ne.symm other]

theorem pieces_eq_cons_iff {head : List Char} {tail : List (List Char)} :
    pieces c s = head :: tail ↔
      c ∉ head ∧ (tail = [] ∧ s = head ∨ ∃ t, s = head ++ c :: t ∧ pieces c t = tail) := by
  constructor
  · intro split
    by_cases member : c ∈ s
    · obtain ⟨before, t, rfl, absent⟩ := List.eq_append_cons_of_mem member
      rw [pieces_append absent] at split
      obtain ⟨rfl, rfl⟩ := List.cons.inj split
      exact ⟨absent, .inr ⟨t, rfl, rfl⟩⟩
    · rw [pieces_of_absent member] at split
      obtain ⟨rfl, rfl⟩ := List.cons.inj split
      exact ⟨member, .inl ⟨rfl, rfl⟩⟩
  · rintro ⟨absent, ⟨rfl, rfl⟩ | ⟨t, rfl, rfl⟩⟩
    · exact pieces_of_absent absent
    · exact pieces_append absent t

end Overseer.Text
