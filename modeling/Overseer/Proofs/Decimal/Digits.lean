import Mathlib.Tactic.Common
import Overseer.Decimal.Shortest
import Overseer.Text.Blank

/-!
# The digits of a whole number

The digits of a number are decimal digits without a leading zero, and reading them gives the number
back.
-/

namespace Overseer.Decimal

open Text (isAsciiDigit digitsValue)

theorem isAsciiDigit_of_mem {n : Nat} {c : Char} (member : c ∈ natDigits n) :
    isAsciiDigit c = true := by
  have digit := Nat.isDigit_of_mem_toDigits (by decide) (by decide) member
  simpa [Char.isDigit, isAsciiDigit, Char.le_def] using digit

theorem natDigits_ne_nil (n : Nat) : natDigits n ≠ [] := Nat.toDigits_ne_nil

theorem digitsValue_natDigits (n : Nat) : digitsValue (natDigits n) = n := by
  rw [natDigits, digitsValue, ← Nat.ofDigitChars_eq_foldl, Nat.ofDigitChars_ten_toDigits]

theorem toList_toString (n : Nat) : (toString n).toList = natDigits n := by
  rw [Nat.toString_eq_repr, Nat.repr_eq_ofList_toDigits, String.toList_ofList, natDigits]

theorem natDigits_of_ge {n : Nat} (large : 10 ≤ n) :
    natDigits n = natDigits (n / 10) ++ [Nat.digitChar (n % 10)] :=
  Nat.toDigits_of_base_le (by decide) large

theorem eq_zero_of_head {n : Nat} {rest : List Char} (shape : natDigits n = '0' :: rest) :
    n = 0 ∧ rest = [] := by
  induction n using Nat.strongRecOn generalizing rest with
  | _ n ih =>
      by_cases small : n < 10
      · rw [natDigits, Nat.toDigits_of_lt_base small] at shape
        obtain ⟨first, rfl⟩ := List.cons.inj shape
        have code := congrArg Char.toNat first
        rw [Nat.toNat_digitChar_of_lt_ten small] at code
        exact ⟨Nat.add_left_cancel code, rfl⟩
      · rw [natDigits_of_ge (by omega)] at shape
        obtain ⟨first, more, split⟩ := List.exists_cons_of_ne_nil (natDigits_ne_nil (n / 10))
        rw [split] at shape
        obtain ⟨rfl, -⟩ := List.cons.inj shape
        have zero := (ih (n / 10) (by omega) split).1
        omega

end Overseer.Decimal
