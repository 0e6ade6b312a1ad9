import Mathlib
import Overseer.Decimal.Binary64

/-!
# The nearest binary64 number

Every number in the rounding interval of a finite binary64 number is rounded to it: the interval
goes half a unit up, and half a unit down except below a power of two, where the next smaller number
is only half as far away. Its ends belong to it when the significand is even.
-/

namespace Overseer.Decimal

/-! ## Scaling -/

def scaled (base num den : Nat) (q : Int) : Nat × Nat :=
  if 0 ≤ q then (num, den * base ^ q.toNat) else (num * base ^ (-q).toNat, den)

section
variable {base num den : Nat} {q : Int}

theorem scaled_pos (some_base : 0 < base) (some_den : 0 < den) : 0 < (scaled base num den q).2 := by
  unfold scaled
  split
  · exact Nat.mul_pos some_den (Nat.pow_pos some_base)
  · exact some_den

theorem scaled_div (base num den : Nat) (q : Int) :
    ((scaled base num den q).1 : ℚ) / (scaled base num den q).2 = num / den / (base : ℚ) ^ q := by
  unfold scaled
  split
  · rename_i up
    obtain ⟨n, rfl⟩ := Int.eq_ofNat_of_zero_le up
    simp [div_div]
  · rename_i down
    obtain ⟨n, rfl⟩ : ∃ n : Nat, q = -n := ⟨(-q).toNat, by omega⟩
    simp [div_mul_eq_mul_div]

theorem fraction_bounds {a b : Nat} (one : 1 < base) (num_low : base ^ a ≤ num)
    (num_high : num < base ^ (a + 1)) (den_low : base ^ b ≤ den) (den_high : den < base ^ (b + 1)) :
    (base : ℚ) ^ ((a : Int) - b - 1) < num / den ∧
      (num : ℚ) / den < (base : ℚ) ^ ((a : Int) - b + 1) := by
  have positive : (0 : ℚ) < base := by exact_mod_cast Nat.zero_lt_of_lt one
  have some_den : (0 : ℚ) < den := by
    exact_mod_cast (Nat.pow_pos (Nat.zero_lt_of_lt one)).trans_le den_low
  have num_low : (base : ℚ) ^ a ≤ num := by exact_mod_cast num_low
  have num_high : (num : ℚ) < base ^ (a + 1) := by exact_mod_cast num_high
  have den_low : (base : ℚ) ^ b ≤ den := by exact_mod_cast den_low
  have den_high : (den : ℚ) < base ^ (b + 1) := by exact_mod_cast den_high
  have low : (base : ℚ) ^ ((a : Int) - b - 1) = base ^ a / base ^ (b + 1) := by
    rw [sub_sub, zpow_sub₀ positive.ne']
    norm_cast
  have high : (base : ℚ) ^ ((a : Int) - b + 1) = base ^ (a + 1) / base ^ b := by
    rw [sub_add_eq_add_sub, zpow_sub₀ positive.ne']
    norm_cast
  rw [low, high, div_lt_div_iff₀ (by positivity) some_den, div_lt_div_iff₀ some_den (by positivity)]
  constructor
  · calc (base : ℚ) ^ a * den ≤ num * den := by gcongr
      _ < num * base ^ (b + 1) := by
        have : (0 : ℚ) < num := (by positivity : (0 : ℚ) < base ^ a).trans_le num_low
        gcongr
  · calc (num : ℚ) * base ^ b ≤ num * den := by gcongr
      _ < base ^ (a + 1) * den := by gcongr

end

/-! ## Rounding to whole numbers -/

theorem roundHalfEven_eq {a b m : Nat} (positive : 0 < b) (lower : (m : ℚ) - 1 / 2 ≤ a / b)
    (upper : (a : ℚ) / b ≤ m + 1 / 2)
    (strict : m % 2 = 1 → (m : ℚ) - 1 / 2 < a / b ∧ (a : ℚ) / b < m + 1 / 2) :
    roundHalfEven a b = m := by
  have over_zero : (0 : ℚ) < b := by exact_mod_cast positive
  have low : 2 * (m * b) ≤ 2 * a + b := by
    rw [le_div_iff₀ over_zero] at lower
    have scaled : 2 * (m * b : ℚ) ≤ 2 * a + b := by linarith
    exact_mod_cast scaled
  have high : 2 * a ≤ 2 * (m * b) + b := by
    rw [div_le_iff₀ over_zero] at upper
    have scaled : 2 * (a : ℚ) ≤ 2 * (m * b) + b := by linarith
    exact_mod_cast scaled
  have odd : m % 2 = 1 → 2 * (m * b) < 2 * a + b ∧ 2 * a < 2 * (m * b) + b := by
    intro odd
    obtain ⟨lower, upper⟩ := strict odd
    rw [lt_div_iff₀ over_zero] at lower
    rw [div_lt_iff₀ over_zero] at upper
    have scaled : 2 * (m * b : ℚ) < 2 * a + b ∧ 2 * (a : ℚ) < 2 * (m * b) + b :=
      ⟨by linarith, by linarith⟩
    exact_mod_cast scaled
  unfold roundHalfEven
  rcases Nat.lt_or_ge a (m * b) with below | above
  · -- the number is under `m`, so its whole part is `m - 1`
    obtain ⟨n, rfl⟩ : ∃ n, m = n + 1 := ⟨m - 1, by cases m <;> omega⟩
    rw [Nat.add_one_mul n b] at below low high odd
    have whole : a / b = n := Nat.div_eq_of_lt_le (by omega) (by rw [Nat.add_one_mul n b]; omega)
    have rest : a % b = a - n * b := by
      rw [Nat.mod_eq_sub_mul_div, whole, Nat.mul_comm]
    simp only [whole, rest]
    split_ifs <;> omega
  · have whole : a / b = m := Nat.div_eq_of_lt_le (by omega) (by rw [Nat.add_one_mul m b]; omega)
    have rest : a % b = a - m * b := by
      rw [Nat.mod_eq_sub_mul_div, whole, Nat.mul_comm]
    simp only [whole, rest]
    split_ifs <;> omega

/-! ## Binary64 numbers -/

namespace Dyadic

variable (d : Dyadic)

def value : ℚ := d.m * 2 ^ d.q

structure IsBinary64 : Prop where
  least : -1074 ≤ d.q
  most : d.q ≤ 971
  small : d.m < 2 ^ 53
  normal : d.q = -1074 ∨ 2 ^ 52 ≤ d.m

/-- Below a power of two the spacing is half as wide, except at the smallest exponent. -/
def narrow : Prop := d.m = 2 ^ 52 ∧ d.q ≠ -1074

instance : Decidable d.narrow := inferInstanceAs (Decidable (_ ∧ _))

def down : ℚ := if d.narrow then 2 ^ d.q / 4 else 2 ^ d.q / 2

def up : ℚ := 2 ^ d.q / 2

structure Near (w : ℚ) : Prop where
  lower : d.value - d.down ≤ w
  upper : w ≤ d.value + d.up
  strict : d.m % 2 = 1 → d.value - d.down < w ∧ w < d.value + d.up

def pattern : Nat :=
  if d.m < 2 ^ 52 then d.m else (d.q + 1075).toNat * 2 ^ 52 + (d.m - 2 ^ 52)

end Dyadic

section
variable {bits : UInt64}

theorem ofBits_isBinary64 (number : isNaN bits = false) (finite : isInfinite bits = false) :
    (Dyadic.ofBits bits).IsBinary64 := by
  have some_finite : biasedExponent bits ≠ 2047 := fun most => by
    simp_all [isNaN, isInfinite]
  have range : biasedExponent bits < 2048 := Nat.mod_lt _ (by decide)
  have part : fraction bits < 2 ^ 52 := Nat.mod_lt _ (by decide)
  unfold Dyadic.ofBits
  split
  · exact ⟨by simp, by simp, by simp; omega, .inl rfl⟩
  · refine ⟨?_, ?_, ?_, .inr ?_⟩ <;> simp <;> omega

theorem pattern_ofBits (positive : isNegative bits = false) :
    (Dyadic.ofBits bits).pattern = bits.toNat := by
  have range : bits.toNat < 2 ^ 63 := by simpa [isNegative] using positive
  have part : fraction bits = bits.toNat % 2 ^ 52 := rfl
  have exponent : biasedExponent bits = bits.toNat / 2 ^ 52 := Nat.mod_eq_of_lt (by
    show bits.toNat / 2 ^ 52 < 2048
    omega)
  unfold Dyadic.ofBits
  rw [exponent, part]
  split
  · have small : bits.toNat % 2 ^ 52 < 2 ^ 52 := Nat.mod_lt _ (by decide)
    rw [Dyadic.pattern, if_pos small]
    show bits.toNat % 2 ^ 52 = bits.toNat
    omega
  · have large : ¬Nat.pow 2 52 + bits.toNat % 2 ^ 52 < 2 ^ 52 :=
      Nat.not_lt.2 (Nat.le_add_right (2 ^ 52) _)
    rw [Dyadic.pattern, if_neg large]
    have bias : ((bits.toNat / 2 ^ 52 : Nat) - 1075 + 1075 : Int).toNat = bits.toNat / 2 ^ 52 := by
      omega
    rw [bias, Nat.pow_eq, Nat.add_sub_cancel_left]
    omega

end

/-! ## Rounding to binary64 -/

def exponentOf (num den : Nat) : Int :=
  let guess : Int := (Nat.log2 num : Int) - (Nat.log2 den : Int) - 52
  max (-1074)
    (if (scaled 2 num den guess).1 / (scaled 2 num den guess).2 < 2 ^ 52 then guess - 1 else guess)

section
variable {num den : Nat} (some_num : 0 < num) (some_den : 0 < den)
include some_num some_den

theorem nearestBits_eq_pattern {m : Nat} {q : Int} (exponent : exponentOf num den = q)
    (rounds : roundHalfEven (scaled 2 num den q).1 (scaled 2 num den q).2 = m)
    (finite : Dyadic.pattern ⟨m, q⟩ < 2047 * 2 ^ 52) :
    (nearestBits num den).toNat = Dyadic.pattern ⟨m, q⟩ := by
  have shape : nearestBits num den = if m < 2 ^ 52 then m.toUInt64
      else if 2047 * 2 ^ 52 ≤ (q + 1075).toNat * 2 ^ 52 + (m - 2 ^ 52) then
        (2047 * 2 ^ 52 : Nat).toUInt64
      else ((q + 1075).toNat * 2 ^ 52 + (m - 2 ^ 52)).toUInt64 := by
    subst exponent rounds
    unfold nearestBits
    rw [if_neg (by omega)]
    rfl
  rw [shape]
  unfold Dyadic.pattern at finite ⊢
  dsimp only at finite ⊢
  split
  · rename_i small
    rw [Nat.toUInt64_eq, UInt64.toNat_ofNat_of_lt' (by simp [UInt64.size]; omega)]
  · rename_i large
    rw [if_neg large] at finite
    rw [if_neg (by omega), Nat.toUInt64_eq,
      UInt64.toNat_ofNat_of_lt' (by simp [UInt64.size]; omega)]

theorem exponentOf_eq :
    exponentOf num den = max (-1074) (Int.log 2 ((num : ℚ) / den) - 52) := by
  obtain ⟨low, high⟩ := fraction_bounds (by decide) (Nat.log2_self_le some_num.ne')
    Nat.lt_log2_self (Nat.log2_self_le some_den.ne') Nat.lt_log2_self
  have positive : (0 : ℚ) < num / den := by positivity
  generalize guess : (Nat.log2 num : Int) - (Nat.log2 den : Int) - 52 = g
  rw [show (Nat.log2 num : Int) - Nat.log2 den - 1 = g + 51 by omega] at low
  rw [show (Nat.log2 num : Int) - Nat.log2 den + 1 = g + 53 by omega] at high
  have low := (Int.zpow_le_iff_le_log (by decide) positive).1 low.le
  have high := (Int.lt_zpow_iff_log_lt (by decide) positive).1 high
  have test : (scaled 2 num den g).1 / (scaled 2 num den g).2 < 2 ^ 52 ↔
      Int.log 2 ((num : ℚ) / den) < g + 52 := by
    have over_zero : 0 < (scaled 2 num den g).2 := scaled_pos (by decide) some_den
    have ratio := scaled_div 2 num den g
    have unit : (0 : ℚ) < (2 : ℕ) ^ g := by positivity
    rw [← Int.lt_zpow_iff_log_lt (by decide) positive, Nat.div_lt_iff_lt_mul over_zero,
      add_comm, zpow_add₀ (by norm_num), ← div_lt_iff₀ unit, ← ratio,
      div_lt_iff₀ (by exact_mod_cast over_zero)]
    norm_cast
  show max (-1074) (if _ < _ then _ else _) = _
  simp only [guess, test]
  split <;> omega

end

namespace Dyadic

variable {d : Dyadic} {w : ℚ}

theorem down_le : d.down ≤ 2 ^ d.q / 2 := by
  have unit : (0 : ℚ) < 2 ^ d.q := by positivity
  unfold down
  split <;> linarith

theorem Near.units (near : d.Near w) :
    (d.m : ℚ) - 1 / 2 ≤ w / 2 ^ d.q ∧ w / 2 ^ d.q ≤ d.m + 1 / 2 ∧
      (d.m % 2 = 1 → (d.m : ℚ) - 1 / 2 < w / 2 ^ d.q ∧ w / 2 ^ d.q < d.m + 1 / 2) := by
  have unit : (0 : ℚ) < 2 ^ d.q := by positivity
  have below := d.down_le
  obtain ⟨lower, upper, strict⟩ := near
  rw [value] at lower upper strict
  rw [up] at upper strict
  rw [le_div_iff₀ unit, div_le_iff₀ unit, lt_div_iff₀ unit, div_lt_iff₀ unit]
  refine ⟨by linarith, by linarith, fun odd => ?_⟩
  obtain ⟨lower, upper⟩ := strict odd
  exact ⟨by linarith, by linarith⟩

theorem Near.exponent (near : d.Near w) (legal : d.IsBinary64) (positive : 0 < w) :
    max (-1074) (Int.log 2 w - 52) = d.q ∨
      d.narrow ∧ w < 2 ^ 52 * 2 ^ d.q ∧ max (-1074) (Int.log 2 w - 52) = d.q - 1 := by
  have unit : (0 : ℚ) < 2 ^ d.q := by positivity
  obtain ⟨lower, upper, -⟩ := near.units
  rw [le_div_iff₀ unit] at lower
  rw [div_le_iff₀ unit] at upper
  have power (n : Int) : ((2 : ℕ) : ℚ) ^ (n + d.q) = 2 ^ n * 2 ^ d.q := by
    rw [zpow_add₀ (by norm_num)]
    norm_cast
  have most : Int.log 2 w < 53 + d.q := by
    refine (Int.lt_zpow_iff_log_lt (by decide) positive).1 ?_
    have small : (d.m : ℚ) + 1 ≤ 2 ^ 53 := by exact_mod_cast legal.small
    rw [power]
    calc w ≤ (d.m + 1 / 2) * 2 ^ d.q := upper
      _ < (2 : ℚ) ^ (53 : Int) * 2 ^ d.q := by
        gcongr
        norm_num at small ⊢
        linarith
  by_cases under : w < 2 ^ 52 * 2 ^ d.q
  · by_cases least : d.q = -1074
    · left
      omega
    · right
      have normal := legal.normal.resolve_left least
      have tight : (d.m : ℚ) < 2 ^ 52 + 1 := by
        have := lower.trans_lt under
        rw [mul_lt_mul_iff_left₀ unit] at this
        linarith
      have same : d.m = 2 ^ 52 := by
        have tight : d.m < 2 ^ 52 + 1 := by exact_mod_cast tight
        omega
      have least := legal.least
      have less : Int.log 2 w < 52 + d.q := by
        refine (Int.lt_zpow_iff_log_lt (by decide) positive).1 ?_
        rw [power]
        exact_mod_cast under
      have more : 51 + d.q ≤ Int.log 2 w := by
        refine (Int.zpow_le_iff_le_log (by decide) positive).1 ?_
        rw [power]
        refine le_trans ?_ lower
        rw [same]
        gcongr
        norm_num
      exact ⟨⟨same, ‹_›⟩, under, by omega⟩
  · left
    have more : 52 + d.q ≤ Int.log 2 w := by
      refine (Int.zpow_le_iff_le_log (by decide) positive).1 ?_
      rw [power]
      exact_mod_cast not_lt.1 under
    have least := legal.least
    omega

theorem IsBinary64.pattern_lt (legal : d.IsBinary64) : d.pattern < 2047 * 2 ^ 52 := by
  obtain ⟨least, most, small, -⟩ := legal
  unfold pattern
  split <;> omega

theorem pattern_carry (least : -1074 < d.q) (same : d.m = 2 ^ 52) :
    pattern ⟨2 ^ 53, d.q - 1⟩ = d.pattern := by
  unfold pattern
  rw [same]
  norm_num
  omega

end Dyadic

theorem nearestBits_of_near {num den : Nat} {d : Dyadic} (some_num : 0 < num) (some_den : 0 < den)
    (legal : d.IsBinary64) (near : d.Near ((num : ℚ) / den)) :
    (nearestBits num den).toNat = d.pattern := by
  have positive : (0 : ℚ) < num / den := by positivity
  have exponent := exponentOf_eq some_num some_den
  have over_zero (q : Int) : 0 < (scaled 2 num den q).2 := scaled_pos (by decide) some_den
  have ratio := scaled_div 2 num den
  have unit : (0 : ℚ) < 2 ^ d.q := by positivity
  rcases near.exponent legal positive with same | ⟨⟨power, least⟩, under, previous⟩
  · refine nearestBits_eq_pattern some_num some_den (exponent.trans same) ?_ legal.pattern_lt
    obtain ⟨lower, upper, strict⟩ := near.units
    have ratio := ratio d.q
    push_cast at ratio
    rw [← ratio] at lower upper strict
    exact roundHalfEven_eq (over_zero _) lower upper strict
  · have least : -1074 < d.q := lt_of_le_of_ne legal.least (Ne.symm least)
    have carry := Dyadic.pattern_carry least power
    rw [← carry]
    refine nearestBits_eq_pattern some_num some_den (exponent.trans previous) ?_ (by
      rw [carry]
      exact legal.pattern_lt)
    have lower := near.lower
    rw [Dyadic.value, Dyadic.down, if_pos ⟨power, least.ne'⟩, power] at lower
    have half : (2 : ℚ) ^ (d.q - 1) = 2 ^ d.q / 2 := by rw [zpow_sub_one₀ (by norm_num)]; rfl
    have ratio := ratio (d.q - 1)
    push_cast at ratio lower
    rw [half] at ratio
    refine roundHalfEven_eq (over_zero _) ?_ ?_ (fun odd => absurd odd (by decide)) <;>
      rw [ratio]
    · rw [le_div_iff₀ (by positivity)]
      push_cast
      linarith
    · rw [div_le_iff₀ (by positivity)]
      push_cast
      linarith

/-! ## Decimals -/

theorem two_pow_le : (2 : ℚ) ^ 1024 ≤ 10 ^ (309 : Int) := by
  have whole : 2 ^ 1024 ≤ 10 ^ 309 := by decide +kernel
  exact_mod_cast whole

theorem two_pow_gt : (10 : ℚ) ^ (-324 : Int) < 2 ^ (-1075 : Int) := by
  have whole : 2 ^ 1075 < 10 ^ 324 := by decide +kernel
  have whole : (2 : ℚ) ^ 1075 < 10 ^ 324 := by exact_mod_cast whole
  exact inv_strictAnti₀ (by positivity) whole

theorem size_bounds {m : Nat} {e : Int} (some_m : 0 < m) (short : Nat.log2 m ≤ 3000)
    (low : (2 : ℚ) ^ (-1075 : Int) ≤ m * 10 ^ e) (high : (m : ℚ) * 10 ^ e < 2 ^ 1024) :
    ¬330 < (Nat.log2 m : Int) * 30103 / 100000 + e ∧
      ¬(Nat.log2 m : Int) * 30103 / 100000 + e < -360 := by
  have least : 2 ^ Nat.log2 m ≤ m := Nat.log2_self_le some_m.ne'
  have most : m < 2 ^ (Nat.log2 m + 1) := Nat.lt_log2_self
  generalize Nat.log2 m = a at *
  have unit : (0 : ℚ) < 10 ^ e := by positivity
  constructor
  · intro large
    -- ten binary digits make more than three decimal ones
    have digits : (10 ^ 3) ^ (a / 10) ≤ m :=
      calc (10 ^ 3) ^ (a / 10) ≤ (2 ^ 10) ^ (a / 10) := Nat.pow_le_pow_left (by decide) _
        _ = 2 ^ (10 * (a / 10)) := (Nat.pow_mul ..).symm
        _ ≤ 2 ^ a := Nat.pow_le_pow_right (by decide) (Nat.mul_div_le a 10)
        _ ≤ m := least
    have digits : (10 : ℚ) ^ (3 * (a / 10) : Nat) ≤ m := by
      rw [pow_mul]
      exact_mod_cast digits
    have power : (10 : ℚ) ^ (309 : Int) ≤ m * 10 ^ e :=
      calc (10 : ℚ) ^ (309 : Int) ≤ 10 ^ (((3 * (a / 10) : Nat) : Int) + e) :=
            zpow_le_zpow_right₀ (by norm_num) (by omega)
        _ = 10 ^ (3 * (a / 10) : Nat) * 10 ^ e := by rw [zpow_add₀ (by norm_num), zpow_natCast]
        _ ≤ m * 10 ^ e := by gcongr
    exact absurd (two_pow_le.trans power) (not_le.2 high)
  · intro small
    -- thirteen binary digits make less than four decimal ones
    have digits : m < (10 ^ 4) ^ (a / 13 + 1) :=
      calc m < 2 ^ (a + 1) := most
        _ ≤ 2 ^ (13 * (a / 13 + 1)) := Nat.pow_le_pow_right (by decide) (by omega)
        _ = (2 ^ 13) ^ (a / 13 + 1) := Nat.pow_mul ..
        _ ≤ (10 ^ 4) ^ (a / 13 + 1) := Nat.pow_le_pow_left (by decide) _
    have digits : (m : ℚ) < 10 ^ (4 * (a / 13 + 1) : Nat) := by
      rw [pow_mul]
      exact_mod_cast digits
    have power : (m : ℚ) * 10 ^ e < 10 ^ (-324 : Int) :=
      calc (m : ℚ) * 10 ^ e < 10 ^ (4 * (a / 13 + 1) : Nat) * 10 ^ e := by gcongr
        _ = 10 ^ (((4 * (a / 13 + 1) : Nat) : Int) + e) := by
            rw [zpow_add₀ (by norm_num), zpow_natCast]
        _ ≤ 10 ^ (-324 : Int) := zpow_le_zpow_right₀ (by norm_num) (by omega)
    exact absurd (power.trans two_pow_gt) (not_lt.2 low)

theorem Dyadic.Near.bounds {d : Dyadic} {w : ℚ} (near : d.Near w) (legal : d.IsBinary64)
    (positive : 0 < d.m) : (2 : ℚ) ^ (-1075 : Int) ≤ w ∧ w < 2 ^ 1024 := by
  have unit : (0 : ℚ) < 2 ^ d.q := by positivity
  obtain ⟨lower, upper, -⟩ := near.units
  rw [le_div_iff₀ unit] at lower
  rw [div_le_iff₀ unit] at upper
  have one : (1 : ℚ) ≤ d.m := by exact_mod_cast positive
  have small : (d.m : ℚ) + 1 ≤ 2 ^ 53 := by exact_mod_cast legal.small
  have least : (2 : ℚ) ^ (-1074 : Int) ≤ 2 ^ d.q := zpow_le_zpow_right₀ (by norm_num) legal.least
  have most : (2 : ℚ) ^ d.q ≤ 2 ^ (971 : Int) := zpow_le_zpow_right₀ (by norm_num) legal.most
  constructor
  · calc (2 : ℚ) ^ (-1075 : Int) = 1 / 2 * 2 ^ (-1074 : Int) := by
          rw [show (-1075 : Int) = -1 + -1074 from rfl, zpow_add₀ (by norm_num)]
          norm_num only
      _ ≤ 1 / 2 * 2 ^ d.q := by gcongr
      _ ≤ (d.m - 1 / 2) * 2 ^ d.q := by
        gcongr
        linarith
      _ ≤ w := lower
  · calc w ≤ (d.m + 1 / 2) * 2 ^ d.q := upper
      _ < 2 ^ 53 * 2 ^ d.q := by
        gcongr
        linarith
      _ ≤ 2 ^ 53 * 2 ^ (971 : Int) := by gcongr
      _ = 2 ^ 1024 := by
        rw [show (971 : Int) = (971 : ℕ) from rfl, zpow_natCast, ← pow_add]

theorem nearestDecimalBits_of_near {m : Nat} {e : Int} {d : Dyadic} (legal : d.IsBinary64)
    (positive : 0 < d.m) (short : Nat.log2 m ≤ 3000) (near : d.Near (m * 10 ^ e)) :
    (nearestDecimalBits m e).toNat = d.pattern := by
  obtain ⟨low, high⟩ := near.bounds legal positive
  have some_m : 0 < m := by
    refine Nat.pos_of_ne_zero fun zero => ?_
    have unit : (0 : ℚ) < 2 ^ (-1075 : Int) := by positivity
    rw [zero, Nat.cast_zero, zero_mul] at low
    exact absurd low (not_le.2 unit)
  obtain ⟨below, above⟩ := size_bounds some_m short low high
  rw [nearestDecimalBits, if_neg some_m.ne', if_neg below, if_neg above]
  split
  · rename_i up
    obtain ⟨n, rfl⟩ := Int.eq_ofNat_of_zero_le up
    refine nearestBits_of_near (Nat.mul_pos some_m (Nat.pow_pos (by decide))) (by decide) legal ?_
    convert near using 1
    simp
  · rename_i down
    obtain ⟨n, rfl⟩ : ∃ n : Nat, e = -n := ⟨(-e).toNat, by omega⟩
    refine nearestBits_of_near some_m (Nat.pow_pos (by decide)) legal ?_
    convert near using 1
    simp [div_eq_mul_inv]

end Overseer.Decimal
