import Overseer.Proofs.Decimal.Digits
import Overseer.Proofs.Decimal.Rounding

/-!
# The shortest digits lie in the rounding interval

The search for the shortest digits goes through grids that get finer and finer and takes a point of
the grid in the rounding interval. With seventeen digits the grid is finer than the interval is
wide, so there always is one.
-/

namespace Overseer.Decimal

open Text (digitsValue)

/-! ## Magnitudes -/

theorem natDigits_bounds {n : Nat} (positive : 0 < n) :
    10 ^ ((natDigits n).length - 1) ≤ n ∧ n < 10 ^ (natDigits n).length := by
  have filled : 0 < (natDigits n).length := List.length_pos_of_ne_nil (natDigits_ne_nil n)
  refine ⟨?_, (Nat.length_toDigits_le_iff (by decide) filled).1 (Nat.le_refl _)⟩
  by_cases one : (natDigits n).length = 1
  · rw [one]
    exact positive
  · refine Nat.not_lt.1 fun less => ?_
    have shorter := (Nat.length_toDigits_le_iff (by decide) (by omega)).2 less
    rw [natDigits] at *
    omega

theorem log_eq {r : ℚ} {t : Int} (low : (10 : ℚ) ^ t ≤ r) (high : r < 10 ^ (t + 1)) :
    Int.log 10 r = t := by
  have positive : 0 < r := (zpow_pos (by norm_num) t).trans_le low
  have least := (Int.zpow_le_iff_le_log (by decide : 1 < 10) positive).1 (by exact_mod_cast low)
  have most := (Int.lt_zpow_iff_log_lt (by decide : 1 < 10) positive).1 (by exact_mod_cast high)
  omega

theorem quotient_bounds {a b l : Nat} (positive : 0 < b) (whole : b ≤ a)
    (length : (natDigits (a / b)).length = l + 1) :
    (10 : ℚ) ^ l ≤ a / b ∧ (a : ℚ) / b < 10 ^ (l + 1) := by
  have over_zero : (0 : ℚ) < b := by exact_mod_cast positive
  obtain ⟨low, high⟩ := natDigits_bounds (Nat.div_pos whole positive)
  rw [length, Nat.add_sub_cancel, Nat.le_div_iff_mul_le positive] at low
  rw [length, Nat.div_lt_iff_lt_mul positive] at high
  rw [le_div_iff₀ over_zero, div_lt_iff₀ over_zero]
  exact ⟨by exact_mod_cast low, by exact_mod_cast high⟩

theorem length_natDigits (n : Nat) : ∃ l, (natDigits n).length = l + 1 :=
  Nat.exists_eq_succ_of_ne_zero (List.length_pos_of_ne_nil (natDigits_ne_nil n)).ne'

theorem magnitude_eq {num den : Nat} (some_num : 0 < num) (some_den : 0 < den) :
    magnitude num den = Int.log 10 ((num : ℚ) / den) := by
  have over_num : (0 : ℚ) < num := by exact_mod_cast some_num
  have over_den : (0 : ℚ) < den := by exact_mod_cast some_den
  unfold magnitude
  split
  · rename_i whole
    obtain ⟨l, length⟩ := length_natDigits (num / den)
    obtain ⟨low, high⟩ := quotient_bounds some_den whole length
    rw [length]
    refine (log_eq ?_ ?_).symm
    · simpa using low
    · simpa [zpow_add_one₀, pow_succ] using high
  · rename_i part
    obtain ⟨l, length⟩ := length_natDigits (den / num)
    obtain ⟨low, high⟩ := quotient_bounds some_num (Nat.le_of_not_le part) length
    have unit : (0 : ℚ) < 10 ^ l := by positivity
    have turned : (num : ℚ) / den = (den / num : ℚ)⁻¹ := (inv_div _ _).symm
    simp only [length, Nat.add_sub_cancel, Nat.pow_eq]
    rw [turned]
    split
    · rename_i exact
      have exact : (den : ℚ) / num = 10 ^ l := by
        refine le_antisymm ?_ low
        rw [div_le_iff₀ over_num, mul_comm]
        exact_mod_cast exact
      refine (log_eq ?_ ?_).symm
      · rw [exact, zpow_neg, zpow_natCast]
      · rw [exact, zpow_add₀ (by norm_num), zpow_neg, zpow_natCast]
        linarith [inv_pos.2 unit]
    · rename_i under
      have under : (10 : ℚ) ^ l < den / num := by
        rw [lt_div_iff₀ over_num, mul_comm]
        exact_mod_cast not_le.1 under
      refine (log_eq ?_ ?_).symm
      · rw [zpow_neg, zpow_natCast]
        exact inv_anti₀ (by positivity) high.le
      · rw [Nat.cast_add_one, neg_add_rev, add_comm, ← add_assoc, add_neg_cancel, zero_add,
          zpow_neg, zpow_natCast]
        exact inv_strictAnti₀ unit under

/-! ## The search -/

structure Framed (d : Dyadic) (num den hi lo : Nat) : Prop where
  some_num : 0 < num
  some_den : 0 < den
  value : (num : ℚ) / den = d.value
  upper : (hi : ℚ) / (2 * den) = d.value + d.up
  lower : (lo : ℚ) / (2 * den) = d.value - d.down

def trimmed (k : Nat) (e : Int) : Digits :=
  ⟨((natDigits k).reverse.dropWhile (· == '0')).reverse, e + (natDigits k).length⟩

theorem Framed.of_units {d : Dyadic} {n den unit : Nat} (positive : 0 < d.m) (some_den : 0 < den)
    (number : n = d.m * unit) (exponent : (unit : ℚ) / den = 2 ^ d.q) :
    let scale := if d.narrow then 2 else 1
    Framed d (n * scale) (den * scale) (2 * (n * scale) + unit * scale)
      (if d.narrow then 2 * (n * scale) - unit else 2 * (n * scale) - unit * scale) := by
  have some_unit : 0 < unit := by
    refine Nat.pos_of_ne_zero fun zero => ?_
    have power : (0 : ℚ) < 2 ^ d.q := by positivity
    simp [zero] at exponent
    exact power.ne exponent
  have over_den : (den : ℚ) ≠ 0 := by exact_mod_cast some_den.ne'
  have value : d.value = d.m * unit / den := by
    rw [Dyadic.value, ← exponent, mul_div_assoc]
  have once : unit ≤ d.m * unit := Nat.le_mul_of_pos_left _ positive
  intro scale
  by_cases narrow : d.narrow
  · have twice : scale = 2 := if_pos narrow
    have under : unit ≤ 2 * (d.m * unit * 2) := by omega
    rw [if_pos narrow, twice, number]
    refine ⟨by positivity, by positivity, ?_, ?_, ?_⟩
    · rw [value]
      push_cast
      field_simp
    · rw [value, Dyadic.up, ← exponent]
      push_cast
      field_simp
    · rw [value, Dyadic.down, if_pos narrow, ← exponent, Nat.cast_sub under]
      push_cast
      field_simp
      ring
  · have twice : scale = 1 := if_neg narrow
    have under : unit * 1 ≤ 2 * (d.m * unit * 1) := by omega
    rw [if_neg narrow, twice, number]
    refine ⟨by positivity, by positivity, ?_, ?_, ?_⟩
    · rw [value]
      push_cast
      field_simp
    · rw [value, Dyadic.up, ← exponent]
      push_cast
      field_simp
    · rw [value, Dyadic.down, if_neg narrow, ← exponent, Nat.cast_sub under]
      push_cast
      field_simp

theorem shortestDigits_eq {d : Dyadic} (positive : 0 < d.m) :
    ∃ num den hi lo, Framed d num den hi lo ∧
      shortestDigits d = shortestDigits.search d num den hi lo (magnitude num den) 17 1 := by
  rw [shortestDigits, if_neg positive.ne']
  by_cases up : 0 ≤ d.q
  · have exponent : ((2 ^ d.q.toNat : Nat) : ℚ) / (1 : Nat) = 2 ^ d.q := by
      obtain ⟨n, same⟩ := Int.eq_ofNat_of_zero_le up
      simp [same]
    simp only [if_pos up]
    exact ⟨_, _, _, _, .of_units positive Nat.one_pos rfl exponent, rfl⟩
  · have exponent : ((1 : Nat) : ℚ) / (2 ^ (-d.q).toNat : Nat) = 2 ^ d.q := by
      obtain ⟨n, same⟩ : ∃ n : Nat, d.q = -n := ⟨(-d.q).toNat, by omega⟩
      simp [same]
    simp only [if_neg up]
    exact ⟨_, _, _, _,
      .of_units positive (Nat.pow_pos (by decide)) (Nat.mul_one _).symm exponent, rfl⟩

theorem scaled_point {den g : Nat} {e : Int} (some_den : 0 < den) :
    let p : Nat × Nat :=
      if 0 ≤ e then (g * 10 ^ e.toNat * (2 * den), 1) else (g * (2 * den), 10 ^ (-e).toNat)
    0 < p.2 ∧ (p.1 : ℚ) / p.2 / (2 * den) = g * 10 ^ e := by
  have over_den : (den : ℚ) ≠ 0 := by exact_mod_cast some_den.ne'
  intro p
  by_cases up : 0 ≤ e
  · obtain ⟨n, rfl⟩ := Int.eq_ofNat_of_zero_le up
    have shape : p = (g * 10 ^ n * (2 * den), 1) := if_pos up
    rw [shape]
    refine ⟨Nat.one_pos, ?_⟩
    push_cast
    field_simp
    rw [zpow_natCast]
  · obtain ⟨n, rfl⟩ : ∃ n : Nat, e = -n := ⟨(-e).toNat, by omega⟩
    have shape : p = (g * (2 * den), 10 ^ n) := by
      show (if _ then _ else _) = _
      rw [if_neg up, neg_neg, Int.toNat_natCast]
    rw [shape]
    refine ⟨Nat.pow_pos (by decide), ?_⟩
    rw [zpow_neg, zpow_natCast]
    push_cast
    field_simp

theorem Framed.inside_iff {d : Dyadic} {num den hi lo : Nat} (framed : Framed d num den hi lo)
    (g : Nat) (e : Int) :
    inside lo hi den (decide (d.m % 2 = 0)) g e = true ↔ d.Near (g * 10 ^ e) := by
  have over_den : (0 : ℚ) < 2 * den := by
    have := framed.some_den
    positivity
  have point := scaled_point (g := g) (e := e) framed.some_den
  unfold inside
  simp only [Nat.pow_eq]
  generalize (if 0 ≤ e then (g * 10 ^ e.toNat * (2 * den), 1)
    else (g * (2 * den), 10 ^ (-e).toNat) : Nat × Nat) = p at point ⊢
  obtain ⟨x, s⟩ := p
  obtain ⟨some_s, point⟩ := point
  have over_s : (0 : ℚ) < s := by exact_mod_cast some_s
  -- the four comparisons with the ends, in whole numbers and in fractions
  have lower : lo * s ≤ x ↔ d.value - d.down ≤ g * 10 ^ e := by
    rw [← framed.lower, ← point, div_le_div_iff_of_pos_right over_den, le_div_iff₀ over_s]
    norm_cast
  have upper : x ≤ hi * s ↔ (g : ℚ) * 10 ^ e ≤ d.value + d.up := by
    rw [← framed.upper, ← point, div_le_div_iff_of_pos_right over_den, div_le_iff₀ over_s]
    norm_cast
  have above : lo * s < x ↔ d.value - d.down < g * 10 ^ e := by
    rw [← framed.lower, ← point, div_lt_div_iff_of_pos_right over_den, lt_div_iff₀ over_s]
    norm_cast
  have below : x < hi * s ↔ (g : ℚ) * 10 ^ e < d.value + d.up := by
    rw [← framed.upper, ← point, div_lt_div_iff_of_pos_right over_den, div_lt_iff₀ over_s]
    norm_cast
  by_cases even : d.m % 2 = 0
  · simp only [even, decide_true, if_true, Bool.and_eq_true, decide_eq_true_eq, lower, upper]
    exact ⟨fun ⟨low, high⟩ => ⟨low, high, fun odd => absurd odd (by omega)⟩,
      fun near => ⟨near.lower, near.upper⟩⟩
  · simp only [even, decide_false, Bool.false_eq_true, if_false, Bool.and_eq_true,
      decide_eq_true_eq, above, below]
    exact ⟨fun ⟨low, high⟩ => ⟨low.le, high.le, fun _ => ⟨low, high⟩⟩,
      fun near => near.strict (by omega)⟩

namespace Dyadic

variable {d : Dyadic} {w : ℚ}

theorem up_pos : 0 < d.up := half_pos (zpow_pos (by norm_num) _)

theorem down_pos : 0 < d.down := by
  have unit : (0 : ℚ) < 2 ^ d.q := by positivity
  unfold down
  split <;> linarith

theorem le_of_not_near (below : w ≤ d.value) (far : ¬d.Near w) : w ≤ d.value - d.down := by
  have rise := d.up_pos
  by_contra within
  rw [not_le] at within
  exact far ⟨within.le, by linarith, fun _ => ⟨within, by linarith⟩⟩

theorem ge_of_not_near (above : d.value ≤ w) (far : ¬d.Near w) : d.value + d.up ≤ w := by
  have fall := d.down_pos
  by_contra within
  rw [not_le] at within
  exact far ⟨by linarith, within.le, fun _ => ⟨by linarith, within⟩⟩

end Dyadic

theorem grid_lt_width {d : Dyadic} (legal : d.IsBinary64) (positive : 0 < d.m) :
    (10 : ℚ) ^ (Int.log 10 d.value - 16) < d.down + d.up := by
  have unit : (0 : ℚ) < 2 ^ d.q := by positivity
  have over_zero : 0 < d.value := by
    have : (0 : ℚ) < d.m := by exact_mod_cast positive
    exact mul_pos this unit
  have low : (10 : ℚ) ^ Int.log 10 d.value ≤ d.m * 2 ^ d.q := by
    exact_mod_cast Int.zpow_log_le_self (by decide : 1 < 10) over_zero
  have step : (10 : ℚ) ^ (Int.log 10 d.value - 16) * 10 ^ 16 = 10 ^ Int.log 10 d.value := by
    rw [zpow_sub₀ (by norm_num)]
    norm_num
  rw [← step] at low
  generalize (10 : ℚ) ^ (Int.log 10 d.value - 16) = grid at low ⊢
  have small : (d.m : ℚ) < 2 ^ 53 := by exact_mod_cast legal.small
  rw [Dyadic.down, Dyadic.up]
  split
  · rename_i narrow
    have power : (d.m : ℚ) = 2 ^ 52 := by exact_mod_cast narrow.1
    rw [power] at low
    norm_num at low
    linarith
  · have wide : (d.m : ℚ) * 2 ^ d.q < 2 ^ 53 * 2 ^ d.q := by gcongr
    norm_num at low wide
    linarith

section
variable {d : Dyadic} {num den hi lo : Nat} (framed : Framed d num den hi lo)
include framed

theorem Framed.grid_bounds (e : Int) :
    ((gridNeighbours num den e).1 : ℚ) * 10 ^ e ≤ d.value ∧
      d.value < ((gridNeighbours num den e).1 + 1) * 10 ^ e := by
  have ratio := scaled_div 10 num den e
  have over_zero : 0 < (scaled 10 num den e).2 := scaled_pos (by decide) framed.some_den
  have unit : (0 : ℚ) < 10 ^ e := by positivity
  rw [framed.value, Nat.cast_ofNat] at ratio
  show (((scaled 10 num den e).1 / (scaled 10 num den e).2 : Nat) : ℚ) * 10 ^ e ≤ _ ∧
    _ < (((scaled 10 num den e).1 / (scaled 10 num den e).2 : Nat) + 1 : ℚ) * 10 ^ e
  rw [← le_div_iff₀ unit, ← div_lt_iff₀ unit, ← ratio]
  have over_zero' : (0 : ℚ) < (scaled 10 num den e).2 := by exact_mod_cast over_zero
  generalize (scaled 10 num den e).1 = a at *
  generalize (scaled 10 num den e).2 = b at *
  rw [le_div_iff₀ over_zero', div_lt_iff₀ over_zero']
  constructor
  · exact_mod_cast Nat.div_mul_le_self a b
  · exact_mod_cast Nat.lt_mul_of_div_lt (Nat.lt_succ_self _) over_zero

theorem Framed.magnitude_eq : magnitude num den = Int.log 10 d.value := by
  rw [Decimal.magnitude_eq framed.some_num framed.some_den, framed.value]

theorem Framed.grid_digits (n : Nat) (one : 1 ≤ n) :
    0 < (gridNeighbours num den (magnitude num den - n + 1)).1 ∧
      (gridNeighbours num den (magnitude num den - n + 1)).1 < 10 ^ n := by
  obtain ⟨below, above⟩ := framed.grid_bounds (magnitude num den - n + 1)
  have over_zero : 0 < d.value := by
    have num_pos : (0 : ℚ) < num := by exact_mod_cast framed.some_num
    have den_pos : (0 : ℚ) < den := by exact_mod_cast framed.some_den
    rw [← framed.value]
    exact div_pos num_pos den_pos
  have low : (10 : ℚ) ^ magnitude num den ≤ d.value := by
    rw [framed.magnitude_eq]
    exact_mod_cast Int.zpow_log_le_self (by decide : 1 < 10) over_zero
  have high : d.value < (10 : ℚ) ^ (magnitude num den + 1) := by
    rw [framed.magnitude_eq]
    exact_mod_cast Int.lt_zpow_succ_log_self (by decide : 1 < 10) d.value
  have unit : (0 : ℚ) < 10 ^ (magnitude num den - n + 1) := by positivity
  generalize (gridNeighbours num den (magnitude num den - n + 1)).1 = g at *
  constructor
  · have coarse : (10 : ℚ) ^ (magnitude num den - n + 1) ≤ 10 ^ magnitude num den :=
      zpow_le_zpow_right₀ (by norm_num) (by omega)
    have one : (0 + 1 : ℚ) < g + 1 := (mul_lt_mul_iff_left₀ unit).1 (by linarith)
    exact_mod_cast lt_of_add_lt_add_right one
  · have power : (10 : ℚ) ^ (magnitude num den + 1) =
        10 ^ n * 10 ^ (magnitude num den - n + 1) := by
      rw [← zpow_natCast, ← zpow_add₀ (by norm_num)]
      congr 1
      omega
    have less : (g : ℚ) < 10 ^ n := by
      rw [power] at high
      exact (mul_lt_mul_iff_left₀ unit).1 (below.trans_lt high)
    exact_mod_cast less

theorem Framed.search_spec (legal : d.IsBinary64) (positive : 0 < d.m) (fuel n : Nat)
    (one : 1 ≤ n) (rest : n + fuel = 18) (some_fuel : 0 < fuel) :
    ∃ k e, shortestDigits.search d num den hi lo (magnitude num den) fuel n = trimmed k e ∧
      d.Near (k * 10 ^ e) ∧ k ≤ 10 ^ 17 := by
  induction fuel generalizing n with
  | zero => omega
  | succ fuel ih =>
      have most : 10 ^ n ≤ 10 ^ 17 := Nat.pow_le_pow_right (by decide) (by omega)
      -- at the latest the grid of seventeen digits has a point in the interval
      have last : fuel = 0 → (10 : ℚ) ^ (magnitude num den - n + 1) < d.down + d.up := by
        rintro rfl
        have width := grid_lt_width legal positive
        rw [← framed.magnitude_eq] at width
        convert width using 2
        omega
      have digits := framed.grid_digits n one
      rw [shortestDigits.search]
      generalize magnitude num den - n + 1 = e at *
      obtain ⟨below, above⟩ := framed.grid_bounds e
      have low := framed.inside_iff (gridNeighbours num den e).1 e
      have high := framed.inside_iff ((gridNeighbours num den e).1 + 1) e
      generalize gridNeighbours num den e = neighbours at *
      obtain ⟨g, rem, b⟩ := neighbours
      dsimp only at *
      push_cast at high
      have nonzero : (g != 0) = true := by simpa using digits.1.ne'
      rw [nonzero, Bool.and_true]
      have lower (near : inside lo hi den (decide (d.m % 2 = 0)) g e = true) :
          ∃ k f, trimmed g e = trimmed k f ∧ d.Near (k * 10 ^ f) ∧ k ≤ 10 ^ 17 :=
        ⟨g, e, rfl, low.1 near, by omega⟩
      have upper (near : inside lo hi den (decide (d.m % 2 = 0)) (g + 1) e = true) :
          ∃ k f, trimmed (g + 1) e = trimmed k f ∧ d.Near (k * 10 ^ f) ∧ k ≤ 10 ^ 17 :=
        ⟨g + 1, e, rfl, by exact_mod_cast high.1 near, by omega⟩
      by_cases left : inside lo hi den (decide (d.m % 2 = 0)) g e = true <;>
        by_cases right : inside lo hi den (decide (d.m % 2 = 0)) (g + 1) e = true
      · simp only [left, right, Bool.and_self, if_true]
        split
        · exact lower left
        · split
          · exact upper right
          · split
            · exact lower left
            · exact upper right
      · simp only [left, right, Bool.and_false, Bool.false_eq_true, if_false, if_true]
        exact lower left
      · simp only [left, right, Bool.false_and, Bool.false_eq_true, if_false, if_true]
        exact upper right
      · simp only [left, right, Bool.and_self, Bool.false_eq_true, if_false]
        refine ih (n + 1) (by omega) (by omega) (Nat.pos_of_ne_zero fun done => ?_)
        have under := Dyadic.le_of_not_near below (mt low.2 left)
        have beyond := Dyadic.ge_of_not_near above.le (mt high.2 right)
        linarith [last done]

end

theorem shortestDigits_spec {d : Dyadic} (legal : d.IsBinary64) (positive : 0 < d.m) :
    ∃ k e, shortestDigits d = trimmed k e ∧ d.Near (k * 10 ^ e) ∧ k ≤ 10 ^ 17 := by
  obtain ⟨num, den, hi, lo, framed, search⟩ := shortestDigits_eq positive
  rw [search]
  exact framed.search_spec legal positive 17 1 (by decide) rfl (by decide)

end Overseer.Decimal
