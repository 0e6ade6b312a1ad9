import Overseer.Decimal.Read
import Overseer.Proofs.Decimal.Shortest

/-!
# Plain text of a float is read back

Plain text has no exponent, so that reading it puts its digits together again: a decimal in the
rounding interval of the float, which is rounded to the float.
-/

namespace Overseer.Decimal

open Text (digitsValue isAsciiDigit lowerAscii)

/-! ## Digits -/

theorem digitsValue_append (ds es : List Char) :
    digitsValue (ds ++ es) = digitsValue ds * 10 ^ es.length + digitsValue es := by
  induction es using List.reverseRecOn with
  | nil => simp [digitsValue]
  | append_singleton es c ih =>
      have last (ds : List Char) : digitsValue (ds ++ [c]) =
          10 * digitsValue ds + (c.toNat - '0'.toNat) := by simp [digitsValue]
      rw [← List.append_assoc, last, last, ih, List.length_append, List.length_singleton, pow_succ]
      ring

theorem digitsValue_zeros {ds : List Char} (zeros : ∀ c ∈ ds, c = '0') : digitsValue ds = 0 := by
  induction ds using List.reverseRecOn with
  | nil => rfl
  | append_singleton ds c ih =>
      rw [digitsValue_append, ih fun d member => zeros d (List.mem_append_left _ member),
        zeros c (by simp)]
      rfl

namespace Digits

def value (d : Digits) : ℚ := digitsValue d.digits * 10 ^ (d.point - d.digits.length)

end Digits

theorem trimmed_append (k : Nat) (e : Int) :
    ∃ zeros, natDigits k = (trimmed k e).digits ++ zeros ∧ ∀ c ∈ zeros, c = '0' := by
  refine ⟨((natDigits k).reverse.takeWhile (· == '0')).reverse, ?_, fun c member => ?_⟩
  · rw [trimmed, ← List.reverse_append, List.takeWhile_append_dropWhile, List.reverse_reverse]
  · have zero := List.mem_takeWhile_imp (List.mem_reverse.1 member)
    exact beq_iff_eq.1 zero

theorem value_trimmed (k : Nat) (e : Int) : (trimmed k e).value = k * 10 ^ e := by
  obtain ⟨zeros, split, all⟩ := trimmed_append k e
  have number := digitsValue_natDigits k
  rw [split, digitsValue_append, digitsValue_zeros all, Nat.add_zero] at number
  have point : (trimmed k e).point - (trimmed k e).digits.length = zeros.length + e := by
    show e + (natDigits k).length - _ = _
    rw [split, List.length_append]
    push_cast
    ring
  rw [Digits.value, point, zpow_add₀ (by norm_num), zpow_natCast, ← mul_assoc]
  congr 1
  exact_mod_cast number

theorem trimmed_digits (k : Nat) (e : Int) :
    (∀ c ∈ (trimmed k e).digits, isAsciiDigit c = true) ∧
      digitsValue (trimmed k e).digits ≤ k := by
  obtain ⟨zeros, split, all⟩ := trimmed_append k e
  have number := digitsValue_natDigits k
  rw [split, digitsValue_append, digitsValue_zeros all, Nat.add_zero] at number
  refine ⟨fun c member => isAsciiDigit_of_mem (n := k) ?_, ?_⟩
  · rw [split]
    exact List.mem_append_left _ member
  · calc digitsValue (trimmed k e).digits
        ≤ digitsValue (trimmed k e).digits * 10 ^ zeros.length :=
          Nat.le_mul_of_pos_right _ (Nat.pow_pos (by decide))
      _ = k := number

theorem trimmed_point {k : Nat} {e : Int} (low : (2 : ℚ) ^ (-1075 : Int) ≤ k * 10 ^ e)
    (high : (k : ℚ) * 10 ^ e < 2 ^ 1024) :
    -324 < (trimmed k e).point ∧ (trimmed k e).point ≤ 309 := by
  have unit : (0 : ℚ) < 10 ^ e := by positivity
  have positive : 0 < k := by
    refine Nat.pos_of_ne_zero fun zero => ?_
    have power : (0 : ℚ) < 2 ^ (-1075 : Int) := by positivity
    rw [zero, Nat.cast_zero, zero_mul] at low
    exact absurd low (not_le.2 power)
  obtain ⟨l, length⟩ := length_natDigits k
  obtain ⟨least, most⟩ := natDigits_bounds positive
  rw [length, Nat.add_sub_cancel] at least
  rw [length] at most
  have least : (10 : ℚ) ^ (l + e) ≤ k * 10 ^ e := by
    rw [zpow_add₀ (by norm_num), zpow_natCast]
    gcongr
    exact_mod_cast least
  have most : (k : ℚ) * 10 ^ e < 10 ^ (((l + 1 : Nat) : Int) + e) := by
    rw [zpow_add₀ (by norm_num), zpow_natCast]
    gcongr
    exact_mod_cast most
  have tiny : (10 : ℚ) ^ (-324 : Int) < 10 ^ (((l + 1 : Nat) : Int) + e) :=
    two_pow_gt.trans (low.trans_lt most)
  have huge : (10 : ℚ) ^ (l + e) < 10 ^ (309 : Int) := least.trans_lt (high.trans_le two_pow_le)
  have tiny := (zpow_lt_zpow_iff_right₀ (by norm_num)).1 tiny
  have huge := (zpow_lt_zpow_iff_right₀ (by norm_num)).1 huge
  have point : (trimmed k e).point = e + (natDigits k).length := rfl
  rw [point, length]
  omega

/-! ## Text -/

theorem leadingDigits_append {ds rest : List Char} (digits : ∀ c ∈ ds, isAsciiDigit c = true)
    (stops : ∀ c, rest.head? = some c → isAsciiDigit c = false) :
    leadingDigits (ds ++ rest) = (ds, rest) := by
  have front : rest.takeWhile isAsciiDigit = [] ∧ rest.dropWhile isAsciiDigit = rest := by
    cases rest with
    | nil => exact ⟨rfl, rfl⟩
    | cons c rest => simp [stops c rfl]
  rw [leadingDigits, List.takeWhile_append_of_pos digits, List.dropWhile_append_of_pos digits,
    front.1, front.2, List.append_nil]

theorem digit_ne {c : Char} (digit : isAsciiDigit c = true) :
    c ≠ '-' ∧ c ≠ '+' ∧ c.toLower ≠ 'i' ∧ c.toLower ≠ 'n' := by
  have range : 48 ≤ c.toNat ∧ c.toNat ≤ 57 := by
    simpa [isAsciiDigit, Char.le_def, UInt32.le_iff_toNat_le] using digit
  obtain ⟨n, code⟩ : ∃ n : Fin 10, c = Char.ofNat (48 + n) :=
    ⟨⟨c.toNat - 48, by omega⟩, by
      rw [Nat.add_sub_cancel' range.1, Char.ofNat_toNat]⟩
  rw [code]
  clear code
  revert n
  decide

theorem read?_digits {c : Char} {rest : List Char} (digit : isAsciiDigit c = true) :
    read? (c :: rest) = (readMagnitude (c :: rest)).map Float.ofBits := by
  obtain ⟨minus, plus, -, -⟩ := digit_ne digit
  unfold read?
  split
  rename_i negative s signed
  split at signed
  · exact absurd (List.cons.inj ‹_›).1 minus
  · exact absurd (List.cons.inj ‹_›).1 plus
  · cases signed
    rfl

theorem readMagnitude_digits {c : Char} {rest : List Char} (digit : isAsciiDigit c = true) :
    readMagnitude (c :: rest) =
      let (whole, rest) := leadingDigits (c :: rest)
      let (part, rest) := match rest with
        | '.' :: r => leadingDigits r
        | r => ([], r)
      if whole.isEmpty && part.isEmpty then none
      else (readExponent rest).map fun e =>
        nearestDecimalBits (digitsValue (whole ++ part)) (e - part.length) := by
  obtain ⟨-, -, inf, nan⟩ := digit_ne digit
  have no_word (d : Char) (other : c.toLower ≠ d) (word : List Char) :
      lowerAscii (c :: rest) ≠ d :: word := fun same => other (List.cons.inj same).1
  have no_infinity : ¬(lowerAscii (c :: rest) = ['i', 'n', 'f'] ∨
      lowerAscii (c :: rest) = ['i', 'n', 'f', 'i', 'n', 'i', 't', 'y']) :=
    not_or.2 ⟨no_word _ inf _, no_word _ inf _⟩
  exact (if_neg no_infinity).trans (if_neg (no_word _ nan _))

theorem readMagnitude_whole {ds : List Char} (filled : ds ≠ [])
    (digits : ∀ c ∈ ds, isAsciiDigit c = true) :
    readMagnitude ds = some (nearestDecimalBits (digitsValue ds) 0) := by
  obtain ⟨c, rest, rfl⟩ := List.exists_cons_of_ne_nil filled
  have leading := @leadingDigits_append _ [] digits nofun
  rw [List.append_nil] at leading
  rw [readMagnitude_digits (digits c List.mem_cons_self), leading]
  simp [readExponent]

theorem readMagnitude_point {ds es : List Char} (filled : ds ≠ [])
    (digits : ∀ c ∈ ds, isAsciiDigit c = true) (part : ∀ c ∈ es, isAsciiDigit c = true) :
    readMagnitude (ds ++ '.' :: es) =
      some (nearestDecimalBits (digitsValue (ds ++ es)) (-es.length)) := by
  obtain ⟨c, rest, rfl⟩ := List.exists_cons_of_ne_nil filled
  have leading := @leadingDigits_append _ ('.' :: es) digits (by
    rintro c ⟨⟩
    rfl)
  have behind := @leadingDigits_append _ [] part nofun
  rw [List.append_nil] at behind
  rw [List.cons_append, readMagnitude_digits (digits c List.mem_cons_self), ← List.cons_append,
    leading]
  simp only [behind]
  simp [readExponent]

/-! ## Digits and their point -/

theorem digits_zeros (n : Nat) : ∀ c ∈ List.replicate n '0', isAsciiDigit c = true := by
  intro c member
  rw [(List.mem_replicate.1 member).2]
  rfl

theorem digitsValue_replicate (n : Nat) : digitsValue (List.replicate n '0') = 0 :=
  digitsValue_zeros fun _ member => (List.mem_replicate.1 member).2

theorem log2_le {m n : Nat} (small : m ≤ 10 ^ 17 * 10 ^ n) (short : n ≤ 309) :
    Nat.log2 m ≤ 3000 := by
  have sixteen : 10 ^ n ≤ 2 ^ (4 * n) := by
    rw [Nat.pow_mul]
    exact Nat.pow_le_pow_left (by decide) n
  have power : m < 2 ^ (57 + 4 * n) :=
    calc m ≤ 10 ^ 17 * 10 ^ n := small
      _ ≤ 10 ^ 17 * 2 ^ (4 * n) := Nat.mul_le_mul_left _ sixteen
      _ < 2 ^ 57 * 2 ^ (4 * n) := Nat.mul_lt_mul_of_pos_right (by decide) (Nat.pow_pos (by decide))
      _ = 2 ^ (57 + 4 * n) := (Nat.pow_add ..).symm
  rcases Nat.eq_zero_or_pos m with rfl | positive
  · exact Nat.zero_le _
  · have := (Nat.log2_lt positive.ne').2 power
    omega

/-- The text of a decimal without an exponent: digits of the same value, with a point among them or
behind them that need not be written. -/
inductive Plain (d : Digits) : List Char → Prop where
  | whole {ds : List Char} (filled : ds ≠ []) (digits : ∀ c ∈ ds, isAsciiDigit c = true)
      (value : (digitsValue ds : ℚ) = d.value) (short : Nat.log2 (digitsValue ds) ≤ 3000) :
      Plain d ds
  | point {ds es : List Char} (filled : ds ≠ []) (digits : ∀ c ∈ ds, isAsciiDigit c = true)
      (part : ∀ c ∈ es, isAsciiDigit c = true)
      (value : (digitsValue (ds ++ es) : ℚ) * 10 ^ (-es.length : Int) = d.value)
      (short : Nat.log2 (digitsValue (ds ++ es)) ≤ 3000) : Plain d (ds ++ '.' :: es)

theorem plain_text {d : Digits} (digits : ∀ c ∈ d.digits, isAsciiDigit c = true)
    (few : digitsValue d.digits ≤ 10 ^ 17) (low : -324 < d.point) (high : d.point ≤ 309) :
    Plain d (d.text .plain) := by
  have in_sight : ¬(d.point < Layout.plain.smallest ∨ Layout.plain.largest < d.point) := by
    show ¬(d.point < -1100 ∨ 1100 < d.point)
    omega
  have short : Nat.log2 (digitsValue d.digits) ≤ 3000 := log2_le (n := 0) few (by decide)
  unfold Digits.text
  rw [if_neg in_sight]
  split
  · -- zeros between the point and the digits
    rename_i small
    obtain ⟨n, zeros⟩ : ∃ n : Nat, (-d.point).toNat = n := ⟨_, rfl⟩
    have number : digitsValue (['0'] ++ (List.replicate n '0' ++ d.digits)) =
        digitsValue d.digits := by
      rw [digitsValue_append, digitsValue_append, digitsValue_replicate,
        digitsValue_zeros (by simp)]
      simp
    rw [zeros]
    show Plain d (['0'] ++ '.' :: (List.replicate n '0' ++ d.digits))
    refine .point (List.cons_ne_nil _ _) (digits_zeros 1) (fun c member => ?_) ?_ ?_
    · exact (List.mem_append.1 member).elim (digits_zeros _ c) (digits c)
    · rw [number, Digits.value, List.length_append, List.length_replicate]
      congr 2
      push_cast
      omega
    · rwa [number]
  split
  · -- zeros between the digits and the point
    rename_i positive whole
    obtain ⟨n, zeros⟩ : ∃ n : Nat, (d.point - d.digits.length).toNat = n := ⟨_, rfl⟩
    have number : digitsValue (d.digits ++ List.replicate n '0') =
        digitsValue d.digits * 10 ^ n := by
      rw [digitsValue_append, digitsValue_replicate, List.length_replicate, Nat.add_zero]
    rw [zeros]
    show Plain d (d.digits ++ List.replicate n '0' ++ [])
    rw [List.append_nil]
    refine .whole ?_ (fun c member => ?_) ?_ ?_
    · intro empty
      have := congrArg List.length empty
      rw [List.length_append, List.length_replicate, List.length_nil] at this
      omega
    · exact (List.mem_append.1 member).elim (digits c) (digits_zeros _ c)
    · have power : d.point - d.digits.length = n := by omega
      rw [number, Digits.value, power, zpow_natCast]
      push_cast
      rfl
    · rw [number]
      exact log2_le (Nat.mul_le_mul_right _ few) (by omega)
  · -- the point between the digits
    rename_i positive inner
    obtain ⟨n, before⟩ : ∃ n : Nat, d.point = n := ⟨d.point.toNat, by omega⟩
    rw [before, Int.toNat_natCast]
    refine .point ?_ (fun c member => digits c (List.mem_of_mem_take member))
      (fun c member => digits c (List.mem_of_mem_drop member)) ?_ ?_
    · intro empty
      have := congrArg List.length empty
      rw [List.length_take, List.length_nil] at this
      omega
    · rw [List.take_append_drop, Digits.value, List.length_drop]
      congr 2
      omega
    · rwa [List.take_append_drop]

variable {d : Digits} {text : List Char}

theorem Plain.read (plain : Plain d text) :
    ∃ m : Nat, ∃ e : Int, read? text = some (.ofBits (nearestDecimalBits m e)) ∧
      (m : ℚ) * 10 ^ e = d.value ∧ Nat.log2 m ≤ 3000 := by
  cases plain with
  | whole filled digits value short =>
      refine ⟨_, 0, ?_, by rw [zpow_zero, mul_one, value], short⟩
      have read := readMagnitude_whole filled digits
      obtain ⟨c, rest, rfl⟩ := List.exists_cons_of_ne_nil filled
      rw [read?_digits (digits c List.mem_cons_self), read]
      rfl
  | point filled digits part value short =>
      refine ⟨_, _, ?_, value, short⟩
      have read := readMagnitude_point filled digits part
      obtain ⟨c, rest, rfl⟩ := List.exists_cons_of_ne_nil filled
      rw [List.cons_append, read?_digits (digits c List.mem_cons_self), ← List.cons_append, read]
      rfl

theorem Plain.begins (plain : Plain d text) :
    ∃ c rest, text = c :: rest ∧ isAsciiDigit c = true ∧
      ∀ c ∈ rest, isAsciiDigit c = true ∨ c = '.' := by
  cases plain with
  | whole filled digits =>
      obtain ⟨c, rest, rfl⟩ := List.exists_cons_of_ne_nil filled
      exact ⟨c, rest, rfl, digits c List.mem_cons_self,
        fun d member => .inl (digits d (List.mem_cons_of_mem _ member))⟩
  | @point _ es filled digits part =>
      obtain ⟨c, rest, rfl⟩ := List.exists_cons_of_ne_nil filled
      refine ⟨c, rest ++ '.' :: es, rfl, digits c List.mem_cons_self, fun d member => ?_⟩
      rcases List.mem_append.1 member with front | behind
      · exact .inl (digits d (List.mem_cons_of_mem _ front))
      · exact (List.mem_cons.1 behind).symm.imp_left (part d)

/-! ## Floats -/

theorem toBits_inj {x : Float} {bits : UInt64} (same : bits.toNat = x.toBits.toNat) :
    Float.ofBits bits = x := by
  rw [UInt64.toNat_inj.1 same, Float.ofBits_toBits]

theorem plain_shortestDigits {d : Dyadic} (legal : d.IsBinary64) :
    Plain (shortestDigits d) ((shortestDigits d).text .plain) := by
  rcases Nat.eq_zero_or_pos d.m with zero | some_m
  · have digits : shortestDigits d = ⟨['0'], 1⟩ := if_pos zero
    rw [digits]
    exact plain_text (digits_zeros 1) (Nat.zero_le _) (by decide) (by decide)
  · obtain ⟨k, e, found, near, few⟩ := shortestDigits_spec legal some_m
    obtain ⟨low, high⟩ := near.bounds legal some_m
    obtain ⟨digits, less⟩ := trimmed_digits k e
    obtain ⟨tiny, huge⟩ := trimmed_point low high
    rw [found]
    exact plain_text digits (less.trans few) tiny huge

theorem toList_render {x : Float} (number : isNaN x.toBits = false) :
    (render .plain x).toList =
      (if isNegative x.toBits then ['-'] else []) ++
        if isInfinite x.toBits then ['i', 'n', 'f']
        else (shortestDigits (.ofBits x.toBits)).text .plain := by
  unfold render
  simp only [number, Bool.false_eq_true, if_false]
  split <;> exact String.toList_ofList

theorem read?_render {x : Float} (positive : isNegative x.toBits = false)
    (number : isNaN x.toBits = false) : read? (render .plain x).toList = some x := by
  rw [toList_render number, positive, if_neg Bool.false_ne_true, List.nil_append]
  split
  · rename_i infinite
    obtain ⟨exponent, fraction⟩ : biasedExponent x.toBits = 2047 ∧ fraction x.toBits = 0 := by
      simpa [isInfinite] using infinite
    have range : x.toBits.toNat < 2 ^ 63 := by simpa [isNegative] using positive
    have word : read? ['i', 'n', 'f'] = some (.ofBits 0x7FF0000000000000) := rfl
    rw [word]
    refine congrArg some (toBits_inj ?_)
    show 2047 * 2 ^ 52 = _
    rw [biasedExponent, Nat.pow_eq] at exponent
    rw [Decimal.fraction, Nat.pow_eq] at fraction
    omega
  · rename_i finite
    have legal := ofBits_isBinary64 number (eq_false_of_ne_true finite)
    have pattern := pattern_ofBits positive
    generalize Dyadic.ofBits x.toBits = d at legal pattern ⊢
    rcases Nat.eq_zero_or_pos d.m with zero | some_m
    · have digits : shortestDigits d = ⟨['0'], 1⟩ := if_pos zero
      have read : read? (Digits.text .plain ⟨['0'], 1⟩) = some (.ofBits 0) := rfl
      rw [digits, read]
      refine congrArg some (toBits_inj ?_)
      rw [← pattern, Dyadic.pattern, zero]
      rfl
    · obtain ⟨k, e, found, near, -⟩ := shortestDigits_spec legal some_m
      obtain ⟨m, f, read, value, short⟩ := (plain_shortestDigits legal).read
      rw [found, value_trimmed] at value
      rw [read]
      refine congrArg some (toBits_inj ?_)
      rw [nearestDecimalBits_of_near legal some_m short (value ▸ near), pattern]

theorem render_plain {x : Float} (number : isNaN x.toBits = false) :
    ∃ c rest,
      (render .plain x).toList = (if isNegative x.toBits then ['-'] else []) ++ c :: rest ∧
      (isAsciiDigit c = true ∨ c = 'i') ∧
      ∀ c ∈ rest, isAsciiDigit c = true ∨ c ∈ ['.', 'n', 'f'] := by
  rw [toList_render number]
  by_cases infinite : isInfinite x.toBits = true
  · rw [if_pos infinite]
    exact ⟨'i', ['n', 'f'], rfl, .inr rfl, by simp⟩
  · rw [if_neg infinite]
    have legal := ofBits_isBinary64 number (eq_false_of_ne_true infinite)
    obtain ⟨c, rest, text, digit, others⟩ := (plain_shortestDigits legal).begins
    exact ⟨c, rest, by rw [text], .inl digit, fun c member =>
      (others c member).imp_right fun point => by simp [point]⟩

theorem nearestDecimalBits_whole {n : Nat} (small : n < 2 ^ 64) :
    nearestDecimalBits n 0 = nearestBits n 1 := by
  rcases Nat.eq_zero_or_pos n with rfl | positive
  · rfl
  · have one : (1 : ℚ) ≤ n := by exact_mod_cast positive
    have bound : (n : ℚ) < 2 ^ 64 := by exact_mod_cast small
    have short : Nat.log2 n ≤ 3000 := by
      have := (Nat.log2_lt positive.ne').2 small
      omega
    have least : (2 : ℚ) ^ (-1075 : Int) ≤ n * 10 ^ (0 : Int) := by
      rw [zpow_zero, mul_one]
      exact (zpow_le_one_of_nonpos₀ (by norm_num) (by decide)).trans one
    have most : (n : ℚ) * 10 ^ (0 : Int) < 2 ^ 1024 := by
      rw [zpow_zero, mul_one]
      exact bound.trans_le (pow_le_pow_right₀ (by norm_num) (by decide))
    obtain ⟨below, above⟩ := size_bounds positive short least most
    rw [nearestDecimalBits, if_neg positive.ne', if_neg below, if_neg above]
    simp

theorem read?_natDigits {n : Nat} (small : n < 2 ^ 64) :
    read? (natDigits n) = some (floatOfNat n) := by
  obtain ⟨c, rest, split⟩ := List.exists_cons_of_ne_nil (natDigits_ne_nil n)
  have digit : isAsciiDigit c = true := isAsciiDigit_of_mem (n := n) (by simp [split])
  have read := readMagnitude_whole (natDigits_ne_nil n) fun c => isAsciiDigit_of_mem
  rw [digitsValue_natDigits] at read
  rw [split] at read ⊢
  rw [read?_digits digit, read, floatOfNat, nearestDecimalBits_whole small]
  rfl

end Overseer.Decimal
