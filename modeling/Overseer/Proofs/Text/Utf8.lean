import Mathlib.Data.String.Basic
import Overseer.Text.Utf8

/-!
# The octets of a text

Decoding the octets of a text gives its characters back, and the octets are ordered as the texts
are.
-/

namespace Overseer.Text.Utf8

open String (utf8EncodeChar)

theorem toList_loop (bytes : ByteArray) (i : Nat) (read : List UInt8) :
    ByteArray.toList.loop bytes i read = read.reverse ++ bytes.data.toList.drop i := by
  fun_induction ByteArray.toList.loop bytes i read with
  | case1 i read inside ih =>
      have bound : i < bytes.data.toList.length := inside
      rw [ih, List.drop_eq_getElem_cons bound]
      simp [ByteArray.get!, inside]
  | case2 i read outside =>
      have beyond : bytes.data.toList.length ≤ i := Nat.le_of_not_lt outside
      rw [List.drop_eq_nil_of_le beyond, List.append_nil]

theorem toList_toUTF8 (s : String) : s.toUTF8.toList = s.toList.flatMap utf8EncodeChar := by
  have bytes : s.toUTF8 = (s.toList.flatMap utf8EncodeChar).toByteArray := by
    rw [String.toUTF8_eq_toByteArray, ← List.utf8Encode, ← String.toByteArray_ofList,
      String.ofList_toList]
  rw [bytes, ByteArray.toList, toList_loop, List.toList_data_toByteArray]
  rfl

/-! ## Decoding -/

section
variable {b : UInt8} {rest : List UInt8} {state next : State}

theorem decodeFrom_opening (opens : State.opening b.toNat = .sequence next) :
    decodeFrom .start (b :: rest) = decodeFrom next rest := by
  simp [decodeFrom, State.start, opens]

theorem decodeFrom_more (owed : 1 < state.owed) (low : state.low ≤ b.toNat)
    (high : b.toNat ≤ state.high) :
    decodeFrom state (b :: rest) =
      decodeFrom ⟨64 * state.bits + (b.toNat - 0x80), state.owed - 1, 0x80, 0xBF⟩ rest := by
  rw [decodeFrom, if_pos ⟨by omega, low, high⟩, if_neg (by omega)]

theorem decodeFrom_last (owed : state.owed = 1) (low : state.low ≤ b.toNat)
    (high : b.toNat ≤ state.high) :
    decodeFrom state (b :: rest) =
      some (Char.ofNat (64 * state.bits + (b.toNat - 0x80))) :: decodeFrom .start rest := by
  rw [decodeFrom, if_pos ⟨by omega, low, high⟩, if_pos owed]

end

theorem opening_of_three {v : Nat} (least : 0x800 ≤ v) (most : v ≤ 0xFFFF)
    (valid : v < 0xD800 ∨ 0xDFFF < v) :
    ∃ low high, State.opening (v / 4096 + 0xe0) = .sequence ⟨v / 4096, 2, low, high⟩ ∧
      low ≤ v / 64 % 64 + 0x80 ∧ v / 64 % 64 + 0x80 ≤ high := by
  unfold State.opening
  rw [if_neg (by omega), if_neg (by omega), if_neg (by omega)]
  by_cases zero : v / 4096 = 0
  · exact ⟨0xA0, 0xBF, by rw [zero]; rfl, by omega, by omega⟩
  by_cases surrogate : v / 4096 = 13
  · exact ⟨0x80, 0x9F, by rw [surrogate]; rfl, by omega, by omega⟩
  · refine ⟨0x80, 0xBF, ?_, by omega, by omega⟩
    rw [if_neg (by omega), if_neg (by omega), if_pos (by omega), Nat.add_sub_cancel]

theorem opening_of_four {v : Nat} (least : 0x10000 ≤ v) (most : v < 0x110000) :
    ∃ low high, State.opening (v / 262144 + 0xf0) = .sequence ⟨v / 262144, 3, low, high⟩ ∧
      low ≤ v / 4096 % 64 + 0x80 ∧ v / 4096 % 64 + 0x80 ≤ high := by
  unfold State.opening
  rw [if_neg (by omega), if_neg (by omega), if_neg (by omega), if_neg (by omega),
    if_neg (by omega), if_neg (by omega)]
  by_cases zero : v / 262144 = 0
  · exact ⟨0x90, 0xBF, by rw [zero]; rfl, by omega, by omega⟩
  by_cases four : v / 262144 = 4
  · exact ⟨0x80, 0x8F, by rw [four]; rfl, by omega, by omega⟩
  · refine ⟨0x80, 0xBF, ?_, by omega, by omega⟩
    rw [if_neg (by omega), if_pos (by omega), Nat.add_sub_cancel]

theorem toNat_ofNat {n : Nat} (small : n < 256) : (UInt8.ofNat n).toNat = n := by
  rw [UInt8.toNat_ofNat', Nat.mod_eq_of_lt small]

theorem decodeFrom_encode (c : Char) (rest : List UInt8) :
    decodeFrom .start (utf8EncodeChar c ++ rest) = some c :: decodeFrom .start rest := by
  have valid : c.val.toNat < 0xD800 ∨ 0xDFFF < c.val.toNat ∧ c.val.toNat < 0x110000 := c.valid
  have whole {n : Nat} (same : n = c.val.toNat) : Char.ofNat n = c := same ▸ Char.ofNat_toNat c
  fun_cases utf8EncodeChar c with
  | case1 v one =>
      have first : (UInt8.ofNat v).toNat = v := toNat_ofNat (by omega)
      have opens : State.opening v = .char c := by
        rw [State.opening, if_pos (by omega), whole rfl]
      simp [decodeFrom, State.start, first, opens]
  | case2 v one two =>
      have first : (UInt8.ofNat (v / 64 % 0x20 + 0xc0)).toNat = v / 64 + 0xc0 := by
        rw [toNat_ofNat] <;> omega
      have second : (UInt8.ofNat (v % 0x40 + 0x80)).toNat = v % 64 + 0x80 := toNat_ofNat (by omega)
      have opens : State.opening (v / 64 + 0xc0) = .sequence ⟨v / 64, 1, 0x80, 0xBF⟩ := by
        rw [State.opening, if_neg (by omega), if_neg (by omega), if_pos (by omega),
          Nat.add_sub_cancel]
      rw [List.cons_append, List.cons_append, List.nil_append,
        decodeFrom_opening (first.symm ▸ opens), decodeFrom_last rfl, second, whole]
      all_goals dsimp only
      all_goals omega
  | case3 v one two three =>
      have first : (UInt8.ofNat (v / 4096 % 0x10 + 0xe0)).toNat = v / 4096 + 0xe0 := by
        rw [toNat_ofNat] <;> omega
      have second : (UInt8.ofNat (v / 64 % 0x40 + 0x80)).toNat = v / 64 % 64 + 0x80 :=
        toNat_ofNat (by omega)
      have third : (UInt8.ofNat (v % 0x40 + 0x80)).toNat = v % 64 + 0x80 := toNat_ofNat (by omega)
      obtain ⟨low, high, opens, above, below⟩ :=
        opening_of_three (v := v) (by omega) three (by omega)
      rw [List.cons_append, List.cons_append, List.cons_append, List.nil_append,
        decodeFrom_opening (first.symm ▸ opens), decodeFrom_more Nat.one_lt_two,
        decodeFrom_last rfl, second, third, whole]
      all_goals dsimp only
      all_goals omega
  | case4 v one two three =>
      have first : (UInt8.ofNat (v / 262144 % 0x08 + 0xf0)).toNat = v / 262144 + 0xf0 := by
        rw [toNat_ofNat] <;> omega
      have second : (UInt8.ofNat (v / 4096 % 0x40 + 0x80)).toNat = v / 4096 % 64 + 0x80 :=
        toNat_ofNat (by omega)
      have third : (UInt8.ofNat (v / 64 % 0x40 + 0x80)).toNat = v / 64 % 64 + 0x80 :=
        toNat_ofNat (by omega)
      have fourth : (UInt8.ofNat (v % 0x40 + 0x80)).toNat = v % 64 + 0x80 := toNat_ofNat (by omega)
      obtain ⟨low, high, opens, above, below⟩ :=
        opening_of_four (v := v) (by omega) (by omega)
      rw [List.cons_append, List.cons_append, List.cons_append, List.cons_append, List.nil_append,
        decodeFrom_opening (first.symm ▸ opens), decodeFrom_more (show 1 < 3 by decide),
        decodeFrom_more Nat.one_lt_two, decodeFrom_last rfl, second, third, fourth, whole]
      all_goals dsimp only
      all_goals omega

theorem decode_encode (cs : List Char) : decode (cs.flatMap utf8EncodeChar) = cs.map some := by
  unfold decode
  induction cs with
  | nil => rfl
  | cons c rest ih => rw [List.flatMap_cons, decodeFrom_encode, ih, List.map_cons]

theorem decode_toUTF8 (s : String) : decode s.toUTF8.toList = s.toList.map some := by
  rw [toList_toUTF8, decode_encode]

/-! ## Order -/

theorem ofNat_cons_lt {m n : Nat} {x y : List UInt8} (small : n < 256) (le : m ≤ n)
    (rest : m = n → x < y) : UInt8.ofNat m :: x < UInt8.ofNat n :: y := by
  rw [List.cons_lt_cons_iff, UInt8.lt_iff_toNat_lt, ← UInt8.toNat_inj, toNat_ofNat small,
    toNat_ofNat (Nat.lt_of_le_of_lt le small)]
  rcases Nat.lt_or_eq_of_le le with less | same
  · exact .inl less
  · exact .inr ⟨same, rest same⟩

theorem encode_lt {c d : Char} (less : c < d) (x y : List UInt8) :
    utf8EncodeChar c ++ x < utf8EncodeChar d ++ y := by
  have order : c.val.toNat < d.val.toNat := less
  have most : d.val.toNat < 0x110000 := by
    rcases d.valid with small | ⟨-, small⟩ <;> omega
  -- Two encodings of one length differ in some octet; a longer one has a greater first octet.
  unfold utf8EncodeChar
  dsimp only
  split
  · split
    · exact ofNat_cons_lt (by omega) (by omega) (by omega)
    · split
      · exact ofNat_cons_lt (by omega) (by omega) (by omega)
      · split <;> exact ofNat_cons_lt (by omega) (by omega) (by omega)
  · rw [if_neg (show ¬d.val.toNat ≤ 0x7f by omega)]
    split
    · split
      · exact ofNat_cons_lt (by omega) (by omega) fun first =>
          ofNat_cons_lt (by omega) (by omega) (by omega)
      · split <;> exact ofNat_cons_lt (by omega) (by omega) (by omega)
    · rw [if_neg (show ¬d.val.toNat ≤ 0x7ff by omega)]
      split
      · split
        · exact ofNat_cons_lt (by omega) (by omega) fun first =>
            ofNat_cons_lt (by omega) (by omega) fun second =>
              ofNat_cons_lt (by omega) (by omega) (by omega)
        · exact ofNat_cons_lt (by omega) (by omega) (by omega)
      · rw [if_neg (show ¬d.val.toNat ≤ 0xffff by omega)]
        exact ofNat_cons_lt (by omega) (by omega) fun first =>
          ofNat_cons_lt (by omega) (by omega) fun second =>
            ofNat_cons_lt (by omega) (by omega) fun third =>
              ofNat_cons_lt (by omega) (by omega) (by omega)

theorem flatMap_encode_lt {cs ds : List Char} (less : cs < ds) :
    cs.flatMap utf8EncodeChar < ds.flatMap utf8EncodeChar := by
  induction less with
  | @nil d ds =>
      have filled : utf8EncodeChar d ≠ [] := String.utf8EncodeChar_ne_nil
      obtain ⟨first, rest, shape⟩ := List.exists_cons_of_ne_nil filled
      rw [List.flatMap_cons, shape]
      exact List.nil_lt_cons ..
  | @cons c cs ds _ ih =>
      rw [List.flatMap_cons, List.flatMap_cons]
      exact List.append_left_lt ih
  | rel less => exact encode_lt less ..

theorem toUTF8_lt {s t : String} (less : s < t) : s.toUTF8.toList < t.toUTF8.toList := by
  rw [toList_toUTF8, toList_toUTF8]
  exact flatMap_encode_lt less

end Overseer.Text.Utf8
