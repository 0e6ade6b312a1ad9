import Mathlib
import Overseer.Json.Decode
import Overseer.Proofs.Decimal.Digits
import Overseer.Proofs.Text.Utf8

/-!
# Written values are read

The text of a value without floats is read as the tree of the value, whatever stands behind it as
long as it cannot go on with a number. Numbers, strings and words come first, then arrays and
objects along the value.
-/

namespace Overseer.Json

open Text (isAsciiDigit digitsValue)

/-! ## Strings -/

theorem hexValue?_hexDigit {n : Nat} (small : n < 16) : hexValue? (hexDigit n) = some n := by
  revert n
  decide

inductive Escaped (c : Char) : List Char → Prop where
  | short {e : Char} (known : shortEscape e = some c) : Escaped c ['\\', e]
  | code (control : c.toNat < 0x20) :
      Escaped c ['\\', 'u', '0', '0', hexDigit (c.toNat / 16), hexDigit (c.toNat % 16)]
  | plain (quote : c ≠ '"') (slash : c ≠ '\\') (printable : ¬c.toNat < 0x20) : Escaped c [c]

theorem escaped (c : Char) : Escaped c (escapeChar c) := by
  unfold escapeChar
  split
  · exact .short (by simp_all [shortEscape])
  split
  · exact .short (by simp_all [shortEscape])
  split
  · exact .short (by simp_all [shortEscape])
  split
  · exact .short (by simp_all [shortEscape])
  split
  · exact .short (by simp_all [shortEscape])
  split
  · exact .short (by simp_all [shortEscape])
  split
  · exact .short (by simp_all [shortEscape])
  split
  · exact .code ‹_›
  · exact .plain ‹_› ‹_› ‹_›

variable {fuel : Nat} {cs : List Char} {c : Char} {rest : Source}

theorem readString_short {e : Char} (known : shortEscape e = some c) :
    readString (fuel + 1) ⟨cs, none, none, false⟩ (some '\\' :: some e :: rest) =
      readString fuel ⟨c :: cs, none, none, false⟩ rest := by
  have letter : e ≠ 'u' := by
    rintro rfl
    cases known
  simp [readString, known, StringState.push]

theorem readString_code (control : c.toNat < 0x20) :
    readString (fuel + 1) ⟨cs, none, none, false⟩ (some '\\' :: some 'u' :: some '0' :: some '0' ::
        some (hexDigit (c.toNat / 16)) :: some (hexDigit (c.toNat % 16)) :: rest) =
      readString fuel ⟨c :: cs, none, none, false⟩ rest := by
  have high := hexValue?_hexDigit (n := c.toNat / 16) (by omega)
  have low := hexValue?_hexDigit (n := c.toNat % 16) (by omega)
  have zero : hexValue? '0' = some 0 := by decide
  have code : c.toNat / 16 * 16 + c.toNat % 16 = c.toNat := by omega
  have unit : hexFour (some '0' :: some '0' :: some (hexDigit (c.toNat / 16)) ::
      some (hexDigit (c.toNat % 16)) :: rest) = .ok (c.toNat, rest) := by
    simp [hexFour, zero, high, low, code]
  have push : StringState.pushUnit ⟨cs, none, none, false⟩ c.toNat =
      ⟨c :: cs, none, none, false⟩ := by
    dsimp only [StringState.pushUnit]
    rw [if_neg (by omega), if_neg (by omega), Char.ofNat_toNat]
  simp [readString, unit, push]

theorem readString_escapeChar (c : Char) :
    readString (fuel + 1) ⟨cs, none, none, false⟩ ((escapeChar c).map some ++ rest) =
      readString fuel ⟨c :: cs, none, none, false⟩ rest := by
  have shape := escaped c
  generalize escapeChar c = text at shape
  cases shape with
  | short known => exact readString_short known
  | code control => exact readString_code control
  | plain quote slash printable =>
      simp [readString, quote, slash, printable, StringState.push]

theorem readString_escaped (fuel : Nat) (cs ds : List Char) (enough : ds.length < fuel) :
    readString fuel ⟨cs, none, none, false⟩ ((ds.flatMap escapeChar).map some ++ some '"' :: rest) =
      .ok (.ok (String.ofList (cs.reverse ++ ds)), rest) := by
  induction ds generalizing fuel cs with
  | nil =>
      obtain ⟨fuel, rfl⟩ := Nat.exists_eq_add_of_lt enough
      simp [readString, StringState.close]
  | cons d ds ih =>
      obtain ⟨fuel, rfl⟩ : ∃ n, fuel = n + 1 := ⟨fuel - 1, by simp at enough; omega⟩
      rw [List.flatMap_cons, List.map_append, List.append_assoc, readString_escapeChar,
        ih fuel (d :: cs) (Nat.lt_of_succ_lt_succ enough)]
      simp

theorem readString_quoted (s : String) (fuel : Nat) (enough : s.toList.length < fuel) :
    readString fuel .start ((s.toList.flatMap escapeChar).map some ++ some '"' :: rest) =
      .ok (.ok s, rest) := by
  rw [StringState.start, readString_escaped fuel [] s.toList enough]
  simp

/-! ## Numbers -/

def Stops (rest : Source) : Prop :=
  ∀ c, rest.head? = some (some c) → isAsciiDigit c = false ∧ c ≠ '.' ∧ c ≠ 'e' ∧ c ≠ 'E'

theorem digits_append {ds : List Char} (digits : ∀ c ∈ ds, isAsciiDigit c = true)
    (stops : Stops rest) : Source.digits (ds.map some ++ rest) = (ds, rest) := by
  have all : ∀ c ∈ ds.map some, Source.isDigit c = true := by simpa [Source.isDigit] using digits
  have front : rest.takeWhile Source.isDigit = [] ∧ rest.dropWhile Source.isDigit = rest := by
    cases rest with
    | nil => exact ⟨rfl, rfl⟩
    | cons c rest =>
        cases c with
        | none => exact ⟨rfl, rfl⟩
        | some c =>
            have other := (stops c rfl).1
            simp [Source.isDigit, other]
  rw [Source.digits, List.takeWhile_append_of_pos all, List.dropWhile_append_of_pos all, front.1,
    front.2]
  simp

theorem significandOf_eq (acc : Nat) (ds : List Char)
    (small : ds.foldl (fun n c => 10 * n + (c.toNat - '0'.toNat)) acc < Nat.pow 2 64) :
    significandOf acc ds =
      (ds.foldl (fun n c => 10 * n + (c.toNat - '0'.toNat)) acc, ds.length, []) := by
  induction ds generalizing acc with
  | nil => rfl
  | cons c ds ih =>
      have grows (ds : List Char) (n : Nat) :
          n ≤ ds.foldl (fun n c => 10 * n + (c.toNat - '0'.toNat)) n := by
        induction ds generalizing n with
        | nil => exact Nat.le_refl n
        | cons c ds ih => exact Nat.le_trans (show n ≤ 10 * n + _ by omega) (ih _)
      have next := Nat.lt_of_le_of_lt (grows ds _) small
      rw [significandOf, if_pos next, ih _ small]
      rfl

theorem significandOf_natDigits {n : Nat} (small : n < Nat.pow 2 64) :
    significandOf 0 (Decimal.natDigits n) = (n, (Decimal.natDigits n).length, []) := by
  have value := Decimal.digitsValue_natDigits n
  unfold digitsValue at value
  rw [significandOf_eq 0 _ (value.symm ▸ small), value]

theorem Stops.head_ne (stops : Stops rest) {c : Char} (tail : Source)
    (goes : isAsciiDigit c = true ∨ c = '.' ∨ c = 'e' ∨ c = 'E') : rest ≠ some c :: tail := by
  rintro rfl
  obtain ⟨digit, point, small, large⟩ := stops c rfl
  simp_all

theorem readNumber_digits (n : Nat) (negative : Bool) (stops : Stops rest) :
    readNumber ((if negative then [some '-'] else []) ++
        ((Decimal.natDigits n).map some ++ rest)) =
      (.num (Numeral.value ⟨negative, Decimal.natDigits n, none, none⟩), some rest) := by
  have ends := digits_append (fun c => Decimal.isAsciiDigit_of_mem (n := n)) stops
  have single := @Decimal.eq_zero_of_head n
  have digit : ∀ d ∈ Decimal.natDigits n, isAsciiDigit d = true :=
    fun d => Decimal.isAsciiDigit_of_mem
  have filled := Decimal.natDigits_ne_nil n
  generalize Decimal.natDigits n = ds at ends single digit filled
  unfold readNumber
  split
  rename_i sign s signed
  obtain ⟨rfl, rfl⟩ : sign = negative ∧ s = ds.map some ++ rest := by
    cases negative with
    | true =>
        cases signed
        exact ⟨rfl, rfl⟩
    | false =>
        simp only [Bool.false_eq_true, if_false, List.nil_append] at signed
        split at signed
        · rename_i minus
          obtain ⟨d, more, rfl⟩ := List.exists_cons_of_ne_nil filled
          cases minus
          cases digit '-' List.mem_cons_self
        · cases signed
          exact ⟨rfl, rfl⟩
  simp only [ends]
  split
  · exact absurd rfl filled
  · cases (single rfl).2
  · split
    · exact absurd rfl (stops.head_ne _ (.inr (.inl rfl)))
    · split
      · exact absurd rfl (stops.head_ne _ (.inr (.inr (.inl rfl))))
      · exact absurd rfl (stops.head_ne _ (.inr (.inr (.inr rfl))))
      · rfl

def Fits (n : Int) : Prop := -2 ^ 63 ≤ n ∧ n < 2 ^ 64

theorem readNumber_intChars {n : Int} (fits : Fits n) (stops : Stops rest) :
    readNumber ((intChars n).map some ++ rest) = (.num (.ok (.int n)), some rest) := by
  obtain ⟨least, most⟩ := fits
  cases n with
  | ofNat n =>
      have small : n < Nat.pow 2 64 := Int.ofNat_lt.1 most
      have read := readNumber_digits n false stops
      simp only [Bool.false_eq_true, if_false, List.nil_append] at read
      rw [intChars, read, Numeral.value, significandOf_natDigits small]
      rfl
  | negSucc n =>
      have small : n + 1 ≤ 2 ^ 63 := by omega
      have read := readNumber_digits (n + 1) true stops
      rw [intChars, List.map_cons, List.cons_append]
      refine read.trans ?_
      rw [Numeral.value, significandOf_natDigits (Nat.lt_of_le_of_lt small (by decide))]
      simp only [Option.isNone_none, List.isEmpty_nil, Bool.and_self, if_true, Bool.not_true,
        Bool.false_eq_true, if_false]
      rw [if_neg]
      · rfl
      · rintro (zero | large)
        · cases zero
        · exact absurd small (Nat.not_le_of_lt large)

/-! ## Values -/

instance (n : Int) : Decidable (Fits n) := inferInstanceAs (Decidable (_ ∧ _))

namespace Value

mutual

def isWhole : Value → Bool
  | .num (.int n) => decide (Fits n)
  | .num (.float _) => false
  | .arr items => areWhole items
  | .obj fields => haveWhole fields
  | _ => true

def areWhole : List Value → Bool
  | [] => true
  | v :: rest => isWhole v && areWhole rest

def haveWhole : List (String × Value) → Bool
  | [] => true
  | (_, v) :: rest => isWhole v && haveWhole rest

end

end Value

theorem readWord_append (node : Doc) (word : List Char) (rest : Source) :
    readWord node word (word.map some ++ rest) = (node, some rest) := by
  induction word with
  | nil => rfl
  | cons c word ih => simp [readWord, ih]

theorem skipSpace_cons {c : Char} (visible : Source.isSpace (some c) = false) (rest : Source) :
    Source.skipSpace (some c :: rest) = some c :: rest := by
  rw [Source.skipSpace, List.dropWhile_cons, visible]
  rfl

theorem stops_cons {c : Char} (sign : c ∈ [',', ':', ']', '\x7d']) (rest : Source) :
    Stops (some c :: rest) := by
  intro d first
  cases first
  simp only [List.mem_cons, List.not_mem_nil, or_false] at sign
  rcases sign with rfl | rfl | rfl | rfl <;> decide

theorem stops_itemsChars (items : List Value) (rest : Source) :
    Stops ((Value.itemsChars items).map some ++ rest) := by
  cases items <;> exact stops_cons (by decide) _

theorem stops_fieldsChars (fields : List (String × Value)) (rest : Source) :
    Stops ((Value.fieldsChars fields).map some ++ rest) := by
  cases fields <;> exact stops_cons (by decide) _

theorem intChars_head (n : Int) :
    ∃ c cs, intChars n = c :: cs ∧ (c = '-' ∨ isAsciiDigit c = true) := by
  cases n with
  | ofNat n =>
      obtain ⟨c, cs, shape⟩ := List.exists_cons_of_ne_nil (Decimal.natDigits_ne_nil n)
      exact ⟨c, cs, shape, .inr (Decimal.isAsciiDigit_of_mem (n := n) (by simp [shape]))⟩
  | negSucc n => exact ⟨'-', _, rfl, .inl rfl⟩

theorem number_head {c : Char} (first : c = '-' ∨ isAsciiDigit c = true) :
    ∀ d ∈ [' ', '\n', '\t', '\r', '"', '[', ']', '\x7b', 'n', 't', 'f'], c ≠ d := by
  rintro d member rfl
  have none : [' ', '\n', '\t', '\r', '"', '[', ']', '\x7b', 'n', 't', 'f'].all
      (fun d => !(d == '-' || isAsciiDigit d)) = true := by decide
  have other := List.all_eq_true.1 none c member
  rcases first with sign | digit
  · simp [sign] at other
  · simp [digit] at other

theorem readValue_int {n : Int} (fits : Fits n) (stops : Stops rest) (fuel : Nat) :
    readValue (fuel + 1) ((intChars n).map some ++ rest) = (.num (.ok (.int n)), some rest) := by
  have read := readNumber_intChars fits stops
  obtain ⟨c, cs, shape, first⟩ := intChars_head n
  have other := number_head first
  have visible : Source.isSpace (some c) = false := by
    simp [Source.isSpace, other]
  rw [shape, List.map_cons, List.cons_append] at read ⊢
  rw [readValue, skipSpace_cons visible]
  split
  all_goals rename_i same
  all_goals cases same
  all_goals first
    | exact absurd rfl (other _ (by decide))
    | rw [if_pos first, read]

theorem length_le_escaped (cs : List Char) : cs.length ≤ (cs.flatMap escapeChar).length := by
  induction cs with
  | nil => exact Nat.le_refl 0
  | cons c cs ih =>
      have one : 1 ≤ (escapeChar c).length := by
        have shape := escaped c
        generalize escapeChar c = text at shape
        cases shape <;> simp
      rw [List.flatMap_cons, List.length_append, List.length_cons]
      omega

theorem readValue_quote (rest : Source) (fuel : Nat) :
    readValue (fuel + 1) (some '"' :: rest) =
      match readString (rest.length + 1) .start rest with
      | .ok (value, rest) => (.str value, some rest)
      | .error (read, skipped) => (.broken read skipped read, none) := by
  rw [readValue, skipSpace_cons (by decide)]
  rfl

theorem readValue_str (s : String) (rest : Source) (fuel : Nat) :
    readValue (fuel + 1) ((quoteChars s.toList).map some ++ rest) = (.str (.ok s), some rest) := by
  have quoted : (quoteChars s.toList).map some ++ rest =
      some '"' :: ((s.toList.flatMap escapeChar).map some ++ some '"' :: rest) := by
    simp [quoteChars]
  have short := length_le_escaped s.toList
  rw [quoted, readValue_quote, readString_quoted]
  simp only [List.length_append, List.length_map, List.length_cons]
  omega

theorem chars_head (v : Value) (whole : v.isWhole = true) :
    ∃ c cs, v.chars = c :: cs ∧ Source.isSpace (some c) = false ∧ c ≠ ']' := by
  cases v with
  | null => exact ⟨_, _, rfl, by decide, by decide⟩
  | bool b => cases b <;> exact ⟨_, _, rfl, by decide, by decide⟩
  | num n =>
      cases n with
      | float x => cases whole
      | int n =>
          obtain ⟨c, cs, shape, first⟩ := intChars_head n
          have other := number_head first
          exact ⟨c, cs, shape, by simp [Source.isSpace, other], other _ (by decide)⟩
  | str s => exact ⟨_, _, rfl, by decide, by decide⟩
  | arr items => cases items <;> exact ⟨_, _, rfl, by decide, by decide⟩
  | obj fields => cases fields <;> exact ⟨_, _, rfl, by decide, by decide⟩

theorem skipSpace_chars {v : Value} (whole : v.isWhole = true) (rest : Source) :
    Source.skipSpace (v.chars.map some ++ rest) = v.chars.map some ++ rest := by
  obtain ⟨c, cs, shape, visible, -⟩ := chars_head v whole
  rw [shape, List.map_cons, List.cons_append, skipSpace_cons visible]

theorem readValue_bracket {s : Source} (filled : ∀ r, Source.skipSpace s ≠ some ']' :: r)
    (fuel : Nat) :
    readValue (fuel + 1) (some '[' :: s) =
      (.arr (readItems fuel (Source.skipSpace s)).1 (readItems fuel (Source.skipSpace s)).2.1,
        (readItems fuel (Source.skipSpace s)).2.2) := by
  have opens : Source.isSpace (some '[') = false := by decide
  simp only [readValue, skipSpace_cons opens]

theorem readValue_brace {s : Source} (filled : ∀ r, Source.skipSpace s ≠ some '\x7d' :: r)
    (fuel : Nat) :
    readValue (fuel + 1) (some '\x7b' :: s) =
      (.obj (readFields fuel (Source.skipSpace s)).1 (readFields fuel (Source.skipSpace s)).2.1,
        (readFields fuel (Source.skipSpace s)).2.2) := by
  have opens : Source.isSpace (some '\x7b') = false := by decide
  simp only [readValue, skipSpace_cons opens]

def afterItem (fuel : Nat) (item : Doc) (s : Source) : List Doc × Option Fault × Option Source :=
  match Source.skipSpace s with
  | some ']' :: rest => ([item], none, some rest)
  | some ',' :: rest =>
      match readItems fuel rest with
      | (items, close, rest) => (item :: items, close, rest)
  | [] => ([item], some .truncated, none)
  | _ => ([item], some .malformed, none)

def afterField (fuel : Nat) (field : Except Fault String × Doc) (s : Source) :
    List (Except Fault String × Doc) × Option Fault × Option Source :=
  match Source.skipSpace s with
  | some '\x7d' :: rest => ([field], none, some rest)
  | some ',' :: rest =>
      match readFields fuel rest with
      | (fields, close, rest) => (field :: fields, close, rest)
  | [] => ([field], some .truncated, none)
  | _ => ([field], some .malformed, none)

section
variable {s : Source} {item : Doc} {field : Except Fault String × Doc}

theorem readItems_item (read : readValue fuel s = (item, some rest)) :
    readItems (fuel + 1) s = afterItem fuel item rest := by
  rw [readItems, read]
  rfl

theorem afterItem_comma :
    afterItem fuel item (some ',' :: rest) =
      (item :: (readItems fuel rest).1, (readItems fuel rest).2) := by
  rw [afterItem, skipSpace_cons (by decide)]
  rfl

theorem afterField_comma :
    afterField fuel field (some ',' :: rest) =
      (field :: (readFields fuel rest).1, (readFields fuel rest).2) := by
  rw [afterField, skipSpace_cons (by decide)]
  rfl

theorem readFields_field {k : String} (read : readValue fuel s = (item, some rest)) :
    readFields (fuel + 1) ((quoteChars k.toList).map some ++ some ':' :: s) =
      afterField fuel (.ok k, item) rest := by
  have quoted : (quoteChars k.toList).map some ++ some ':' :: s =
      some '"' :: ((k.toList.flatMap escapeChar).map some ++ some '"' :: some ':' :: s) := by
    simp [quoteChars]
  have short := length_le_escaped k.toList
  have key : readString (((k.toList.flatMap escapeChar).map some ++
      some '"' :: some ':' :: s).length + 1) .start _ = .ok (.ok k, some ':' :: s) :=
    readString_quoted k _ (by
      simp only [List.length_append, List.length_map, List.length_cons]
      omega)
  rw [quoted, readFields, skipSpace_cons (by decide)]
  split
  · rename_i same
    cases same
    rw [key]
    dsimp only
    rw [skipSpace_cons (by decide)]
    split
    · rename_i same
      cases same
      rw [read]
      rfl
    · contradiction
    · rename_i other _
      exact absurd rfl (other _)
  · contradiction
  · rename_i other _
    exact absurd rfl (other _)

end

mutual

theorem readValue_chars (v : Value) (whole : v.isWhole = true) (rest : Source)
    (stops : Stops rest) (fuel : Nat) (enough : 2 * v.chars.length ≤ fuel) :
    readValue fuel (v.chars.map some ++ rest) = (v.toDoc, some rest) := by
  obtain ⟨fuel, rfl⟩ : ∃ n, fuel = n + 1 := by
    obtain ⟨c, cs, shape, -⟩ := chars_head v whole
    exact ⟨fuel - 1, by rw [shape, List.length_cons] at enough; omega⟩
  match v with
  | .null => exact readWord_append .null ['u', 'l', 'l'] rest
  | .bool true => exact readWord_append (.bool true) ['r', 'u', 'e'] rest
  | .bool false => exact readWord_append (.bool false) ['a', 'l', 's', 'e'] rest
  | .num (.int n) => exact readValue_int (of_decide_eq_true whole) stops fuel
  | .str s => exact readValue_str s rest fuel
  | .arr [] => rfl
  | .arr (v :: items) =>
      obtain ⟨first, whole⟩ := Bool.and_eq_true_iff.1 whole
      rw [Value.chars, List.length_append, List.length_cons] at enough
      obtain ⟨fuel, rfl⟩ : ∃ n, fuel = n + 1 := ⟨fuel - 1, by omega⟩
      have text : (Value.chars (.arr (v :: items))).map some ++ rest =
          some '[' :: (v.chars.map some ++ ((Value.itemsChars items).map some ++ rest)) := by
        simp [Value.chars]
      have filled (r : Source) : Source.skipSpace
          (v.chars.map some ++ ((Value.itemsChars items).map some ++ rest)) ≠ some ']' :: r := by
        obtain ⟨c, cs, shape, -, opens⟩ := chars_head v first
        rw [skipSpace_chars first, shape]
        simp [opens]
      rw [text, readValue_bracket filled, skipSpace_chars first,
        readItems_item (readValue_chars v first _ (stops_itemsChars items rest) fuel (by omega)),
        afterItem_chars items whole _ rest fuel (by omega)]
      rfl
  | .obj [] => rfl
  | .obj ((k, v) :: fields) =>
      obtain ⟨first, whole⟩ := Bool.and_eq_true_iff.1 whole
      simp only [Value.chars, List.length_append, List.length_cons] at enough
      obtain ⟨fuel, rfl⟩ : ∃ n, fuel = n + 1 := ⟨fuel - 1, by omega⟩
      have text : (Value.chars (.obj ((k, v) :: fields))).map some ++ rest =
          some '\x7b' :: ((quoteChars k.toList).map some ++ some ':' :: (v.chars.map some ++
            ((Value.fieldsChars fields).map some ++ rest))) := by
        simp [Value.chars]
      have visible (rest : Source) : Source.skipSpace ((quoteChars k.toList).map some ++ rest) =
          (quoteChars k.toList).map some ++ rest := skipSpace_cons (by decide) _
      have filled (r : Source) : Source.skipSpace ((quoteChars k.toList).map some ++ some ':' ::
          (v.chars.map some ++ ((Value.fieldsChars fields).map some ++ rest))) ≠
            some '\x7d' :: r := by
        rw [visible]
        simp [quoteChars]
      rw [text, readValue_brace filled, visible,
        readFields_field
          (readValue_chars v first _ (stops_fieldsChars fields rest) fuel (by omega)),
        afterField_chars fields whole _ rest fuel (by omega)]
      rfl

theorem afterItem_chars (items : List Value) (whole : Value.areWhole items = true) (item : Doc)
    (rest : Source) (fuel : Nat) (enough : 2 * (Value.itemsChars items).length ≤ fuel) :
    afterItem fuel item ((Value.itemsChars items).map some ++ rest) =
      (item :: Value.itemDocs items, none, some rest) := by
  match items with
  | [] => rfl
  | v :: items =>
      obtain ⟨first, whole⟩ := Bool.and_eq_true_iff.1 whole
      rw [Value.itemsChars, List.length_append, List.length_cons] at enough
      obtain ⟨fuel, rfl⟩ : ∃ n, fuel = n + 1 := ⟨fuel - 1, by omega⟩
      have text : (Value.itemsChars (v :: items)).map some ++ rest =
          some ',' :: (v.chars.map some ++ ((Value.itemsChars items).map some ++ rest)) := by
        simp [Value.itemsChars]
      rw [text, afterItem_comma,
        readItems_item (readValue_chars v first _ (stops_itemsChars items rest) fuel (by omega)),
        afterItem_chars items whole _ rest fuel (by omega)]
      rfl

theorem afterField_chars (fields : List (String × Value)) (whole : Value.haveWhole fields = true)
    (field : Except Fault String × Doc) (rest : Source) (fuel : Nat)
    (enough : 2 * (Value.fieldsChars fields).length ≤ fuel) :
    afterField fuel field ((Value.fieldsChars fields).map some ++ rest) =
      (field :: Value.fieldDocs fields, none, some rest) := by
  match fields with
  | [] => rfl
  | (k, v) :: fields =>
      obtain ⟨first, whole⟩ := Bool.and_eq_true_iff.1 whole
      simp only [Value.fieldsChars, List.length_append, List.length_cons] at enough
      obtain ⟨fuel, rfl⟩ : ∃ n, fuel = n + 1 := ⟨fuel - 1, by omega⟩
      have text : (Value.fieldsChars ((k, v) :: fields)).map some ++ rest =
          some ',' :: ((quoteChars k.toList).map some ++ some ':' :: (v.chars.map some ++
            ((Value.fieldsChars fields).map some ++ rest))) := by
        simp [Value.fieldsChars]
      rw [text, afterField_comma,
        readFields_field
          (readValue_chars v first _ (stops_fieldsChars fields rest) fuel (by omega)),
        afterField_chars fields whole _ rest fuel (by omega)]
      rfl

end

/-! ## Whole texts -/

def Value.wire (v : Value) : Source := .ofBytes v.text.toUTF8.toList

theorem ofSource_wire (v : Value) (whole : v.isWhole = true) :
    Document.ofSource v.wire = ⟨v.toDoc, none⟩ := by
  have source : v.wire = v.chars.map some := by
    rw [Value.wire, Source.ofBytes, Text.Utf8.decode_toUTF8, Value.text, String.toList_ofList]
  have read := readValue_chars v whole [] nofun (2 * (v.chars.map some).length + 2) (by
    rw [List.length_map]
    omega)
  rw [List.append_nil] at read
  rw [source, Document.ofSource, read]
  rfl

theorem decode_wire {α : Type} (read : Reader α) (v : Value) (whole : v.isWhole = true) :
    decode read v.wire = read (.text depthLimit) v.toDoc := by
  rw [decode, ofSource_wire v whole]
  cases read (.text depthLimit) v.toDoc <;> rfl

end Overseer.Json
