import Overseer.Proofs.Text.Cutting
import Overseer.Stats.Sample

/-!
# The grammar of a sample line

A sample is written `key:value|type` or `key:value|type|@rate`, where the key has no colon and the
value no bar (`Written`). A line is cut at its first colon and then at the bars
(`parseChars_eq_ok_iff`), so that what is written is read back; but what stands behind another bar
is not looked at once a rate was read.
-/

namespace Overseer.Decimal

variable {s : List Char}

/-! ## A bar is in no number -/

theorem bar_mem_rest (member : '|' ∈ s) : '|' ∈ (leadingDigits s).2 := by
  rw [← List.takeWhile_append_dropWhile (p := Text.isAsciiDigit) (l := s)] at member
  rcases List.mem_append.1 member with digit | rest
  · exact absurd (List.mem_takeWhile_imp digit) (by decide)
  · exact rest

theorem readExponent_bar (member : '|' ∈ s) : readExponent s = none := by
  cases s with
  | nil => cases member
  | cons c rest =>
      simp only [readExponent]
      by_cases mark : c = 'e' ∨ c = 'E'
      · have behind : '|' ∈ rest := by
          refine (List.mem_cons.1 member).resolve_left ?_
          rintro rfl
          revert mark
          decide
        have unread {negative : Bool} {rest : List Char} (member : '|' ∈ rest) :
            (if (leadingDigits rest).1.isEmpty || !(leadingDigits rest).2.isEmpty then none
              else some (if negative then -((Text.digitsValue (leadingDigits rest).1 : Nat) : Int)
                else (Text.digitsValue (leadingDigits rest).1 : Nat))) = none := by
          have tail := List.ne_nil_of_mem (bar_mem_rest member)
          simp [tail]
        rw [if_pos mark]
        split
        · exact unread (by simpa using behind)
        · exact unread (by simpa using behind)
        · exact unread behind
      · rw [if_neg mark]

theorem readMagnitude_bar (member : '|' ∈ s) : readMagnitude s = none := by
  have lower : '|' ∈ Text.lowerAscii s := List.mem_map.2 ⟨'|', member, by decide⟩
  have word {w : List Char} (plain : '|' ∉ w) : Text.lowerAscii s ≠ w := by
    rintro rfl
    exact plain lower
  have behind := bar_mem_rest member
  simp only [readMagnitude, word (w := ['i', 'n', 'f']) (by decide),
    word (w := ['i', 'n', 'f', 'i', 'n', 'i', 't', 'y']) (by decide),
    word (w := ['n', 'a', 'n']) (by decide), or_self, if_false]
  split
  · rename_i point
    rw [point] at behind
    rw [readExponent_bar (bar_mem_rest (by simpa using behind))]
    simp
  · rw [readExponent_bar behind]
    simp

theorem read?_bar (member : '|' ∈ s) : read? s = none := by
  simp only [read?]
  split
  · rw [readMagnitude_bar (by simpa using member)]
    rfl
  · rw [readMagnitude_bar (by simpa using member)]
    rfl
  · rw [readMagnitude_bar member]
    rfl

end Overseer.Decimal

namespace Overseer.Stats

theorem Kind.ofName?_name (kind : Kind) : ofName? kind.name = some kind := by
  cases kind <;> rfl

theorem Kind.ofName?_eq_some_iff {name : String} {kind : Kind} :
    ofName? name = some kind ↔ name = kind.name := by
  constructor
  · intro named
    unfold ofName? at named
    split at named <;> cases named <;> rfl
  · rintro rfl
    exact kind.ofName?_name

theorem Kind.name_ends (kind : Kind) :
    kind.name.toList ≠ [] ∧ '|' ∉ kind.name.toList ∧
      ∀ c, kind.name.toList.getLast? = some c → Text.isBlank c = false := by
  cases kind <;> simp [name] <;> decide

namespace Sample

variable {s : Sample} {line : List Char}

def front (s : Sample) : List Char :=
  s.key.toList ++ ':' :: (s.value.toList ++ '|' :: s.kind.name.toList)

/-- A sample that can be written down. -/
structure IsProper (s : Sample) : Prop where
  named : s.key ≠ ""
  plain : ':' ∉ s.key.toList
  filled : s.value ≠ ""
  whole : '|' ∉ s.value.toList

structure IsRate (digits : List Char) (rate : Float) : Prop where
  read : Decimal.read? digits = some rate
  positive : 0.0 < rate

/-- How a sample is written; a rate of one may be left out. -/
inductive Written (s : Sample) : List Char → Prop where
  | plain (proper : s.IsProper) (rate : s.rate = 1.0) : Written s s.front
  | rated (proper : s.IsProper) {digits : List Char} (rate : IsRate digits s.rate) :
      Written s (s.front ++ '|' :: '@' :: digits)

theorem readRate_eq_some_iff {flag : List Char} {rate : Float} :
    readRate flag = some rate ↔ ∃ digits, flag = '@' :: digits ∧ IsRate digits rate := by
  unfold readRate
  split
  · rename_i digits
    rw [Option.filter_eq_some_iff, decide_eq_true_iff]
    constructor
    · rintro ⟨read, positive⟩
      exact ⟨digits, rfl, read, positive⟩
    · rintro ⟨_, same, read, positive⟩
      cases same
      exact ⟨read, positive⟩
  · rename_i other
    constructor
    · nofun
    · rintro ⟨digits, rfl, -⟩
      exact absurd rfl (other digits)

def rateOf : List (List Char) → Option Float
  | [] => some 1.0
  | flag :: _ => readRate flag

theorem parseChars_of_parts {key tail value name : List Char} {more : List (List Char)}
    {kind : Kind}
    (cut : Text.cutAt ':' line = some (key, tail))
    (parts : Text.pieces '|' tail = value :: name :: more)
    (known : Kind.ofName? (String.ofList name) = some kind) :
    parseChars line =
      match rateOf more with
      | none => .error (.malformed (String.ofList line))
      | some rate =>
          if key = [] ∨ value = [] then .error (.malformed (String.ofList line))
          else .ok ⟨String.ofList key, String.ofList value, kind, rate⟩ := by
  simp only [parseChars, cut, parts, known, Bool.or_eq_true, List.isEmpty_iff]
  cases more with
  | nil => rfl
  | cons flag rest =>
      simp only [rateOf]
      cases readRate flag <;> rfl

theorem parseChars_eq_ok_iff :
    parseChars line = .ok s ↔
      s.IsProper ∧ ∃ tail more, line = s.key.toList ++ ':' :: tail ∧
        Text.pieces '|' tail = s.value.toList :: s.kind.name.toList :: more ∧
        rateOf more = some s.rate := by
  constructor
  · intro parsed
    cases cut : Text.cutAt ':' line with
    | none =>
        simp only [parseChars, cut] at parsed
        cases parsed
    | some pair =>
        obtain ⟨key, tail⟩ := pair
        match parts : Text.pieces '|' tail with
        | [] | [_] =>
            simp only [parseChars, cut, parts] at parsed
            cases parsed
        | value :: name :: more =>
            cases known : Kind.ofName? (String.ofList name) with
            | none =>
                simp only [parseChars, cut, parts, known] at parsed
                cases parsed
            | some kind =>
                rw [parseChars_of_parts cut parts known] at parsed
                obtain ⟨rfl, plain⟩ := Text.cutAt_eq_some cut
                obtain ⟨whole, -⟩ := Text.pieces_eq_cons_iff.1 parts
                have name := Kind.ofName?_eq_some_iff.1 known
                split at parsed
                · cases parsed
                · rename_i rate read
                  split at parsed
                  · cases parsed
                  · rename_i filled
                    cases parsed
                    rw [not_or] at filled
                    refine ⟨⟨?_, ?_, ?_, ?_⟩, tail, more, ?_, ?_, read⟩
                    · simpa using filled.1
                    · simpa using plain
                    · simpa using filled.2
                    · simpa using whole
                    · rw [String.toList_ofList]
                    · rw [parts, ← name, String.toList_ofList, String.toList_ofList]
  · rintro ⟨proper, tail, more, rfl, parts, rate⟩
    rw [parseChars_of_parts (Text.cutAt_append proper.plain tail) parts
      (by rw [String.ofList_toList, Kind.ofName?_name]), rate]
    simp [proper.named, proper.filled]

theorem IsRate.bar_notMem {digits : List Char} {rate : Float} (isRate : IsRate digits rate) :
    '|' ∉ '@' :: digits := by
  rw [List.mem_cons, not_or]
  refine ⟨by decide, fun member => ?_⟩
  have read := isRate.read
  rw [Decimal.read?_bar member] at read
  cases read

theorem IsRate.rateOf_eq {digits : List Char} {rate : Float} (isRate : IsRate digits rate)
    (rest : List (List Char)) : rateOf (('@' :: digits) :: rest) = some rate :=
  readRate_eq_some_iff.2 ⟨digits, rfl, isRate⟩

theorem Written.parse (written : s.Written line) : parseChars line = .ok s := by
  have short := s.kind.name_ends.2.1
  rw [parseChars_eq_ok_iff]
  cases written with
  | plain proper rate =>
      refine ⟨proper, _, [], rfl, ?_, congrArg some rate.symm⟩
      rw [Text.pieces_append proper.whole, Text.pieces_of_absent short]
  | @rated proper digits isRate =>
      refine ⟨proper, s.value.toList ++ '|' :: (s.kind.name.toList ++ '|' :: '@' :: digits), _,
        by simp [front], ?_, isRate.rateOf_eq []⟩
      rw [Text.pieces_append proper.whole, Text.pieces_append short,
        Text.pieces_of_absent isRate.bar_notMem]

theorem parse_extended (proper : s.IsProper) {digits : List Char} (isRate : IsRate digits s.rate)
    (more : List Char) : parseChars (s.front ++ '|' :: '@' :: digits ++ '|' :: more) = .ok s := by
  rw [parseChars_eq_ok_iff]
  refine ⟨proper, s.value.toList ++ '|' :: (s.kind.name.toList ++ '|' :: ('@' :: digits ++
    '|' :: more)), _, by simp [front], ?_, isRate.rateOf_eq (Text.pieces '|' more)⟩
  rw [Text.pieces_append proper.whole, Text.pieces_append s.kind.name_ends.2.1,
    Text.pieces_append isRate.bar_notMem]

theorem written_of_parse (parsed : parseChars line = .ok s) :
    s.Written line ∨ ∃ digits more, s.IsProper ∧ IsRate digits s.rate ∧
      line = s.front ++ '|' :: '@' :: digits ++ '|' :: more := by
  obtain ⟨proper, tail, more, rfl, parts, rate⟩ := parseChars_eq_ok_iff.1 parsed
  obtain ⟨-, ⟨alone, -⟩ | ⟨tail, rfl, behind⟩⟩ := Text.pieces_eq_cons_iff.1 parts
  · cases alone
  obtain ⟨-, ⟨rfl, rfl⟩ | ⟨tail, rfl, flags⟩⟩ := Text.pieces_eq_cons_iff.1 behind
  · exact .inl (.plain proper (Option.some.inj rate).symm)
  cases more with
  | nil => exact absurd flags (Text.pieces_ne_nil _ _)
  | cons flag rest =>
      obtain ⟨digits, rfl, isRate⟩ := readRate_eq_some_iff.1 rate
      obtain ⟨-, ⟨-, rfl⟩ | ⟨more, rfl, -⟩⟩ := Text.pieces_eq_cons_iff.1 flags
      · have line : s.key.toList ++ ':' :: (s.value.toList ++ '|' :: (s.kind.name.toList ++
            '|' :: '@' :: digits)) = s.front ++ '|' :: '@' :: digits := by simp [front]
        exact .inl (line ▸ .rated proper isRate)
      · exact .inr ⟨digits, more, proper, isRate, by simp [front]⟩

theorem Written.bars_le (written : s.Written line) {key tail : List Char}
    (cut : Text.cutAt ':' line = some (key, tail)) : tail.count '|' ≤ 2 := by
  have short := s.kind.name_ends.2.1
  cases written with
  | plain proper =>
      rw [front, Text.cutAt_append proper.plain] at cut
      cases cut
      simp [List.count_eq_zero_of_not_mem proper.whole, List.count_eq_zero_of_not_mem short]
  | rated proper isRate =>
      rw [front, List.append_assoc, List.cons_append, Text.cutAt_append proper.plain] at cut
      cases cut
      have digits := List.count_eq_zero_of_not_mem isRate.bar_notMem
      simp [List.count_eq_zero_of_not_mem proper.whole, List.count_eq_zero_of_not_mem short,
        digits]

theorem parse_line {key value : String} {kind : Kind} (named : key ≠ "")
    (first : ∀ c, key.toList.head? = some c → Text.isBlank c = false) (plain : ':' ∉ key.toList)
    (filled : value ≠ "") (whole : '|' ∉ value.toList) :
    Sample.parse s!"{key}:{value}|{kind.name}" = .ok ⟨key, value, kind, 1.0⟩ := by
  obtain ⟨ending, -, last⟩ := kind.name_ends
  have line : (s!"{key}:{value}|{kind.name}").toList = front ⟨key, value, kind, 1.0⟩ := by
    simp only [String.toList_append, List.append_assoc]
    rfl
  have kept : Text.trimChars (front ⟨key, value, kind, 1.0⟩) = front ⟨key, value, kind, 1.0⟩ := by
    refine Text.trimChars_eq_self (fun c head => first c ?_) fun c tail => last c ?_
    · obtain ⟨d, rest, split⟩ := List.exists_cons_of_ne_nil (mt String.toList_eq_nil_iff.1 named)
      rw [front, split] at head
      rw [split]
      exact head
    · have ends : front ⟨key, value, kind, 1.0⟩ =
          (key.toList ++ ':' :: (value.toList ++ ['|'])) ++ kind.name.toList := by simp [front]
      rwa [ends, List.getLast?_append_of_ne_nil _ ending] at tail
  rw [Sample.parse, line, kept]
  exact (Written.plain ⟨named, plain, filled, whole⟩ rfl).parse

/-- A line, white space around it left out, is read as a sample exactly if it is what the sample is
written as, or begins with a rate of the sample and has another bar behind it. -/
theorem lines_read_as_written (line : String) (s : Sample) :
    Sample.parse line = .ok s ↔
      s.Written (Text.trimChars line.toList) ∨
        ∃ digits more, s.IsProper ∧ IsRate digits s.rate ∧
          Text.trimChars line.toList = s.front ++ '|' :: '@' :: digits ++ '|' :: more := by
  constructor
  · intro parsed
    exact written_of_parse parsed
  · rintro (written | ⟨digits, more, proper, isRate, extended⟩)
    · exact written.parse
    · rw [Sample.parse, extended]
      exact parse_extended proper isRate more

/-- A line is accepted that goes on behind its rate, although no sample is written so. -/
theorem parts_behind_rate_ignored :
    (∃ s, Sample.parse "k:1|c|@0.5|x" = .ok s) ∧
      ∀ s : Sample, ¬s.Written (Text.trimChars "k:1|c|@0.5|x".toList) := by
  constructor
  · obtain ⟨rate, flag⟩ := Option.isSome_iff_exists.1
      (by decide +kernel : (readRate ['@', '0', '.', '5']).isSome)
    obtain ⟨digits, same, isRate⟩ := readRate_eq_some_iff.1 flag
    cases same
    have proper : IsProper ⟨"k", "1", .counter, rate⟩ :=
      ⟨(by decide : "k" ≠ ""), (by decide : ':' ∉ "k".toList), (by decide : "1" ≠ ""),
        (by decide : '|' ∉ "1".toList)⟩
    have line : Text.trimChars "k:1|c|@0.5|x".toList =
        "k".toList ++ ':' :: ("1".toList ++ '|' :: Kind.counter.name.toList) ++
          '|' :: '@' :: ['0', '.', '5'] ++ '|' :: ['x'] := by decide +kernel
    refine ⟨⟨"k", "1", .counter, rate⟩, ?_⟩
    rw [Sample.parse, line]
    exact parse_extended proper isRate ['x']
  · intro s written
    have cut : Text.cutAt ':' (Text.trimChars "k:1|c|@0.5|x".toList) =
        some (['k'], "1|c|@0.5|x".toList) := by decide +kernel
    exact absurd (written.bars_le cut) (by decide +kernel)

end Sample

end Overseer.Stats
