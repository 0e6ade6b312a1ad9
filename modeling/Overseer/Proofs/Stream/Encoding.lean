import Mathlib
import Overseer.Proofs.Decimal.Digits
import Overseer.Proofs.Stream.Grammar

/-!
# Messages said and understood

A message is said in one line if it has no line breaks and cannot be mistaken for an opening, and as
a block otherwise. A parser that hears messages said so, one after the other, gives them back, as
long as no line of theirs is one that the protocol drops, cuts or takes for the end of a block.
-/

namespace Overseer.Stream

def linesOf (text : List Char) : List (List Char) := text.splitOn '\n'

def isBrief (content : List Char) : Bool := !content.contains '\n' && content.head? != some ':'

def said (level : Level) (content : List Char) : List (List Char) :=
  let number := level.text.toList
  if isBrief content then [number ++ ':' :: ':' :: content]
  else (number ++ (Parser.closing ++ (linesOf content).headD [])) ::
    ((linesOf content).tail ++ [Parser.closing])

def encode (m : Message) : List String := (said m.level m.content.toList).map String.ofList

/-- A text that arrives as it was sent: no line of it is cut, and after the first one no line is
skipped or ends the block. -/
structure Sayable (content : List Char) : Prop where
  uncut : ∀ line ∈ linesOf content, line.getLast? ≠ some '\r'
  heard : ∀ line ∈ (linesOf content).tail, line ≠ [] ∧ line ≠ Parser.closing

instance (content : List Char) : Decidable (Sayable content) :=
  decidable_of_iff
    ((∀ line ∈ linesOf content, line.getLast? ≠ some '\r') ∧
      ∀ line ∈ (linesOf content).tail, line ≠ [] ∧ line ≠ Parser.closing)
    ⟨fun both => ⟨both.1, both.2⟩, fun sayable => ⟨sayable.uncut, sayable.heard⟩⟩

/-! ## The lines of a text -/

theorem linesOf_eq_cons (text : List Char) :
    linesOf text = (linesOf text).headD [] :: (linesOf text).tail := by
  cases found : linesOf text with
  | nil => exact absurd found (List.splitOn_ne_nil _ _)
  | cons => rfl

theorem linesOf_unbroken {text : List Char} (unbroken : '\n' ∉ text) : linesOf text = [text] :=
  List.splitOn_eq_singleton unbroken

theorem intercalate_linesOf (text : List Char) :
    ['\n'].intercalate ((linesOf text).headD [] :: (linesOf text).tail) = text := by
  rw [← linesOf_eq_cons, linesOf, List.intercalate_splitOn]

/-! ## The level of a message -/

theorem text_toList (level : Level) : level.text.toList = Decimal.natDigits level.toNat :=
  Decimal.toList_toString level.toNat

theorem isAsciiDigit_of_text {level : Level} {c : Char} (member : c ∈ level.text.toList) :
    Text.isAsciiDigit c = true :=
  Decimal.isAsciiDigit_of_mem (text_toList level ▸ member)

theorem text_ne_nil (level : Level) : level.text.toList ≠ [] :=
  text_toList level ▸ Decimal.natDigits_ne_nil level.toNat

theorem digitsValue_text (level : Level) : Text.digitsValue level.text.toList = level.toNat := by
  rw [text_toList, Decimal.digitsValue_natDigits]

theorem toNat_le (level : Level) : level.toNat ≤ 65535 :=
  Nat.le_of_lt_succ level.code.toNat_lt

theorem ofNat_toNat (level : Level) : Level.ofNat level.toNat = level := by
  simp [Level.ofNat, Level.toNat]

def Numeral.ofLevel (level : Level) : Numeral where
  digits := level.text.toList
  nonempty := text_ne_nil level
  decimal _ := isAsciiDigit_of_text
  small := by
    rw [digitsValue_text]
    exact toNat_le level

theorem Numeral.level_ofLevel (level : Level) : (Numeral.ofLevel level).level = level := by
  rw [Numeral.level, Numeral.ofLevel, digitsValue_text, ofNat_toNat]

/-! ## What is said is heard -/

theorem Parser.chomp_eq {line : List Char} (uncut : line.getLast? ≠ some '\r') :
    chomp line = line := by
  unfold chomp
  split
  · rename_i cut
    exact absurd cut uncut
  · rfl

theorem heard_eq_self {lines : List (List Char)}
    (whole : ∀ line ∈ lines, line ≠ [] ∧ line.getLast? ≠ some '\r') :
    heard (lines.map String.ofList) = lines := by
  induction lines with
  | nil => rfl
  | cons line rest ih =>
      rw [List.forall_mem_cons] at whole
      rw [List.map_cons, heard_cons, String.toList_ofList, Parser.chomp_eq whole.1.2,
        if_neg whole.1.1, ih whole.2]

theorem uncut_append {front line : List Char} (head : front.getLast? ≠ some '\r')
    (uncut : line.getLast? ≠ some '\r') : (front ++ line).getLast? ≠ some '\r' := by
  cases line with
  | nil => simpa using head
  | cons c rest => rwa [List.getLast?_append_of_ne_nil _ (by simp)]

theorem uncut_text (level : Level) : level.text.toList.getLast? ≠ some '\r' := by
  intro last
  exact absurd (isAsciiDigit_of_text (List.mem_of_getLast? last)) (by decide)

theorem whole_of_said {level : Level} {content : List Char} (sayable : Sayable content) :
    ∀ line ∈ said level content, line ≠ [] ∧ line.getLast? ≠ some '\r' := by
  have uncut := sayable.uncut
  unfold said
  split
  · rename_i brief
    have unbroken : '\n' ∉ content := by
      intro broken
      simp [isBrief, broken] at brief
    rw [linesOf_unbroken unbroken, List.forall_mem_singleton] at uncut
    rw [List.forall_mem_singleton]
    have colons : ([':', ':'] ++ content).getLast? ≠ some '\r' := uncut_append (by decide) uncut
    exact ⟨by simp, uncut_append (uncut_text level) colons⟩
  · rw [linesOf_eq_cons, List.forall_mem_cons] at uncut
    rw [List.forall_mem_cons]
    refine ⟨⟨by simp [Parser.closing], ?_⟩, ?_⟩
    · exact uncut_append (uncut_text level) (uncut_append (by decide) uncut.1)
    · intro line member
      rcases List.mem_append.1 member with inside | last
      · exact ⟨(sayable.heard line inside).1, uncut.2 line inside⟩
      · rw [List.mem_singleton.1 last]
        decide

/-! ## What is said is a segment -/

theorem exists_segment (level : Level) {content : List Char} (sayable : Sayable content) :
    ∃ s : Segment, s.lines = said level content ∧
      ∀ default, s.message default = (level, content) := by
  unfold said
  split
  · rename_i brief
    have narrow : content.head? ≠ some ':' := by
      intro colon
      simp [isBrief, colon] at brief
    refine ⟨.single (.ofLevel level) content narrow, rfl, fun default => ?_⟩
    rw [Segment.message, Numeral.level_ofLevel]
  · have unended : Parser.closing ∉ (linesOf content).tail := by
      intro member
      exact (sayable.heard _ member).2 rfl
    refine ⟨.closed ⟨.ofLevel level, (linesOf content).headD [], _, unended⟩, rfl,
      fun default => ?_⟩
    rw [Segment.message, Block.message, Numeral.level_ofLevel, intercalate_linesOf]

theorem exists_transcript {ms : List Message} (sayable : ∀ m ∈ ms, Sayable m.content.toList) :
    ∃ t : Transcript, t.unclosed = none ∧ t.lines = heard (ms.flatMap encode) ∧
      ∀ default, t.messages default = ms.map fun m => (m.level, m.content.toList) := by
  induction ms with
  | nil => exact ⟨⟨[], none⟩, rfl, rfl, fun _ => rfl⟩
  | cons m rest ih =>
      rw [List.forall_mem_cons] at sayable
      obtain ⟨s, lines, message⟩ := exists_segment m.level sayable.1
      obtain ⟨⟨segments, unclosed⟩, rfl, others, messages⟩ := ih sayable.2
      refine ⟨⟨s :: segments, none⟩, rfl, ?_, fun default => ?_⟩
      · rw [Transcript.lines_cons, lines, others, List.flatMap_cons, heard_append, encode,
          heard_eq_self (whole_of_said sayable.1)]
      · rw [Transcript.messages, List.map_cons, message, List.map_cons]
        exact congrArg _ (messages default)

/-- A parser that hears messages said one after the other gives them back in order, and no block is
left open. -/
theorem messages_understood (default : Level) (ms : List Message)
    (sayable : ∀ m ∈ ms, Sayable m.content.toList) :
    ((Parser.new default).feedAll (ms.flatMap encode)).2 =
        ms.map (fun m => Message.new m.level m.content) ∧
      ((Parser.new default).feedAll (ms.flatMap encode)).1.isOpen = false := by
  obtain ⟨⟨segments, unclosed⟩, rfl, read, messages⟩ := exists_transcript sayable
  rw [Parser.feedAll_eq, ← read, Parser.hearAll_lines, messages]
  refine ⟨?_, rfl⟩
  simp

def confusable : List Message :=
  [.new .stdout "7::x", .new .exitState ":::", .new .resultJson "\n5:::a\n12::b", .new ⟨65535⟩ ""]

def confusableLines : List String :=
  ["1::7::x", "50::::::", ":::", "20:::", "5:::a", "12::b", ":::", "65535::"]

theorem messages_understood_confusable :
    (∀ m ∈ confusable, Sayable m.content.toList) ∧
      ((Parser.new .stderr).feedAll confusableLines).2 = confusable ∧
      ((Parser.new .stderr).feedAll confusableLines).1.isOpen = false := by
  have sayable : ∀ m ∈ confusable, Sayable m.content.toList := by decide +kernel
  have lines : confusable.flatMap encode = confusableLines := by decide +kernel
  have understood := messages_understood .stderr confusable sayable
  rw [lines] at understood
  exact ⟨sayable, understood⟩

end Overseer.Stream
