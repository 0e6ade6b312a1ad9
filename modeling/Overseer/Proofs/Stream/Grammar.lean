import Mathlib
import Overseer.Stream.Parser

/-!
# The grammar of a stream

What a stream says is a sequence of segments: plain lines, messages in one line, and blocks that are
closed. Behind them there may be one block that is still open. `Transcript` is such a reading, and
`Transcript.lines` are the lines that it stands for. Every list of lines has exactly one reading
(`exists_lines_eq`, `lines_inj`), and the parser gives the messages of this reading
(`hearAll_lines`).
-/

namespace Overseer.Stream

@[ext] structure Numeral where
  digits : List Char
  nonempty : digits ≠ []
  decimal : ∀ c ∈ digits, Text.isAsciiDigit c = true
  small : Text.digitsValue digits ≤ 65535

def Numeral.level (n : Numeral) : Level := .ofNat (Text.digitsValue n.digits)

def Numeral.heads (n : Numeral) (rest : List Char) : List Char := n.digits ++ ':' :: ':' :: rest

@[ext] structure Block where
  numeral : Numeral
  first : List Char
  body : List (List Char)
  unended : Parser.closing ∉ body

def Block.lines (b : Block) : List (List Char) := b.numeral.heads (':' :: b.first) :: b.body

def Block.message (b : Block) : Level × List Char :=
  (b.numeral.level, ['\n'].intercalate (b.first :: b.body))

inductive Segment where
  | plain (line : List Char) (unheaded : ∀ (n : Numeral) (rest : List Char), line ≠ n.heads rest)
  | single (numeral : Numeral) (rest : List Char) (narrow : rest.head? ≠ some ':')
  | closed (b : Block)

namespace Segment

def lines : Segment → List (List Char)
  | plain line _ => [line]
  | single n rest _ => [n.heads rest]
  | closed b => b.lines ++ [Parser.closing]

def message (default : Level) : Segment → Level × List Char
  | plain line _ => (default, line)
  | single n rest _ => (n.level, rest)
  | closed b => b.message

end Segment

/-- A reading of the lines of a stream. -/
structure Transcript where
  segments : List Segment
  unclosed : Option Block

namespace Transcript

def lines (t : Transcript) : List (List Char) :=
  t.segments.flatMap Segment.lines ++ t.unclosed.elim [] Block.lines

def messages (default : Level) (t : Transcript) : List (Level × List Char) :=
  t.segments.map (Segment.message default)

end Transcript

/-- What is heard of some lines: one carriage return at the end of a line does not count, and lines
without anything else are skipped. -/
def heard (lines : List String) : List (List Char) :=
  (lines.map fun line => Parser.chomp line.toList).filter (· ≠ [])

theorem heard_cons (line : String) (rest : List String) :
    heard (line :: rest) =
      if Parser.chomp line.toList = [] then heard rest
      else Parser.chomp line.toList :: heard rest := by
  by_cases skipped : Parser.chomp line.toList = [] <;> simp [heard, skipped]

theorem heard_append (before after : List String) :
    heard (before ++ after) = heard before ++ heard after := by
  simp [heard]

/-! ## The front of a line -/

variable {n m : Numeral} {rest more line : List Char}

namespace Parser

theorem takeWhile_heads (n : Numeral) (rest : List Char) :
    (n.heads rest).takeWhile Text.isAsciiDigit = n.digits := by
  rw [Numeral.heads, List.takeWhile_append_of_pos n.decimal]
  simp [Text.isAsciiDigit]

theorem dropWhile_heads (n : Numeral) (rest : List Char) :
    (n.heads rest).dropWhile Text.isAsciiDigit = ':' :: ':' :: rest := by
  rw [Numeral.heads, List.dropWhile_append_of_pos n.decimal]
  simp [Text.isAsciiDigit]

theorem head_heads (n : Numeral) (rest : List Char) :
    head (n.heads rest) =
      if rest.head? = some ':' then .opening n.level rest.tail else .single n.level rest := by
  have small : ¬65535 < Text.digitsValue n.digits := Nat.not_lt.2 n.small
  simp only [head, takeWhile_heads, dropWhile_heads, List.isEmpty_iff, n.nonempty, small, if_false]
  split
  · rename_i same
    cases same
    rfl
  · rename_i other same
    cases same
    rw [if_neg]
    · rfl
    · intro third
      obtain ⟨rest', rfl⟩ := List.head?_eq_some_iff.1 third
      exact other _ rfl
  · rename_i other
    exact absurd rfl (other rest)

theorem head_single (narrow : rest.head? ≠ some ':') :
    head (n.heads rest) = .single n.level rest := by
  rw [head_heads, if_neg narrow]

theorem head_opening (n : Numeral) (first : List Char) :
    head (n.heads (':' :: first)) = .opening n.level first := by
  rw [head_heads]
  rfl

theorem head_plain (unheaded : ∀ (n : Numeral) (rest : List Char), line ≠ n.heads rest) :
    head line = .plain := by
  have split := List.takeWhile_append_dropWhile (p := Text.isAsciiDigit) (l := line)
  have decimal : ∀ c ∈ line.takeWhile Text.isAsciiDigit, Text.isAsciiDigit c = true := by
    intro c member
    exact List.mem_takeWhile_imp member
  unfold head
  generalize line.takeWhile Text.isAsciiDigit = digits at split decimal
  generalize line.dropWhile Text.isAsciiDigit = tail at split
  by_cases nonempty : digits = []
  · simp [nonempty]
  by_cases small : Text.digitsValue digits ≤ 65535
  · -- A level is in front, so two colons must not follow.
    have apart : ∀ rest, tail ≠ ':' :: ':' :: rest := by
      rintro rest rfl
      exact unheaded ⟨digits, nonempty, decimal, small⟩ rest split.symm
    simp only [List.isEmpty_iff, nonempty, Nat.not_lt.2 small, if_false]
    split
    · exact absurd rfl (apart _)
    · exact absurd rfl (apart _)
    · rfl
  · simp [nonempty, Nat.lt_of_not_le small]

end Parser

/-! ## A list of lines has at most one reading -/

theorem Numeral.heads_inj (same : n.heads rest = m.heads more) : n = m ∧ rest = more := by
  have digits := congrArg (List.takeWhile Text.isAsciiDigit) same
  rw [Parser.takeWhile_heads, Parser.takeWhile_heads] at digits
  have behind := congrArg (List.dropWhile Text.isAsciiDigit) same
  rw [Parser.dropWhile_heads, Parser.dropWhile_heads] at behind
  exact ⟨Numeral.ext digits, by simpa using behind⟩

theorem body_inj {body body' after later : List (List Char)} (unended : Parser.closing ∉ body)
    (unended' : Parser.closing ∉ body')
    (same : body ++ Parser.closing :: after = body' ++ Parser.closing :: later) :
    body = body' ∧ after = later := by
  induction body generalizing body' with
  | nil =>
      cases body' with
      | nil => exact ⟨rfl, (List.cons.inj same).2⟩
      | cons line body' =>
          exact absurd (List.mem_cons.2 (.inl (List.cons.inj same).1)) unended'
  | cons line body ih =>
      cases body' with
      | nil => exact absurd (List.mem_cons.2 (.inl (List.cons.inj same).1.symm)) unended
      | cons line' body' =>
          rw [List.cons_append, List.cons_append, List.cons.injEq] at same
          rw [List.mem_cons, not_or] at unended unended'
          obtain ⟨rfl, rfl⟩ := ih unended.2 unended'.2 same.2
          exact ⟨by rw [same.1], rfl⟩

theorem Block.lines_inj {b c : Block} (same : b.lines = c.lines) : b = c := by
  obtain ⟨opening, body⟩ := List.cons.inj same
  obtain ⟨numeral, first⟩ := Numeral.heads_inj opening
  exact Block.ext numeral (List.cons.inj first).2 body

namespace Segment

variable {s t : Segment} {after later : List (List Char)}

def front : Segment → Parser.Head
  | plain _ _ => .plain
  | single n rest _ => .single n.level rest
  | closed b => .opening b.numeral.level b.first

theorem exists_lines_cons (s : Segment) :
    ∃ line more, s.lines = line :: more ∧ Parser.head line = s.front := by
  cases s with
  | plain line unheaded => exact ⟨line, [], rfl, Parser.head_plain unheaded⟩
  | single n rest narrow => exact ⟨_, [], rfl, Parser.head_single narrow⟩
  | closed b => exact ⟨_, _, rfl, Parser.head_opening _ _⟩

theorem closed_lines_append (b : Block) (after : List (List Char)) :
    (closed b).lines ++ after =
      b.numeral.heads (':' :: b.first) :: (b.body ++ Parser.closing :: after) := by
  simp [lines, Block.lines]

theorem front_eq (same : s.lines ++ after = t.lines ++ later) : s.front = t.front := by
  obtain ⟨line, more, lines, front⟩ := s.exists_lines_cons
  obtain ⟨line', more', lines', front'⟩ := t.exists_lines_cons
  rw [lines, lines'] at same
  rw [← front, ← front', (List.cons.inj same).1]

theorem lines_inj (same : s.lines ++ after = t.lines ++ later) : s = t ∧ after = later := by
  have front := front_eq same
  cases s with
  | plain line unheaded =>
      cases t with
      | plain line' unheaded' =>
          obtain ⟨rfl, rest⟩ := List.cons.inj same
          exact ⟨rfl, rest⟩
      | single | closed => cases front
  | single n rest narrow =>
      cases t with
      | single m rest' narrow' =>
          obtain ⟨line, rest⟩ := List.cons.inj same
          obtain ⟨rfl, rfl⟩ := Numeral.heads_inj line
          exact ⟨rfl, rest⟩
      | plain | closed => cases front
  | closed b =>
      cases t with
      | closed c =>
          rw [closed_lines_append, closed_lines_append, List.cons.injEq] at same
          obtain ⟨numeral, first⟩ := Numeral.heads_inj same.1
          obtain ⟨body, rest⟩ := body_inj b.unended c.unended same.2
          exact ⟨congrArg closed (Block.ext numeral (List.cons.inj first).2 body), rest⟩
      | plain | single => cases front

theorem lines_append_ne (s : Segment) (after : List (List Char)) (b : Block) :
    s.lines ++ after ≠ b.lines := by
  intro same
  obtain ⟨line, more, lines, front⟩ := s.exists_lines_cons
  have opening : line = b.numeral.heads (':' :: b.first) := by
    rw [lines] at same
    exact (List.cons.inj same).1
  rw [opening, Parser.head_opening] at front
  cases s with
  | plain | single => cases front
  | closed c =>
      rw [closed_lines_append] at same
      apply b.unended
      rw [← (List.cons.inj same).2]
      simp

end Segment

namespace Transcript

theorem lines_cons (s : Segment) (segments : List Segment) (unclosed : Option Block) :
    lines ⟨s :: segments, unclosed⟩ = s.lines ++ lines ⟨segments, unclosed⟩ := by
  simp [lines]

theorem lines_inj {t u : Transcript} (same : t.lines = u.lines) : t = u := by
  obtain ⟨segments, unclosed⟩ := t
  obtain ⟨others, unclosed'⟩ := u
  induction segments generalizing others with
  | nil =>
      cases others with
      | nil =>
          cases unclosed with
          | none =>
              cases unclosed' with
              | none => rfl
              | some c => cases same
          | some b =>
              cases unclosed' with
              | none => cases same
              | some c => rw [Block.lines_inj same]
      | cons s others =>
          rw [lines_cons] at same
          cases unclosed with
          | none =>
              obtain ⟨line, more, lines, -⟩ := s.exists_lines_cons
              rw [lines] at same
              cases same
          | some b => exact absurd same.symm (s.lines_append_ne _ b)
  | cons s segments ih =>
      rw [lines_cons] at same
      cases others with
      | nil =>
          cases unclosed' with
          | none =>
              obtain ⟨line, more, lines, -⟩ := s.exists_lines_cons
              rw [lines] at same
              cases same
          | some b => exact absurd same (s.lines_append_ne _ b)
      | cons s' others =>
          rw [lines_cons] at same
          obtain ⟨rfl, rest⟩ := Segment.lines_inj same
          cases ih others rest
          rfl

/-! ## A list of lines has a reading -/

theorem exists_lines_eq (lines : List (List Char)) : ∃ t : Transcript, t.lines = lines := by
  induction length : lines.length using Nat.strongRecOn generalizing lines with
  | _ k ih =>
      cases lines with
      | nil => exact ⟨⟨[], none⟩, rfl⟩
      | cons line more =>
          rw [List.length_cons] at length
          -- A segment that leaves fewer lines behind begins a reading.
          have begin (s : Segment) (after : List (List Char))
              (split : s.lines ++ after = line :: more) (short : after.length ≤ more.length) :
              ∃ t : Transcript, t.lines = line :: more := by
            obtain ⟨t, rest⟩ := ih after.length (by omega) after rfl
            exact ⟨⟨s :: t.segments, t.unclosed⟩, by rw [lines_cons, rest, split]⟩
          by_cases headed : ∃ (n : Numeral) (rest : List Char), line = n.heads rest
          · obtain ⟨n, rest, rfl⟩ := headed
            by_cases wide : rest.head? = some ':'
            · obtain ⟨first, rfl⟩ := List.head?_eq_some_iff.1 wide
              by_cases ends : Parser.closing ∈ more
              · obtain ⟨body, after, rfl, unended⟩ := List.eq_append_cons_of_mem ends
                refine begin (.closed ⟨n, first, body, unended⟩) after ?_ ?_
                · rw [Segment.closed_lines_append]
                · rw [List.length_append, List.length_cons]
                  omega
              · exact ⟨⟨[], some ⟨n, first, more, ends⟩⟩, rfl⟩
            · exact begin (.single n rest wide) more rfl le_rfl
          · rw [not_exists] at headed
            exact begin (.plain line fun n rest same => headed n ⟨rest, same⟩) more rfl le_rfl

end Transcript

/-! ## The parser gives the messages of the reading -/

namespace Parser

def hear (p : Parser) (line : List Char) : Parser × Option (Level × List Char) :=
  match p.opened with
  | some (level, content) =>
      if line = closing then ({ p with opened := none }, some (level, content))
      else ({ p with opened := some (level, content ++ '\n' :: line) }, none)
  | none =>
      match head line with
      | .plain => (p, some (p.default, line))
      | .single level rest => (p, some (level, rest))
      | .opening level rest => ({ p with opened := some (level, rest) }, none)

def hearAll (p : Parser) : List (List Char) → Parser × List (Level × List Char)
  | [] => (p, [])
  | line :: rest =>
      let (q, m) := p.hear line
      let (last, ms) := q.hearAll rest
      (last, m.toList ++ ms)

theorem feedChars_eq (p : Parser) (line : List Char) :
    p.feedChars line = if chomp line = [] then (p, none) else p.hear (chomp line) := by
  unfold feedChars
  cases chomp line <;> rfl

theorem feedAll_eq (p : Parser) (lines : List String) :
    p.feedAll lines =
      ((p.hearAll (heard lines)).1,
        (p.hearAll (heard lines)).2.map fun (level, content) =>
          Message.new level (String.ofList content)) := by
  induction lines generalizing p with
  | nil => rfl
  | cons line rest ih =>
      rw [heard_cons]
      by_cases skipped : chomp line.toList = []
      · simp [feedAll, feed, feedChars_eq, skipped, ih]
      · simp only [feedAll, feed, feedChars_eq, skipped, if_false, hearAll, ih, List.map_append]
        cases (p.hear (chomp line.toList)).2 <;> rfl

theorem hearAll_append (p : Parser) (before after : List (List Char)) :
    p.hearAll (before ++ after) =
      (((p.hearAll before).1.hearAll after).1,
        (p.hearAll before).2 ++ ((p.hearAll before).1.hearAll after).2) := by
  induction before generalizing p with
  | nil => rfl
  | cons line rest ih => simp [hearAll, ih]

theorem intercalate_cons_cons (first next : List Char) (rest : List (List Char)) :
    ['\n'].intercalate (first :: next :: rest) =
      ['\n'].intercalate ((first ++ '\n' :: next) :: rest) := by
  cases rest <;> simp [List.intercalate]

theorem hearAll_body (default level : Level) (content : List Char) {body : List (List Char)}
    (unended : closing ∉ body) :
    hearAll ⟨default, some (level, content)⟩ body =
      (⟨default, some (level, ['\n'].intercalate (content :: body))⟩, []) := by
  induction body generalizing content with
  | nil => simp [hearAll, List.intercalate]
  | cons line body ih =>
      rw [List.mem_cons, not_or] at unended
      simp only [hearAll, hear, if_neg (Ne.symm unended.1), ih _ unended.2]
      rw [intercalate_cons_cons]
      rfl

theorem hearAll_block (default : Level) (b : Block) :
    (new default).hearAll b.lines = (⟨default, some b.message⟩, []) := by
  simp only [Block.lines, hearAll, hear, new, head_opening, hearAll_body _ _ _ b.unended]
  rfl

theorem hearAll_segment (default : Level) (s : Segment) :
    (new default).hearAll s.lines = (new default, [s.message default]) := by
  cases s with
  | plain line unheaded =>
      simp [Segment.lines, hearAll, hear, new, head_plain unheaded, Segment.message]
  | single n rest narrow =>
      simp [Segment.lines, hearAll, hear, new, head_single narrow, Segment.message]
  | closed b =>
      rw [Segment.lines, hearAll_append, hearAll_block]
      simp [hearAll, hear, new, Segment.message]

theorem hearAll_lines (default : Level) (t : Transcript) :
    (new default).hearAll t.lines =
      (⟨default, t.unclosed.map Block.message⟩, t.messages default) := by
  obtain ⟨segments, unclosed⟩ := t
  induction segments with
  | nil =>
      cases unclosed with
      | none => rfl
      | some b => exact hearAll_block default b
  | cons s segments ih =>
      rw [Transcript.lines_cons, hearAll_append, hearAll_segment, ih]
      rfl

end Parser

/-- What is heard of a stream has exactly one reading, and the parser gives the messages of this
reading in order. It has a message open exactly when the reading has a block that is not closed. -/
theorem stream_has_one_reading (default : Level) (lines : List String) :
    ∃ t : Transcript, t.lines = heard lines ∧ (∀ u : Transcript, u.lines = heard lines → u = t) ∧
      ((Parser.new default).feedAll lines).2 =
        (t.messages default).map (fun m => Message.new m.1 (String.ofList m.2)) ∧
      ((Parser.new default).feedAll lines).1.isOpen = t.unclosed.isSome := by
  obtain ⟨t, read⟩ := Transcript.exists_lines_eq (heard lines)
  refine ⟨t, read, fun u same => Transcript.lines_inj (same.trans read.symm), ?_⟩
  rw [Parser.feedAll_eq, ← read, Parser.hearAll_lines]
  refine ⟨rfl, ?_⟩
  cases t.unclosed <;> rfl

end Overseer.Stream
