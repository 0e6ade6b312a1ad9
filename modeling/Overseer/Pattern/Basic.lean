import Overseer.Pattern.CharSet

/-!
Patterns and what they match. A pattern maps a set of positions in a text to the set of positions
that it can reach from them; a text matches when any position can be reached from any.
-/

namespace Overseer.Pattern

inductive Look where
  | textStart
  | textEnd
  | lineStart
  | lineEnd
  | lineStartCrlf
  | lineEndCrlf
  | wordBoundary
  | notWordBoundary
  | wordStart
  | wordEnd
  | wordStartHalf
  | wordEndHalf
  deriving DecidableEq, Repr

inductive Regex where
  | empty
  | set (s : CharSet)
  | look (l : Look) (ascii : Bool)
  | seq (a b : Regex)
  | alt (a b : Regex)
  | rep (a : Regex) (low : Nat) (high : Option Nat)
  | group (a : Regex)
  deriving DecidableEq, Repr, Inhabited

/-- A position in a text: the characters before and behind it. -/
abbrev Spot := Option Char × Option Char

def spots (text : List Char) : List Spot :=
  (none :: text.map some).zip (text.map some ++ [none])

namespace Look

def isWord (ascii : Bool) : Option Char → Bool
  | some c => (if ascii then CharSet.asciiWord else .word).holds c.toNat
  | none => false

def holds (l : Look) (ascii : Bool) (spot : Spot) : Bool :=
  let before := isWord ascii spot.1
  let behind := isWord ascii spot.2
  match l with
  | textStart => spot.1.isNone
  | textEnd => spot.2.isNone
  | lineStart => spot.1.isNone || spot.1 == some '\n'
  | lineEnd => spot.2.isNone || spot.2 == some '\n'
  | lineStartCrlf =>
      spot.1.isNone || spot.1 == some '\n' || (spot.1 == some '\r' && spot.2 != some '\n')
  | lineEndCrlf =>
      spot.2.isNone || spot.2 == some '\r' || (spot.2 == some '\n' && spot.1 != some '\r')
  | wordBoundary => before != behind
  | notWordBoundary => before == behind
  | wordStart => !before && behind
  | wordEnd => before && !behind
  | wordStartHalf => !before
  | wordEndHalf => !behind

def isOfWords : Look → Bool
  | wordBoundary | notWordBoundary | wordStart | wordEnd | wordStartHalf | wordEndHalf => true
  | textStart | textEnd | lineStart | lineEnd | lineStartCrlf | lineEndCrlf => false

end Look

namespace Regex

/-- A set of positions, as one flag for every position of the text. -/
abbrev Marks := List Bool

def Marks.union (a b : Marks) : Marks := a.zipWith (· || ·) b

def advance (s : CharSet) (text : List Char) (marks : Marks) : Marks :=
  false :: text.zipWith (fun c m => m && s.holds c.toNat) marks

def closure (step : Marks → Marks) : Nat → Marks → Marks
  | 0, marks => marks
  | fuel + 1, marks =>
      let next := marks.union (step marks)
      if next = marks then marks else closure step fuel next

def exactly (step : Marks → Marks) : Nat → Marks → Marks
  | 0, marks => marks
  | n + 1, marks =>
      let next := step marks
      if next = marks then marks else exactly step n next

def upTo (step : Marks → Marks) : Nat → Marks → Marks
  | 0, marks => marks
  | n + 1, marks =>
      let next := marks.union (step marks)
      if next = marks then marks else upTo step n next

def reach (text : List Char) : Regex → Marks → Marks
  | empty, marks => marks
  | set s, marks => advance s text marks
  | look l ascii, marks => marks.zipWith (fun m spot => m && l.holds ascii spot) (spots text)
  | seq a b, marks => reach text b (reach text a marks)
  | alt a b, marks => Marks.union (reach text a marks) (reach text b marks)
  | rep a low high, marks =>
      let step := reach text a
      let required := exactly step low marks
      match high with
      | none => closure step (text.length + 1) required
      | some h => upTo step (h - low) required
  | group a, marks => reach text a marks

def isMatch (r : Regex) (text : String) : Bool :=
  let chars := text.toList
  (r.reach chars (List.replicate (chars.length + 1) true)).any id

def isEmptyOnly : Regex → Bool
  | empty | look _ _ => true
  | set _ => false
  | seq a b | alt a b => a.isEmptyOnly && b.isEmptyOnly
  | rep a _ _ | group a => a.isEmptyOnly

/-- A repetition without needless turns: what matches only the empty text is taken once at most. -/
def repeated (a : Regex) (low : Nat) (high : Option Nat) : Regex :=
  let (low, high) :=
    if a.isEmptyOnly then (min low 1, some (high.elim 1 (min 1))) else (low, high)
  if low = 0 ∧ high = some 0 then empty
  else if low = 1 ∧ high = some 1 then a
  else rep a low high

def looksAtWords : Regex → Bool
  | empty | set _ => false
  | look l ascii => l.isOfWords && !ascii
  | seq a b | alt a b => a.looksAtWords || b.looksAtWords
  | rep a _ _ | group a => a.looksAtWords

end Regex

end Overseer.Pattern
