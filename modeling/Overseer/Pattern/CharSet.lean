import Overseer.Text.Blank
import Overseer.Text.Folding
import Overseer.Text.Unicode.Word

/-!
Sets of characters as patterns name them: ranges and tables of code points, their combinations, and
the closure under a change of case.
-/

namespace Overseer.Pattern

inductive CharSet where
  | none
  | range (low high : Nat)
  | table (ranges : Text.Ranges)
  | complement (s : CharSet)
  | union (s t : CharSet)
  | inter (s t : CharSet)
  | caseless (s : CharSet)
  | asciiCaseless (s : CharSet)
  deriving DecidableEq, Repr, Inhabited

namespace CharSet

def otherAsciiCase (n : Nat) : Nat :=
  if 0x41 ≤ n ∧ n ≤ 0x5A then n + 0x20 else if 0x61 ≤ n ∧ n ≤ 0x7A then n - 0x20 else n

def holds : CharSet → Nat → Bool
  | none, _ => false
  | range low high, n => low ≤ n && n ≤ high
  | table rs, n => Text.inRanges rs n
  | complement s, n => !s.holds n
  | union s t, n => s.holds n || t.holds n
  | inter s t, n => s.holds n && t.holds n
  | caseless s, n => (Text.caseCycle n).any s.holds
  | asciiCaseless s, n => s.holds n || s.holds (otherAsciiCase n)

def single (n : Nat) : CharSet := range n n

def diff (s t : CharSet) : CharSet := inter s (complement t)

def symmDiff (s t : CharSet) : CharSet := union (diff s t) (diff t s)

def unionOf (ss : List CharSet) : CharSet := ss.foldr union none

def ofRanges (rs : List (Nat × Nat)) : CharSet := table rs.toArray

def all : CharSet := range 0 0x10FFFF

def ascii : CharSet := range 0 0x7F

def digit : CharSet := table Text.Unicode.Category.decimalNumber.ranges

def blank : CharSet := table Text.Unicode.Property.whiteSpace.ranges

def word : CharSet := unionOf (Text.Unicode.wordTables.map table)

def asciiDigit : CharSet := range 0x30 0x39

def asciiWord : CharSet := ofRanges [(0x30, 0x39), (0x41, 0x5A), (0x5F, 0x5F), (0x61, 0x7A)]

def asciiBlank : CharSet := ofRanges [(9, 13), (0x20, 0x20)]

def isAscii (s : CharSet) : Bool := (List.range 0x80).all fun i => !s.holds (0x80 + i)

/-! ## Ranges -/

def joinRanges : List (Nat × Nat) → List (Nat × Nat)
  | [] => []
  | r :: rest =>
      let (joined, last) := rest.foldl (fun (done, open_) next =>
        if next.1 ≤ open_.2 + 1 then (done, (open_.1, max open_.2 next.2))
        else (open_ :: done, next)) ([], r)
      (last :: joined).reverse

def unionRanges (a b : List (Nat × Nat)) : List (Nat × Nat) :=
  joinRanges (a.merge b fun r s => r.1 ≤ s.1)

def gapsFrom (place : Nat) : List (Nat × Nat) → List (Nat × Nat)
  | [] => if place ≤ 0x10FFFF then [(place, 0x10FFFF)] else []
  | (first, last) :: rest =>
      if place < first then (place, first - 1) :: gapsFrom (last + 1) rest
      else gapsFrom (last + 1) rest

def complementRanges (a : List (Nat × Nat)) : List (Nat × Nat) := gapsFrom 0 a

def caseRanges (a : List (Nat × Nat)) : List (Nat × Nat) :=
  let table := a.toArray
  let reached := Text.caseSteps.toList.filter fun s =>
    (Text.caseCycle s.1).any (Text.inRanges table)
  reached.map fun s => (s.1, s.1)

def ranges : CharSet → List (Nat × Nat)
  | none => []
  | range low high => if low ≤ high then [(low, high)] else []
  | table rs => joinRanges rs.toList
  | complement s => complementRanges s.ranges
  | union s t => unionRanges s.ranges t.ranges
  | inter s t =>
      complementRanges (unionRanges (complementRanges s.ranges) (complementRanges t.ranges))
  | caseless s => unionRanges s.ranges (caseRanges s.ranges)
  | asciiCaseless s =>
      let letters := (List.range 0x80).filter fun n =>
        Text.inRanges s.ranges.toArray (otherAsciiCase n)
      unionRanges s.ranges (letters.map fun n => (n, n))

end CharSet

end Overseer.Pattern
