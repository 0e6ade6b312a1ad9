import Overseer.Pattern.Basic

/-!
The size of a pattern: how many octets the machine takes that reads a text octet by octet, with a
state for every octet that can be next. A set of characters becomes a tree of the octet sequences
that its members are written with.
-/

namespace Overseer.Pattern

def stateSize : Nat := 32

def maxSize : Nat := 10 * Nat.pow 2 20

def octetCount (n : Nat) : Nat :=
  if n < 0x80 then 1 else if n < 0x800 then 2 else if n < 0x10000 then 3 else 4

def firstCut? (low high : Nat) : Option Nat :=
  [0x80, 0x800, 0xD800, 0xE000, 0x10000].find? fun cut => low < cut && cut ≤ high

def blockCut? (low high : Nat) : Option Nat :=
  [64, Nat.pow 64 2, Nat.pow 64 3].findSome? fun block =>
    if low / block = high / block then none
    else if low % block ≠ 0 then some (low / block * block + block)
    else if high % block ≠ block - 1 then some (high / block * block)
    else none

/-- The parts of a range in each of which every octet varies freely between two bounds. -/
def uniformParts : Nat → Nat → Nat → List (Nat × Nat)
  | 0, _, _ => []
  | fuel + 1, low, high =>
      match firstCut? low high <|> (if low < 0x80 then none else blockCut? low high) with
      | some cut => uniformParts fuel low (cut - 1) ++ uniformParts fuel cut high
      | none => if 0xD800 ≤ low ∧ high ≤ 0xDFFF then [] else [(low, high)]

def octetBounds (part : Nat × Nat) : List (Nat × Nat) :=
  (List.range (octetCount part.1)).reverse.map fun i =>
    let block := Nat.pow 64 i
    (part.1 / block % 64 + 64 * octetCount part.1, part.2 / block % 64 + 64 * octetCount part.1)

def sharedLength : List (Nat × Nat) → List (Nat × Nat) → Nat
  | a :: as, b :: bs => if a = b then sharedLength as bs + 1 else 0
  | _, _ => 0

def nodeCount (before : List (Nat × Nat)) : List (List (Nat × Nat)) → Nat
  | [] => 0
  | branch :: rest => branch.length - sharedLength before branch + nodeCount branch rest

def CharSet.size (s : CharSet) : Nat :=
  let rs := s.ranges
  if rs.foldl (fun n r => n + (r.2 + 1 - r.1)) 0 = 1 then
    stateSize * rs.foldl (fun n r => n + octetCount r.1) 0
  else if rs.all fun r => r.2 < 0x80 then 2 * stateSize + 8 * rs.length
  else
    let branches := rs.flatMap fun r => (uniformParts 32 r.1 r.2).map octetBounds
    2 * stateSize + stateSize * nodeCount [] branches + 4 * branches.length

/-- The size of a pattern. Counted turns are written out; an optional or a last turn takes a state
that chooses, with two ways of four octets each. -/
def Regex.size : Regex → Nat
  | empty | look _ _ => stateSize
  | set s => s.size
  | group a => a.size + 2 * stateSize
  | seq a b => a.size + b.size
  | alt a b => a.size + b.size + stateSize + 4
  | rep a low none => max low 1 * a.size + stateSize + 8
  | rep a low (some high) =>
      low * a.size + (high - low) * (a.size + stateSize + 8) + (if low < high then stateSize else 0)

end Overseer.Pattern
