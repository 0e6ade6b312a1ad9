/-!
Sets of code points given by their ranges, ascending and disjoint: the search in such a table, and
the packed form in which the long tables are written.
-/

namespace Overseer.Text

def searchFrom (before : Nat → Bool) (low high : Nat) : Nat :=
  if low < high then
    let middle := (low + high) / 2
    if before middle then searchFrom before (middle + 1) high else searchFrom before low middle
  else low
termination_by high - low

abbrev Ranges := Array (Nat × Nat)

def inRanges (table : Ranges) (n : Nat) : Bool :=
  let endsBefore (i : Nat) : Bool := table[i]?.any fun r => r.2 < n
  table[searchFrom endsBefore 0 table.size]?.any fun r => r.1 ≤ n

/-- The numbers of a packed table. Letters are digits to the base 26, and a small letter is the last
digit of its number; numbers may go on from one line to the next. -/
def packedNumbers (lines : List String) : List Nat :=
  let step : List Nat × Nat → Char → List Nat × Nat
    | (done, digits), c =>
        if c.isUpper then (done, 26 * digits + (c.toNat - 'A'.toNat))
        else ((26 * digits + (c.toNat - 'a'.toNat)) :: done, 0)
  ((lines.flatMap String.toList).foldl step ([], 0)).1.reverse

/-- The ranges given by twos: the gap before a range and one less than its length. -/
def rangesFrom (place : Nat) : List Nat → List (Nat × Nat)
  | gap :: extent :: rest =>
      let first := place + gap
      (first, first + extent) :: rangesFrom (first + extent + 1) rest
  | _ => []

def unpack (lines : List String) : Ranges := (rangesFrom 0 (packedNumbers lines)).toArray

end Overseer.Text
