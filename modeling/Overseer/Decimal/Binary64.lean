/-!
Binary64 numbers as integers times powers of two, and the binary64 number nearest to a decimal.
All rounding is exact integer arithmetic: to nearest, a tie to the even neighbour.
-/

namespace Overseer.Decimal

def biasedExponent (bits : UInt64) : Nat := (bits.toNat / Nat.pow 2 52) % 2048

def fraction (bits : UInt64) : Nat := bits.toNat % Nat.pow 2 52

def isNegative (bits : UInt64) : Bool := Nat.pow 2 63 ≤ bits.toNat

def isNaN (bits : UInt64) : Bool := biasedExponent bits == 2047 && fraction bits != 0

def isInfinite (bits : UInt64) : Bool := biasedExponent bits == 2047 && fraction bits == 0

structure Dyadic where
  m : Nat
  q : Int
  deriving DecidableEq, Repr

def Dyadic.ofBits (bits : UInt64) : Dyadic :=
  if biasedExponent bits = 0 then ⟨fraction bits, -1074⟩
  else ⟨Nat.pow 2 52 + fraction bits, (biasedExponent bits : Int) - 1075⟩

def roundHalfEven (num den : Nat) : Nat :=
  let q := num / den
  let r := num % den
  if 2 * r < den then q else if den < 2 * r then q + 1 else if q % 2 = 0 then q else q + 1

def nearestBits (num den : Nat) : UInt64 :=
  if num = 0 ∨ den = 0 then 0
  else
    let guess : Int := (Nat.log2 num : Int) - (Nat.log2 den : Int) - 52
    -- `num / den` is below `2 ^ (guess + 53)` and at least `2 ^ (guess + 51)`
    let scaled (q : Int) : Nat × Nat :=
      if 0 ≤ q then (num, den * Nat.pow 2 q.toNat) else (num * Nat.pow 2 (-q).toNat, den)
    let (a, b) := scaled guess
    let q := max (-1074) (if a / b < Nat.pow 2 52 then guess - 1 else guess)
    let (a, b) := scaled q
    let m := roundHalfEven a b
    if m < Nat.pow 2 52 then m.toUInt64
    else
      let pattern := ((q + 1075).toNat * Nat.pow 2 52) + (m - Nat.pow 2 52)
      if 2047 * Nat.pow 2 52 ≤ pattern then (2047 * Nat.pow 2 52).toUInt64 else pattern.toUInt64

/-- The bit pattern nearest to `m * 10 ^ e`. The magnitude is settled by the number of digits first,
so an enormous exponent costs nothing. -/
def nearestDecimalBits (m : Nat) (e : Int) : UInt64 :=
  if m = 0 then 0
  else
    let size : Int := (Nat.log2 m : Int) * 30103 / 100000 + e
    if 330 < size then (2047 * Nat.pow 2 52).toUInt64
    else if size < -360 then 0
    else if 0 ≤ e then nearestBits (m * Nat.pow 10 e.toNat) 1
    else nearestBits m (Nat.pow 10 (-e).toNat)

def floatOfNat (n : Nat) : Float := Float.ofBits (nearestBits n 1)

def powerOfTen (e : Nat) : Float := Float.ofBits (nearestDecimalBits 1 e)

def withSign (negative : Bool) (bits : UInt64) : UInt64 :=
  if negative then bits ||| 0x8000000000000000 else bits

end Overseer.Decimal
