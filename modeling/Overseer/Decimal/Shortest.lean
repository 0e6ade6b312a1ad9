import Overseer.Decimal.Binary64

/-!
The shortest decimal that reads back as a given binary64 number, nearest to it among those, and the
two layouts in which it is written.
-/

namespace Overseer.Decimal

/-- Digits `d₁ … dₙ` standing for `0.d₁…dₙ * 10 ^ point`. -/
structure Digits where
  digits : List Char
  point : Int
  deriving DecidableEq, Repr

def natDigits (n : Nat) : List Char := Nat.toDigits 10 n

def magnitude (num den : Nat) : Int :=
  if den ≤ num then (natDigits (num / den)).length - 1
  else
    let l := (natDigits (den / num)).length
    if den ≤ num * Nat.pow 10 (l - 1) then -((l - 1 : Nat) : Int) else -(l : Int)

/-- The candidates of `n` digits nearest to `v = num / den`, from below and from above, as integers
on the grid of spacing `10 ^ e`, and the two exact distances scaled alike. -/
def gridNeighbours (num den : Nat) (e : Int) : Nat × Nat × Nat :=
  let (a, b) := if 0 ≤ e then (num, den * Nat.pow 10 e.toNat) else (num * Nat.pow 10 (-e).toNat, den)
  (a / b, a % b, b)

def inside (lo hi den : Nat) (closed : Bool) (g : Nat) (e : Int) : Bool :=
  let (x, s) := if 0 ≤ e then (g * Nat.pow 10 e.toNat * (2 * den), 1)
    else (g * (2 * den), Nat.pow 10 (-e).toNat)
  if closed then lo * s ≤ x && x ≤ hi * s else lo * s < x && x < hi * s

/-- The digits of the shortest decimal strictly nearer to `m * 2 ^ q` than to any other binary64
number, or at the edge when the tie would go to `m`. -/
def shortestDigits (d : Dyadic) : Digits :=
  if d.m = 0 then ⟨['0'], 1⟩
  else
    let (num, den) := if 0 ≤ d.q then (d.m * Nat.pow 2 d.q.toNat, 1) else (d.m, Nat.pow 2 (-d.q).toNat)
    let unit := if 0 ≤ d.q then Nat.pow 2 d.q.toNat else 1
    -- below a power of two the spacing is half as wide, except at the smallest exponent
    let narrow := d.m = Nat.pow 2 52 ∧ d.q ≠ -1074
    let scale := if narrow then 2 else 1
    let num := num * scale
    let den := den * scale
    let hi := 2 * num + unit * scale
    let lo := if narrow then 2 * num - unit else 2 * num - unit * scale
    let closed := d.m % 2 = 0
    let top := magnitude num den
    let rec search : Nat → Nat → Digits
      | 0, _ => ⟨natDigits d.m, (natDigits d.m).length⟩
      | fuel + 1, n =>
          let e := top - n + 1
          let (g, rem, b) := gridNeighbours num den e
          let low := inside lo hi den closed g e && g != 0
          let high := inside lo hi den closed (g + 1) e
          let pick (k : Nat) : Digits :=
            let ds := natDigits k
            ⟨(ds.reverse.dropWhile (· == '0')).reverse, e + ds.length⟩
          if low && high then
            if 2 * rem < b then pick g
            else if b < 2 * rem then pick (g + 1)
            else if g % 2 = 0 then pick g else pick (g + 1)
          else if low then pick g
          else if high then pick (g + 1)
          else search fuel (n + 1)
    search 17 1

/-- How the digits of a finite number are laid out: from which position of the point to which one it
is written without an exponent, and whether a whole number ends in `.0`. -/
structure Layout where
  smallest : Int
  largest : Int
  wholeMark : Bool
  deriving DecidableEq, Repr

def Layout.json : Layout := ⟨-4, 16, true⟩

def Layout.plain : Layout := ⟨-1100, 1100, false⟩

def Digits.text (layout : Layout) (d : Digits) : List Char :=
  let n : Int := d.digits.length
  if d.point < layout.smallest ∨ layout.largest < d.point then
    let e := d.point - 1
    let mantissa := match d.digits with
      | [] => ['0']
      | [c] => [c]
      | c :: rest => c :: '.' :: rest
    mantissa ++ 'e' :: (if e < 0 then '-' else '+') :: natDigits e.natAbs
  else if d.point ≤ 0 then
    '0' :: '.' :: List.replicate (-d.point).toNat '0' ++ d.digits
  else if n ≤ d.point then
    d.digits ++ List.replicate (d.point - n).toNat '0' ++
      (if layout.wholeMark then ['.', '0'] else [])
  else d.digits.take d.point.toNat ++ '.' :: d.digits.drop d.point.toNat

def render (layout : Layout) (x : Float) : String :=
  let bits := x.toBits
  if isNaN bits then "NaN"
  else
    let sign := if isNegative bits then ['-'] else []
    if isInfinite bits then String.ofList (sign ++ ['i', 'n', 'f'])
    else String.ofList (sign ++ (shortestDigits (.ofBits bits)).text layout)

end Overseer.Decimal
