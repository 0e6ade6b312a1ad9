import Overseer.Decimal.Binary64
import Overseer.Text.Blank

/-!
Reading a float from plain text. The grammar is an optional sign followed by `inf`, `infinity` or
`nan` in any case, or by digits with at most one point and an optional exponent.
-/

namespace Overseer.Decimal

open Text

def leadingDigits (s : List Char) : List Char × List Char :=
  (s.takeWhile isAsciiDigit, s.dropWhile isAsciiDigit)

def readExponent : List Char → Option Int
  | [] => some 0
  | c :: rest =>
      if c = 'e' ∨ c = 'E' then
        let (negative, rest) := match rest with
          | '-' :: r => (true, r)
          | '+' :: r => (false, r)
          | r => (false, r)
        let (ds, tail) := leadingDigits rest
        if ds.isEmpty || !tail.isEmpty then none
        else
          let n : Int := digitsValue ds
          some (if negative then -n else n)
      else none

def readMagnitude (s : List Char) : Option UInt64 :=
  let word := lowerAscii s
  if word = ['i', 'n', 'f'] ∨ word = ['i', 'n', 'f', 'i', 'n', 'i', 't', 'y'] then
    some 0x7FF0000000000000
  else if word = ['n', 'a', 'n'] then some 0x7FF8000000000000
  else
    let (whole, rest) := leadingDigits s
    let (part, rest) := match rest with
      | '.' :: r => leadingDigits r
      | r => ([], r)
    if whole.isEmpty && part.isEmpty then none
    else (readExponent rest).map fun e =>
      nearestDecimalBits (digitsValue (whole ++ part)) (e - part.length)

def read? (s : List Char) : Option Float :=
  let (negative, rest) := match s with
    | '-' :: r => (true, r)
    | '+' :: r => (false, r)
    | r => (false, r)
  (readMagnitude rest).map fun bits => Float.ofBits (withSign negative bits)

end Overseer.Decimal
