import Overseer.Decimal.Read

/-!
Numbers as commands read them: a stretch at the front of a text, whatever stands behind it.
-/

namespace Overseer.Simulation.Shell

def isSpace (c : Char) : Bool := c == ' ' || ('\t' ≤ c && c ≤ '\r')

def digitOf? (base : Nat) (c : Char) : Option Nat :=
  let n := if c.isDigit then c.toNat - '0'.toNat
    else if 'a' ≤ c && c ≤ 'z' then c.toNat - 'a'.toNat + 10
    else if 'A' ≤ c && c ≤ 'Z' then c.toNat - 'A'.toNat + 10
    else base
  if n < base then some n else none

def takeDigits (base : Nat) : Nat → List Char → Nat × List Char
  | acc, [] => (acc, [])
  | acc, c :: rest =>
      match digitOf? base c with
      | some d => takeDigits base (base * acc + d) rest
      | none => (acc, c :: rest)

def takeFewDigits (base n : Nat) (s : List Char) : Nat × List Char :=
  let (value, rest) := takeDigits base 0 (s.take n)
  (value, rest ++ s.drop n)

/-- The magnitude at the front and the rest, if there is one; where any base will do, a zero in
front tells an octal one, and a zero and an `x` tell a hexadecimal one. -/
def takeMagnitude (anyBase : Bool) (s : List Char) : Option (Nat × List Char) :=
  match anyBase, s with
  | true, '0' :: x :: c :: rest =>
      if (x == 'x' || x == 'X') && (digitOf? 16 c).isSome then some (takeDigits 16 0 (c :: rest))
      else some (takeDigits 8 0 s)
  | true, '0' :: _ => some (takeDigits 8 0 s)
  | _, c :: _ => if c.isDigit then some (takeDigits 10 0 s) else none
  | _, [] => none

def takeSign (s : List Char) : Bool × List Char :=
  match s with
  | '-' :: rest => (true, rest)
  | '+' :: rest => (false, rest)
  | s => (false, s)

def takeWhole (anyBase : Bool) (s : List Char) : Option (Int × List Char) :=
  let (negative, s) := takeSign (s.dropWhile isSpace)
  (takeMagnitude anyBase s).map fun (n, rest) => (if negative then -(n : Int) else n, rest)

def smallest : Int := -Int.pow 2 63

def greatest : Int := Int.pow 2 63 - 1

def wrapped (n : Int) : Int := n.bmod (Nat.pow 2 64)

def wholeNumber? (anyBase : Bool) (s : List Char) : Option Int :=
  match takeWhole anyBase s with
  | some (n, rest) =>
      if rest.all isSpace && smallest ≤ n && n ≤ greatest then some n else none
  | none => if anyBase && s.all isSpace then some 0 else none

def count? (s : List Char) : Option Nat :=
  if s.isEmpty || !s.all Char.isDigit then none
  else
    let n := Text.digitsValue s
    if n < Nat.pow 2 31 then some n else none

def takeExponent (s : List Char) : Int × List Char :=
  match s with
  | c :: rest =>
      let (negative, digits) := takeSign rest
      if (c == 'e' || c == 'E') && (digits.head?.any Char.isDigit) then
        let (n, rest) := takeDigits 10 0 digits
        (if negative then -(n : Int) else n, rest)
      else (0, s)
  | [] => (0, [])

def takeDecimal (s : List Char) : Option (Nat × Int × List Char) :=
  let whole := s.takeWhile Char.isDigit
  let (fraction, rest) := match s.drop whole.length with
    | '.' :: rest => (rest.takeWhile Char.isDigit, rest.dropWhile Char.isDigit)
    | rest => ([], rest)
  if whole.isEmpty && fraction.isEmpty then none
  else
    let (e, rest) := takeExponent rest
    some (Text.digitsValue (whole ++ fraction), e - fraction.length, rest)

def takeHexReal (s : List Char) : Option (UInt64 × List Char) :=
  match s with
  | '0' :: x :: rest =>
      let isHex (c : Char) : Bool := (digitOf? 16 c).isSome
      let whole := rest.takeWhile isHex
      let (fraction, rest) := match rest.drop whole.length with
        | '.' :: rest => (rest.takeWhile isHex, rest.dropWhile isHex)
        | rest => ([], rest)
      if (x != 'x' && x != 'X') || (whole.isEmpty && fraction.isEmpty) then none
      else
        let (e, rest) : Int × List Char := match rest with
          | p :: digits =>
              let (negative, digits) := takeSign digits
              if (p == 'p' || p == 'P') && digits.head?.any Char.isDigit then
                let (n, behind) := takeDigits 10 0 digits
                (if negative then -(min n 5000 : Int) else (min n 5000 : Int), behind)
              else (0, rest)
          | [] => (0, [])
        let m := (takeDigits 16 0 (whole ++ fraction)).1
        let e := e - 4 * fraction.length
        some (if 0 ≤ e then Decimal.nearestBits (m * Nat.pow 2 e.toNat) 1
          else Decimal.nearestBits m (Nat.pow 2 (-e).toNat), rest)
  | _ => none

def takeReal (s : List Char) : Option (UInt64 × List Char) :=
  let (negative, s) := takeSign (s.dropWhile isSpace)
  let named (name : String) (bits : UInt64) : Option (UInt64 × List Char) :=
    if (Text.lowerAscii s).take name.length == name.toList then
      some (Decimal.withSign negative bits, s.drop name.length)
    else none
  match takeHexReal s, takeDecimal s with
  | some (bits, rest), _ => some (Decimal.withSign negative bits, rest)
  | none, some (m, e, rest) =>
      some (Decimal.withSign negative (Decimal.nearestDecimalBits m e), rest)
  | none, none =>
      named "infinity" 0x7FF0000000000000 <|> named "inf" 0x7FF0000000000000 <|>
        named "nan" 0x7FF8000000000000

def duration? (s : List Char) : Option Nat :=
  match takeDecimal (takeSign s).2 with
  | some (m, e, rest) =>
      let factor : Option Nat := match rest with
        | [] | ['s'] => some 1000
        | ['m'] => some 60000
        | ['h'] => some 3600000
        | ['d'] => some 86400000
        | _ => none
      if s.head? = some '-' && m != 0 then none
      else factor.map fun f =>
        if 0 ≤ e then f * m * Nat.pow 10 (min e.toNat 20)
        else
          let scale := Nat.pow 10 (min (-e).toNat 400)
          (f * m + scale - 1) / scale
  | none => if Text.lowerAscii s == "infinity".toList || Text.lowerAscii s == "inf".toList
      then some (Nat.pow 2 62) else none

end Overseer.Simulation.Shell
