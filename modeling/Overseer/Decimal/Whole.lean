import Overseer.Text.Blank

/-!
Whole numbers in texts: digits with an optional sign. The first digit at fault decides what is wrong
with a text.
-/

namespace Overseer.Decimal

inductive NumberError where
  | empty
  | invalidDigit
  | tooLarge
  deriving DecidableEq, Repr

def NumberError.message : NumberError → String
  | .empty => "cannot parse integer from empty string"
  | .invalidDigit => "invalid digit found in string"
  | .tooLarge => "number too large to fit in target type"

def readDigits (limit acc : Nat) : List Char → Except NumberError Nat
  | [] => .ok acc
  | c :: rest =>
      if !Text.isAsciiDigit c then .error .invalidDigit
      else
        let next := 10 * acc + (c.toNat - '0'.toNat)
        if limit ≤ next then .error .tooLarge else readDigits limit next rest

def readNat (limit : Nat) : List Char → Except NumberError Nat
  | [] => .error .empty
  | ['+'] => .error .invalidDigit
  | '+' :: rest => readDigits limit 0 rest
  | s => readDigits limit 0 s

def readSigned (bits : Nat) : List Char → Except NumberError Int
  | ['-'] => .error .invalidDigit
  | '-' :: rest => (readDigits (Nat.pow 2 (bits - 1) + 1) 0 rest).map fun n => -(n : Int)
  | s => (readNat (Nat.pow 2 (bits - 1)) s).map fun n => (n : Int)

end Overseer.Decimal
