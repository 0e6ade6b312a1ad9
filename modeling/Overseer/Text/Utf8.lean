/-!
UTF-8 decoding of byte sequences that need not be well formed. The decoder is a machine that takes
one octet at a time; a malformed subsequence of maximal length counts as one stray, and a stray is
shown as U+FFFD by `lossy`.
-/

namespace Overseer.Text.Utf8

/-- Between two octets: the bits read so far, how many continuation octets are owed, and the range
in which the next one has to lie. -/
structure State where
  bits : Nat
  owed : Nat
  low : Nat
  high : Nat
  deriving DecidableEq, Repr, Inhabited

namespace State

def start : State := ⟨0, 0, 0, 0⟩

inductive Opening where
  | char (c : Char)
  | sequence (next : State)
  | stray
  deriving Inhabited

def opening (b : Nat) : Opening :=
  if b < 0x80 then .char (Char.ofNat b)
  else if b < 0xC2 then .stray
  else if b < 0xE0 then .sequence ⟨b - 0xC0, 1, 0x80, 0xBF⟩
  else if b = 0xE0 then .sequence ⟨0, 2, 0xA0, 0xBF⟩
  else if b = 0xED then .sequence ⟨0xD, 2, 0x80, 0x9F⟩
  else if b < 0xF0 then .sequence ⟨b - 0xE0, 2, 0x80, 0xBF⟩
  else if b = 0xF0 then .sequence ⟨0, 3, 0x90, 0xBF⟩
  else if b < 0xF4 then .sequence ⟨b - 0xF0, 3, 0x80, 0xBF⟩
  else if b = 0xF4 then .sequence ⟨4, 3, 0x80, 0x8F⟩
  else .stray

end State

def decodeFrom (state : State) : List UInt8 → List (Option Char)
  | [] => if state.owed = 0 then [] else [none]
  | octet :: rest =>
      let b := octet.toNat
      if state.owed ≠ 0 ∧ state.low ≤ b ∧ b ≤ state.high then
        let bits := 64 * state.bits + (b - 0x80)
        if state.owed = 1 then some (Char.ofNat bits) :: decodeFrom .start rest
        else decodeFrom ⟨bits, state.owed - 1, 0x80, 0xBF⟩ rest
      else
        let strays := if state.owed = 0 then [] else [none]
        match State.opening b with
        | .char c => strays ++ some c :: decodeFrom .start rest
        | .sequence next => strays ++ decodeFrom next rest
        | .stray => strays ++ none :: decodeFrom .start rest

def decode (bytes : List UInt8) : List (Option Char) := decodeFrom .start bytes

def lossy (bytes : List UInt8) : String :=
  String.ofList ((decode bytes).map fun c => c.getD '\uFFFD')

end Overseer.Text.Utf8
