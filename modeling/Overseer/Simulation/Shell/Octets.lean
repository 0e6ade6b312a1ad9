import Overseer.Text.Utf8

/-!
The texts of the shell. The shell knows octets only, so a text is held as characters that each stand
for one octet, the one with the character's number.
-/

namespace Overseer.Simulation.Shell

def octetText (bytes : List UInt8) : List Char := bytes.map fun b => Char.ofNat b.toNat

def octetsOf (s : List Char) : List UInt8 := s.map fun c => c.toNat.toUInt8

def inOctets (s : String) : String := String.ofList (octetText s.toUTF8.toList)

theorem octetsOf_octetText (bytes : List UInt8) : octetsOf (octetText bytes) = bytes := by
  induction bytes with
  | nil => rfl
  | cons b rest ih =>
      have small : b.toNat.isValidChar := Or.inl (Nat.lt_of_lt_of_le b.toNat_lt (by decide))
      have same : (Char.ofNat b.toNat).toNat = b.toNat := by
        rw [Char.ofNat, dif_pos small]
        rfl
      have head : (Char.ofNat b.toNat).toNat.toUInt8 = b := by
        rw [same]
        exact UInt8.ofNat_toNat
      show (Char.ofNat b.toNat).toNat.toUInt8 :: octetsOf (octetText rest) = b :: rest
      rw [head, ih]

end Overseer.Simulation.Shell
