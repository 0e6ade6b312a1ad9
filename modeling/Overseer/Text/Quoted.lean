import Overseer.Text.Unicode.Category
import Overseer.Text.Unicode.Property

/-!
The quoted form in which diagnostics show a text: special and invisible characters are escaped, all
others stand for themselves.
-/

namespace Overseer.Text

def hexDigits (n : Nat) : List Char := Nat.toDigits 16 n

def isHidden (n : Nat) : Bool :=
  n != 0x20 && (Unicode.hasCategory [.control, .format, .surrogate, .privateUse, .unassigned,
    .spaceSeparator, .lineSeparator, .paragraphSeparator] n ||
    inRanges Unicode.Property.graphemeExtend.ranges n)

def quotedChar (c : Char) : List Char :=
  if c = '"' then ['\\', '"']
  else if c = '\\' then ['\\', '\\']
  else if c = '\n' then ['\\', 'n']
  else if c = '\r' then ['\\', 'r']
  else if c = '\t' then ['\\', 't']
  else if c = '\x00' then ['\\', '0']
  else if isHidden c.toNat then
    ['\\', 'u', '\x7b'] ++ hexDigits c.toNat ++ ['\x7d']
  else [c]

def quoted (s : String) : String :=
  String.ofList ('"' :: s.toList.flatMap quotedChar ++ ['"'])

end Overseer.Text
