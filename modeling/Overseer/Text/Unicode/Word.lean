import Overseer.Text.Unicode.Category
import Overseer.Text.Unicode.Property

/-!
Letters, numbers and the characters of words.
-/

namespace Overseer.Text.Unicode

def isLetter (c : Char) : Bool := inRanges Property.alphabetic.ranges c.toNat

def isLetterOrNumber (c : Char) : Bool := isLetter c || hasCategory Category.numbers c.toNat

def wordTables : List Ranges :=
  [Property.alphabetic.ranges, Property.joinControl.ranges] ++
    (Category.decimalNumber :: Category.connectorPunctuation :: Category.marks).map (·.ranges)

end Overseer.Text.Unicode
