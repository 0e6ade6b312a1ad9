import Overseer.Pattern.CharSet
import Overseer.Text.Unicode.Age
import Overseer.Text.Unicode.Break
import Overseer.Text.Unicode.Script

/-!
The properties that patterns can ask for by name: general categories, scripts, versions, classes of
breaks and the properties of yes and no. Names are compared without case, separators and a leading
`is`.
-/

namespace Overseer.Pattern

open Text.Unicode

def symbolicName (name : List Char) : String :=
  let (isPart, rest) := match name with
    | i :: s :: rest => if i.toLower = 'i' ∧ s.toLower = 's' then (true, rest) else (false, name)
    | _ => (false, name)
  let plain := Text.lowerAscii (rest.filter fun c =>
    c.toNat < 0x80 && c != '_' && c != '-' && c != ' ')
  -- this one name keeps its beginning
  if isPart && plain == ['c'] then "isc" else String.ofList plain

def categorySet (cs : List Category) : CharSet :=
  .unionOf (cs.map fun c => .table c.ranges)

def category? (name : String) : Option CharSet :=
  match name with
  | "any" => some .all
  | "ascii" => some .ascii
  | "assigned" => some (.complement (categorySet [.unassigned]))
  | _ =>
      match Category.find? name with
      | some [.surrogate] => none
      | found => found.map categorySet

def script? (name : String) : Option CharSet := (Script.find? name).map fun s => .table s.own

def namedSet? (name : String) : Option CharSet :=
  ((Property.find? name).map fun p => .table p.ranges) <|> category? name <|> script? name

def valueSet? (property value : String) : Option CharSet :=
  match property with
  | "gc" | "generalcategory" => category? value
  | "sc" | "script" => script? value
  | "scx" | "scriptextensions" => (Script.find? value).map fun s => .table s.used
  | "age" => (Version.upTo? value).map fun vs => .unionOf (vs.map fun v => .table v.added)
  | "gcb" | "graphemeclusterbreak" => (BreakClasses.grapheme.find? value).map .table
  | "wb" | "wordbreak" => (BreakClasses.word.find? value).map .table
  | "sb" | "sentencebreak" => (BreakClasses.sentence.find? value).map .table
  | _ => none

def cutAtUnequal : List Char → Option (List Char × List Char)
  | [] => none
  | '!' :: '=' :: rest => some ([], rest)
  | c :: rest => (cutAtUnequal rest).map fun (before, after) => (c :: before, after)

def property? (query : List Char) : Option CharSet :=
  match cutAtUnequal query <|> Text.cutAt ':' query <|> Text.cutAt '=' query with
  | some (property, value) => valueSet? (symbolicName property) (symbolicName value)
  | none => namedSet? (symbolicName query)

end Overseer.Pattern
