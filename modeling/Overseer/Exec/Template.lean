import Overseer.Json.Value

/-!
Templates: texts with placeholders in braces. A placeholder ends at the first closing brace; one
whose name is unknown stays as it is, and so does one that is not closed. What is filled in is not
looked at again.
-/

namespace Overseer.Exec

def filling : Json.Value → String
  | .str s => s
  | v => v.text

namespace Template

/-- Expands a template; `opened` is what was read of an open placeholder, in reverse. -/
def go (fill : String → Option String) : Option (List Char) → List Char → List Char
  | none, [] => []
  | none, c :: rest => if c = '\x7b' then go fill (some []) rest else c :: go fill none rest
  | some opened, [] => '\x7b' :: opened.reverse
  | some opened, c :: rest =>
      if c = '\x7d' then
        let key := opened.reverse
        let text := match fill (String.ofList key) with
          | some s => s.toList
          | none => '\x7b' :: key ++ ['\x7d']
        text ++ go fill none rest
      else go fill (some (c :: opened)) rest

def expand (template : String) (fields : List (String × Json.Value)) : String :=
  String.ofList (go (fun key => (fields.lookup key).map filling) none template.toList)

end Template

end Overseer.Exec
