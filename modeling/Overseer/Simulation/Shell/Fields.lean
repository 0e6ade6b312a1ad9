import Overseer.Simulation.Shell.Glob

/-!
The fields that an expanded word is cut into. Only what came from a parameter, a command or an
expression is cut, and only where it was not quoted; a separator that is no blank ends a field even
if the field is empty.
-/

namespace Overseer.Simulation.Shell

inductive Glyph where
  | char (c : Char) (quoted : Bool)
  | soft (c : Char)
  | split
  | mark
  | unmark
  deriving DecidableEq, Repr, Inhabited

def glyphsOf (value : List Char) (quoted : Bool) : List Glyph :=
  if quoted then value.map fun c => .char c true else value.map .soft

def isBlankSeparator (c : Char) : Bool := c == ' ' || c == '\t' || c == '\n'

/-- Cuts glyphs into fields; `field` holds in reverse what there is of the current one, and
`behindBlank` tells whether blanks have ended the one before. -/
def cutFields (separators : List Char) : Option Pattern → Bool → List Glyph → List Pattern
  | none, _, [] => []
  | some acc, _, [] => [acc.reverse]
  | field, b, .mark :: .unmark :: rest => cutFields separators field b rest
  | field, _, .mark :: rest => cutFields separators (some (field.getD [])) false rest
  | field, b, .unmark :: rest => cutFields separators field b rest
  | field, _, .char c q :: rest => cutFields separators (some ((c, q) :: field.getD [])) false rest
  | none, _, .split :: rest => cutFields separators none false rest
  | some acc, _, .split :: rest => acc.reverse :: cutFields separators none false rest
  | field, b, .soft c :: rest =>
      if !separators.contains c then
        cutFields separators (some ((c, false) :: field.getD [])) false rest
      else
        match field with
        | some acc => acc.reverse :: cutFields separators none (isBlankSeparator c) rest
        | none =>
            if isBlankSeparator c then cutFields separators none b rest
            else if b then cutFields separators none false rest
            else [] :: cutFields separators none false rest

def patternOf (gs : List Glyph) : Pattern :=
  gs.filterMap fun g => match g with
    | .char c q => some (c, q)
    | .soft c => some (c, false)
    | .split => some (' ', true)
    | .mark | .unmark => none

def textOf (gs : List Glyph) : List Char := (patternOf gs).text

def cutsAt (separators : List Char) (g : Glyph) : Bool :=
  match g with
  | .soft c => separators.contains c
  | _ => false

def cutsAtBlank (separators : List Char) (g : Glyph) : Bool :=
  match g with
  | .soft c => separators.contains c && isBlankSeparator c
  | _ => false

def takeField (separators : List Char) (line : List Glyph) : List Glyph × List Glyph :=
  let field := line.takeWhile fun g => !cutsAt separators g
  let skip (gs : List Glyph) : List Glyph := gs.dropWhile (cutsAtBlank separators)
  match skip (line.drop field.length) with
  | g :: rest => (field, if cutsAt separators g then skip rest else g :: rest)
  | [] => (field, [])

def dealFields (separators : List Char) : List String → List Glyph → List (String × String)
  | [], _ => []
  | [name], line =>
      let (field, rest) := takeField separators line
      let all := if rest.isEmpty then field
        else (line.reverse.dropWhile (cutsAtBlank separators)).reverse
      [(name, String.ofList (textOf all))]
  | name :: names, line =>
      let (field, rest) := takeField separators line
      (name, String.ofList (textOf field)) :: dealFields separators names rest

def lineGlyphs (raw : Bool) : List Char → List Glyph
  | [] => []
  | '\\' :: c :: rest =>
      if raw then .soft '\\' :: lineGlyphs raw (c :: rest) else .char c true :: lineGlyphs raw rest
  | ['\\'] => if raw then [.soft '\\'] else []
  | c :: rest => .soft c :: lineGlyphs raw rest

def goesOn (raw : Bool) (line : List Char) : Bool :=
  !raw && (line.reverse.takeWhile (· == '\\')).length % 2 == 1

end Overseer.Simulation.Shell
