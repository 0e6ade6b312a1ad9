import Overseer.Decimal.Read
import Overseer.Text.Unicode.Word

/-!
The filter that selects log events: directives separated by commas, each a severity, a target, or a
target with a severity behind `=`; a span in brackets may follow the target, and the fields of the
span in braces. Only its form is checked here. Blanks around a directive do not count where its
parts are found, but they do where the parts are cut out, so that blanks before a directive shift
the texts of its fields and of its severity.
-/

namespace Overseer.Log

def filterNames : List String := ["off", "error", "warn", "info", "debug", "trace"]

def filterNumber? (s : List Char) : Option Nat :=
  let ds := match s with
    | '+' :: rest => rest
    | s => s
  if ds.isEmpty || !ds.all Text.isAsciiDigit then none else some (Text.digitsValue ds)

def isFilterLevel (s : List Char) : Bool :=
  match filterNumber? s with
  | some n => n < filterNames.length
  | none => s.isEmpty || filterNames.contains (String.ofList (Text.lowerAscii s))

def dropOctets (n : Nat) : List Char → List Char
  | [] => []
  | c :: rest => if n = 0 then c :: rest else dropOctets (n - c.utf8Size) rest

def takeOctets (n : Nat) : List Char → List Char
  | [] => []
  | c :: rest => if n = 0 then [] else c :: takeOctets (n - c.utf8Size) rest

def isFieldValue (isPattern : String → Bool) (s : List Char) : Bool :=
  s = "true".toList || s = "false".toList || (Decimal.read? s).isSome || isPattern (String.ofList s)

def isField (isPattern : String → Bool) (s : List Char) : Bool :=
  match Text.pieces '=' s with
  | _ :: value :: _ => isFieldValue isPattern value
  | _ => !s.isEmpty

/-- The part of a directive that is being read, with the octet at which its text starts. -/
inductive DirectiveState where
  | start
  | levelOrTarget
  | span
  | field (first : Nat)
  | fields
  | target
  | level (first : Nat)
  deriving DecidableEq, Repr

namespace DirectiveState

def opens (c : Char) : Bool :=
  c == '-' || c == ':' || c == '_' || Text.Unicode.isLetterOrNumber c

def next? (accepts : Nat → Nat → Bool) (i : Nat) : DirectiveState → Char → Option DirectiveState
  | .start, c => if c = '[' then some .span else if opens c then some .levelOrTarget else none
  | .levelOrTarget, c =>
      if c = '=' then some (.level (i + 1)) else if c = '[' then some .span
      else some .levelOrTarget
  | .span, c =>
      if c = ']' then some .target else if c = '\x7b' then some (.field (i + 1)) else some .span
  | .field first, c =>
      if c = '\x7d' then if accepts first i then some .fields else none else some (.field first)
  | .fields, c => if c = ']' then some .target else none
  | .target, c => if c = '=' then some (.level (i + 1)) else none
  | .level first, _ => some (.level first)

def run? (accepts : Nat → Nat → Bool) : Nat → DirectiveState → List Char → Option DirectiveState
  | _, state, [] => some state
  | i, state, c :: rest =>
      (state.next? accepts i c).bind fun next => run? accepts (i + c.utf8Size) next rest

end DirectiveState

def isDirective (isPattern : String → Bool) (s : List Char) : Bool :=
  let accepts (first last : Nat) : Bool :=
    isField isPattern (takeOctets (last - first) (dropOctets first s))
  match DirectiveState.run? accepts 0 .start (Text.trimChars s) with
  | some .levelOrTarget | some .target => true
  | some (.level first) => isFilterLevel (dropOctets first s)
  | _ => false

def isFilter (isPattern : String → Bool) (filter : String) : Bool :=
  ((Text.pieces ',' filter.toList).filter fun s => !s.isEmpty).all (isDirective isPattern)

end Overseer.Log
