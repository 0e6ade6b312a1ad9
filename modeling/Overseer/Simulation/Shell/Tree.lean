/-!
The shell language: words with quotes and parameters, simple commands with assignments and
redirections, and the ways to put commands together.
-/

namespace Overseer.Simulation.Shell

inductive ParamUse where
  | plain
  | length
  | default (orEmpty : Bool)
  | assign (orEmpty : Bool)
  | fail (orEmpty : Bool)
  | alternative (orEmpty : Bool)
  | trim (front longest : Bool)
  | bad
  deriving DecidableEq, Repr, Inhabited

inductive OpenMode where
  | read
  | write
  | append
  | both
  deriving DecidableEq, Repr, Inhabited

mutual

inductive Part where
  | text (s : List Char) (quoted : Bool)
  | param (name : String) (use : ParamUse) (word : List Part) (quoted : Bool)
  | output (body : Tree) (quoted : Bool)
  | arithmetic (expression : List Part) (quoted : Bool)

inductive Redirect where
  | file (stream : Nat) (mode : OpenMode) (path : List Part)
  | copy (stream : Nat) (source : List Part)
  | document (stream : Nat) (id : Nat)

inductive Tree where
  | nothing
  | simple (line : Nat) (assignments : List (String × List Part)) (words : List (List Part))
      (redirects : List Redirect)
  | redirected (line : Nat) (body : Tree) (redirects : List Redirect)
  | subshell (line : Nat) (body : Tree) (redirects : List Redirect)
  | seq (a b : Tree)
  | both (a b : Tree)
  | either (a b : Tree)
  | not (a : Tree)
  | background (a : Tree)
  | pipe (stages : List Tree)
  | each (line : Nat) (name : String) (words : List (List Part)) (body : Tree)
  | choose (condition yes no : Tree)
  | loop (on : Bool) (condition body : Tree)
  | select (line : Nat) (subject : List Part) (branches : List (List (List Part) × Tree))
  | define (name : String) (body : Tree)

end

abbrev Word := List Part

instance : Inhabited Tree := ⟨.nothing⟩

instance : Inhabited Part := ⟨.text [] false⟩

instance : Inhabited Redirect := ⟨.copy 0 []⟩

def plain? : Word → Option String
  | [.text s false] => some (String.ofList s)
  | _ => none

def isNameStart (c : Char) : Bool := c.isAlpha || c == '_'

def isNameChar (c : Char) : Bool := isNameStart c || c.isDigit

def isName (s : List Char) : Bool :=
  match s with
  | c :: rest => isNameStart c && rest.all isNameChar
  | [] => false

def takeName (s : List Char) : List Char × List Char :=
  match s with
  | c :: _ => if isNameStart c then (s.takeWhile isNameChar, s.dropWhile isNameChar) else ([], s)
  | [] => ([], [])

end Overseer.Simulation.Shell
