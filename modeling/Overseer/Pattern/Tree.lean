import Overseer.Pattern.Basic

/-!
Patterns as they are written: what the flags, classes and repetitions of the text are, before it is
settled what they stand for. A tree knows how deep it is nested.
-/

namespace Overseer.Pattern

inductive Flag where
  | caseless
  | lines
  | dotAll
  | reluctant
  | unicode
  | crlf
  | spaced
  deriving DecidableEq, Repr

abbrev FlagChange := List (Flag × Bool)

def FlagChange.state? (change : FlagChange) (flag : Flag) : Option Bool :=
  (change.find? fun c => c.1 = flag).map (·.2)

inductive LetterClass where
  | digit
  | blank
  | word
  deriving DecidableEq, Repr

inductive SetOp where
  | inter
  | diff
  | symmDiff
  deriving DecidableEq, Repr

inductive SetTree where
  | empty
  | char (n : Nat) (octet : Bool)
  | range (low high : Nat)
  | letter (l : LetterClass) (negated : Bool)
  | named (s : CharSet) (negated : Bool)
  | property (s : CharSet) (negated : Bool)
  | bracket (negated : Bool) (s : SetTree)
  | union (items : List SetTree)
  | combine (op : SetOp) (a b : SetTree)
  deriving Repr, Inhabited

def SetTree.ofItems : List SetTree → SetTree
  | [] => .empty
  | [s] => s
  | ss => .union ss

inductive Tree where
  | empty
  | flags (change : FlagChange)
  | char (n : Nat) (octet : Bool)
  | dot
  | look (l : Look)
  | set (s : SetTree)
  | rep (a : Tree) (low : Nat) (high : Option Nat)
  | group (change : FlagChange) (noted : Bool) (a : Tree)
  | seq (parts : List Tree)
  | alt (branches : List Tree)
  deriving Repr, Inhabited

namespace Tree

def ofParts : List Tree → Tree
  | [] => .empty
  | [t] => t
  | ts => .seq ts

def ofBranches : List Tree → Tree
  | [t] => t
  | ts => .alt ts

def isRepeatable : Tree → Bool
  | empty | flags _ => false
  | _ => true

end Tree

/-! ## Nesting -/

mutual

def SetTree.depth : SetTree → Nat
  | .bracket _ s => s.depth + 1
  | .union items => SetTree.greatestDepth items + 1
  | .combine _ a b => max a.depth b.depth + 1
  | _ => 0

def SetTree.greatestDepth : List SetTree → Nat
  | [] => 0
  | s :: rest => max s.depth (SetTree.greatestDepth rest)

end

mutual

def Tree.depth : Tree → Nat
  | .set s => s.depth
  | .rep a _ _ => a.depth + 1
  | .group _ _ a => a.depth + 1
  | .seq parts => Tree.greatestDepth parts + 1
  | .alt branches => Tree.greatestDepth branches + 1
  | _ => 0

def Tree.greatestDepth : List Tree → Nat
  | [] => 0
  | t :: rest => max t.depth (Tree.greatestDepth rest)

end

def maxDepth : Nat := 250

end Overseer.Pattern
