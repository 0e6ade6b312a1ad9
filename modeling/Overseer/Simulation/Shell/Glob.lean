import Overseer.Host.FileTree

/-!
Patterns of the shell: what they match, what they trim off a text, and the paths that they name.
A character of a pattern that was quoted stands for itself.
-/

namespace Overseer.Simulation.Shell

abbrev Pattern := List (Char × Bool)

inductive Piece where
  | char (c : Char)
  | one
  | many
  | set (negated : Bool) (ranges : List (Char × Char))
  deriving DecidableEq, Repr, Inhabited

def classRanges? : String → Option (List (Char × Char))
  | "alpha" => some [('a', 'z'), ('A', 'Z')]
  | "digit" => some [('0', '9')]
  | "alnum" => some [('a', 'z'), ('A', 'Z'), ('0', '9')]
  | "upper" => some [('A', 'Z')]
  | "lower" => some [('a', 'z')]
  | "space" => some [(' ', ' '), ('\t', '\r')]
  | "blank" => some [(' ', ' '), ('\t', '\t')]
  | "punct" => some [('!', '/'), (':', '@'), ('[', Char.ofNat 0x60), ('\x7b', '~')]
  | "xdigit" => some [('0', '9'), ('a', 'f'), ('A', 'F')]
  | "cntrl" => some [('\x00', '\x1f'), ('\x7f', '\x7f')]
  | "print" => some [(' ', '~')]
  | "graph" => some [('!', '~')]
  | _ => none

def takeClass (p : Pattern) : Option (List (Char × Char) × Pattern) :=
  let name := p.takeWhile fun c => c.1.isAlpha
  match p.drop name.length with
  | (':', _) :: (']', _) :: rest =>
      (classRanges? (String.ofList (name.map (·.1)))).map fun ranges => (ranges, rest)
  | _ => none

def takeRanges : Nat → Bool → List (Char × Char) → Pattern → Option (List (Char × Char) × Pattern)
  | 0, _, _, _ => none
  | fuel + 1, first, acc, p =>
      match p with
      | [] => none
      | (']', false) :: rest =>
          if first then takeRanges fuel false ((']', ']') :: acc) rest else some (acc, rest)
      | ('[', false) :: (':', q) :: rest =>
          match takeClass rest with
          | some (ranges, rest) => takeRanges fuel false (ranges ++ acc) rest
          | none => takeRanges fuel false (('[', '[') :: acc) ((':', q) :: rest)
      | (c, _) :: ('-', false) :: (d, q) :: rest =>
          if d = ']' && !q then
            takeRanges fuel false ((c, c) :: acc) (('-', true) :: (d, q) :: rest)
          else takeRanges fuel false ((c, d) :: acc) rest
      | (c, _) :: rest => takeRanges fuel false ((c, c) :: acc) rest

def piecesOf : Nat → Pattern → List Piece
  | 0, _ => []
  | _ + 1, [] => []
  | fuel + 1, (c, quoted) :: rest =>
      if quoted then .char c :: piecesOf fuel rest
      else if c = '?' then .one :: piecesOf fuel rest
      else if c = '*' then .many :: piecesOf fuel rest
      else if c = '[' then
        let (negated, inner) : Bool × Pattern := match rest with
          | ('!', false) :: inner | ('^', false) :: inner => (true, inner)
          | inner => (false, inner)
        match takeRanges (inner.length + 1) true [] inner with
        | some (ranges, rest) => .set negated ranges :: piecesOf fuel rest
        | none => .char c :: piecesOf fuel rest
      else .char c :: piecesOf fuel rest

def endsOf : List Char → List (List Char)
  | [] => [[]]
  | c :: rest => (c :: rest) :: endsOf rest

def piecesMatch : List Piece → List Char → Bool
  | [], s => s.isEmpty
  | .many :: ps, s => (endsOf s).any (piecesMatch ps)
  | .one :: ps, s =>
      match s with
      | _ :: s => piecesMatch ps s
      | [] => false
  | .char c :: ps, s =>
      match s with
      | d :: s => c == d && piecesMatch ps s
      | [] => false
  | .set negated ranges :: ps, s =>
      match s with
      | c :: s => (ranges.any fun r => r.1 ≤ c && c ≤ r.2) != negated && piecesMatch ps s
      | [] => false

def Pattern.accepts (p : Pattern) (s : List Char) : Bool :=
  piecesMatch (piecesOf (p.length + 1) p) s

def Pattern.trim (p : Pattern) (front longest : Bool) (s : List Char) : List Char :=
  let ps := piecesOf (p.length + 1) p
  let lengths := List.range (s.length + 1)
  let drops (n : Nat) : Bool :=
    piecesMatch ps (if front then s.take n else s.drop (s.length - n))
  match (if longest then lengths.reverse else lengths).find? drops with
  | some n => if front then s.drop n else s.take (s.length - n)
  | none => s

def Pattern.isWild (p : Pattern) : Bool :=
  p.any fun (c, quoted) => !quoted && (c == '*' || c == '?' || c == '[')

def Pattern.text (p : Pattern) : List Char := p.map (·.1)

def Pattern.names : Pattern → List Pattern
  | [] => [[]]
  | c :: rest =>
      match c.1 == '/', Pattern.names rest with
      | true, names => [] :: names
      | false, name :: names => (c :: name) :: names
      | false, [] => [[c]]

/-- The paths that some patterns name behind a path that is already known. Names that start with a
dot are only meant by patterns that do. -/
def namedPaths (t : Host.FileTree) (current : Host.Place) :
    List Char → List Pattern → List (List Char)
  | before, [] => [before]
  | before, name :: names =>
      let ending : List Char := if names.isEmpty then [] else ['/']
      if name.isWild then
        let path := String.ofList before
        match t.walk current (if path.isEmpty then "." else path) with
        | .ok ⟨place, some .directory⟩ =>
            let found := (t.children place).filter fun n =>
              name.accepts n.toList && (!n.startsWith "." || name.head?.map (·.1) == some '.')
            (found.mergeSort fun a b => a ≤ b).flatMap fun n =>
              namedPaths t current (before ++ n.toList ++ ending) names
        | _ => []
      else namedPaths t current (before ++ name.text ++ ending) names

def Pattern.paths (p : Pattern) (t : Host.FileTree) (current : Host.Place) : List (List Char) :=
  (namedPaths t current [] p.names).filter fun path =>
    (t.find current (String.ofList path)).toOption.isSome

end Overseer.Simulation.Shell
