import Overseer.Pattern.Property
import Overseer.Pattern.Tree

/-!
The notation of patterns: alternatives, repetition, groups with flags, character classes with set
operations, and escapes. Back references and conditions on what lies around a group do not exist.
-/

namespace Overseer.Pattern

inductive PatternError where
  | unclosedGroup
  | unopenedGroup
  | nothingToRepeat
  | badCount
  | badClass
  | badEscape
  | badFlag
  | badName
  | unknownProperty
  | notText
  | notAscii
  | unsupported
  | tooDeep
  | tooLarge
  deriving DecidableEq, Repr

/-! ## Blanks -/

def skipBlanks : List Char → List Char
  | [] => []
  | c :: rest =>
      if Text.isBlank c then skipBlanks rest
      else if c = '#' then skipComment rest
      else c :: rest
where
  skipComment : List Char → List Char
    | [] => []
    | c :: rest => if c = '\n' then skipBlanks rest else skipComment rest

def skip (spaced : Bool) (s : List Char) : List Char := if spaced then skipBlanks s else s

def peekPast (spaced : Bool) (s : List Char) : Option Char :=
  if spaced then
    match s.dropWhile Text.isBlank with
    | '#' :: rest => (rest.dropWhile Text.isBlank).head?
    | rest => rest.head?
  else s.head?

/-! ## Escapes -/

def hexDigit? (c : Char) : Option Nat :=
  if '0' ≤ c ∧ c ≤ '9' then some (c.toNat - '0'.toNat)
  else if 'a' ≤ c ∧ c ≤ 'f' then some (c.toNat - 'a'.toNat + 10)
  else if 'A' ≤ c ∧ c ≤ 'F' then some (c.toNat - 'A'.toNat + 10)
  else none

def characterOf (digits : List Nat) : Except PatternError Nat :=
  let n := digits.foldl (fun n d => 16 * n + d) 0
  if !digits.isEmpty && n.isValidChar then .ok n else .error .badEscape

def takeDigits (spaced : Bool) : Nat → List Char → Except PatternError (List Nat × List Char)
  | 0, s => .ok ([], s)
  | count + 1, s =>
      match s with
      | [] => .error .badEscape
      | c :: rest =>
          match hexDigit? c with
          | none => .error .badEscape
          | some d => do
              let (ds, rest) ← takeDigits spaced count (skip spaced rest)
              return (d :: ds, rest)

def takeBraced (spaced : Bool) : Nat → List Char → Except PatternError (List Char × List Char)
  | 0, _ => .error .badEscape
  | fuel + 1, s =>
      match skip spaced s with
      | [] => .error .badEscape
      | '\x7d' :: rest => .ok ([], rest)
      | c :: rest => do
          let (cs, rest) ← takeBraced spaced fuel rest
          return (c :: cs, rest)

def readNumbered (spaced : Bool) (width : Nat) (s : List Char) :
    Except PatternError (SetTree × List Char) :=
  match skip spaced s with
  | '\x7b' :: rest => do
      let (cs, rest) ← takeBraced spaced (rest.length + 1) rest
      match cs.mapM hexDigit? with
      | some ds => return (.char (← characterOf ds) false, skip spaced rest)
      | none => throw .badEscape
  | s => do
      let (ds, rest) ← takeDigits spaced width s
      return (.char (← characterOf ds) (width = 2), rest)

def readProperty (spaced negated : Bool) (s : List Char) :
    Except PatternError (SetTree × List Char) := do
  let (query, rest) ← match skip spaced s with
    | '\x7b' :: rest => takeBraced spaced (rest.length + 1) rest
    | '\\' :: _ | [] => throw .badEscape
    | c :: rest => pure ([c], skip spaced rest)
  match property? query with
  | some s => return (.property s negated, rest)
  | none => throw .unknownProperty

def namedBoundary? (name : String) : Option Look :=
  match name with
  | "start" => some .wordStart
  | "end" => some .wordEnd
  | "start-half" => some .wordStartHalf
  | "end-half" => some .wordEndHalf
  | _ => none

def takeBoundaryName (spaced : Bool) : Nat → List Char → List Char × List Char
  | 0, s => ([], s)
  | fuel + 1, s =>
      match s with
      | c :: rest =>
          if c.isAlpha || c = '-' then
            let (cs, rest) := takeBoundaryName spaced fuel (skip spaced rest)
            (c :: cs, rest)
          else ([], s)
      | [] => ([], [])

def readBoundary (spaced : Bool) (s : List Char) : Except PatternError (Look × List Char) :=
  match s with
  | '\x7b' :: inner =>
      match skip spaced inner with
      | [] => .error .badEscape
      | c :: rest =>
          if c.isAlpha || c = '-' then
            match takeBoundaryName spaced (rest.length + 1) (c :: rest) with
            | (name, '\x7d' :: rest) =>
                match namedBoundary? (String.ofList name) with
                | some l => .ok (l, rest)
                | none => .error .badEscape
            | _ => .error .badEscape
          else .ok (.wordBoundary, s)
  | _ => .ok (.wordBoundary, s)

def isPlainEscape (c : Char) : Bool :=
  c.toNat < 0x80 && !c.isAlphanum && c != '<' && c != '>'

def controlEscape? : Char → Option Nat
  | 'a' => some 7
  | 'f' => some 12
  | 't' => some 9
  | 'n' => some 10
  | 'r' => some 13
  | 'v' => some 11
  | _ => none

def letterClass? (c : Char) : Option LetterClass :=
  match c.toLower with
  | 'd' => some .digit
  | 's' => some .blank
  | 'w' => some .word
  | _ => none

def lookEscape? : Char → Option Look
  | 'A' => some .textStart
  | 'z' => some .textEnd
  | 'B' => some .notWordBoundary
  | '<' => some .wordStart
  | '>' => some .wordEnd
  | _ => none

inductive Atom where
  | set (s : SetTree)
  | look (l : Look)

def readEscape (spaced : Bool) : List Char → Except PatternError (Atom × List Char)
  | [] => .error .badEscape
  | c :: rest =>
      match c with
      | 'x' => (readNumbered spaced 2 rest).map fun (s, rest) => (.set s, rest)
      | 'u' => (readNumbered spaced 4 rest).map fun (s, rest) => (.set s, rest)
      | 'U' => (readNumbered spaced 8 rest).map fun (s, rest) => (.set s, rest)
      | 'p' => (readProperty spaced false rest).map fun (s, rest) => (.set s, rest)
      | 'P' => (readProperty spaced true rest).map fun (s, rest) => (.set s, rest)
      | 'b' => (readBoundary spaced rest).map fun (l, rest) => (.look l, rest)
      | _ =>
          if Text.isAsciiDigit c then .error .unsupported
          else if isPlainEscape c then .ok (.set (.char c.toNat false), rest)
          else
            match letterClass? c, controlEscape? c, lookEscape? c with
            | some l, _, _ => .ok (.set (.letter l c.isUpper), rest)
            | none, some n, _ => .ok (.set (.char n false), rest)
            | none, none, some l => .ok (.look l, rest)
            | none, none, none => .error .badEscape

/-! ## Classes -/

def asciiClass? (name : String) : Option CharSet :=
  match name with
  | "alnum" => some (.ofRanges [(0x30, 0x39), (0x41, 0x5A), (0x61, 0x7A)])
  | "alpha" => some (.ofRanges [(0x41, 0x5A), (0x61, 0x7A)])
  | "ascii" => some .ascii
  | "blank" => some (.ofRanges [(9, 9), (0x20, 0x20)])
  | "cntrl" => some (.ofRanges [(0, 0x1F), (0x7F, 0x7F)])
  | "digit" => some .asciiDigit
  | "graph" => some (.range 0x21 0x7E)
  | "lower" => some (.range 0x61 0x7A)
  | "print" => some (.range 0x20 0x7E)
  | "punct" => some (.ofRanges [(0x21, 0x2F), (0x3A, 0x40), (0x5B, 0x60), (0x7B, 0x7E)])
  | "space" => some .asciiBlank
  | "upper" => some (.range 0x41 0x5A)
  | "word" => some .asciiWord
  | "xdigit" => some (.ofRanges [(0x30, 0x39), (0x41, 0x46), (0x61, 0x66)])
  | _ => none

def readNamed? : List Char → Option (SetTree × List Char)
  | ':' :: rest =>
      let (negated, rest) := match rest with
        | '^' :: rest => (true, rest)
        | rest => (false, rest)
      match Text.cutAt ':' rest with
      | some (name, ']' :: rest) =>
          (asciiClass? (String.ofList name)).map fun s => (.named s negated, rest)
      | _ => none
  | _ => none

def readMember (spaced : Bool) : List Char → Except PatternError (SetTree × List Char)
  | [] => .error .badClass
  | '\\' :: rest =>
      match readEscape spaced rest with
      | .ok (.set s, rest) => .ok (s, rest)
      | .ok (.look _, _) => .error .badClass
      | .error e => .error e
  | c :: rest => .ok (.char c.toNat false, rest)

def rangeOf : SetTree → SetTree → Except PatternError SetTree
  | .char low _, .char high _ => if low ≤ high then .ok (.range low high) else .error .badClass
  | _, _ => .error .badClass

def readRange (spaced : Bool) (s : List Char) : Except PatternError (SetTree × List Char) := do
  let (low, rest) ← readMember spaced s
  match skip spaced rest with
  | '-' :: behind =>
      let next := peekPast spaced behind
      if next = some ']' ∨ next = some '-' then return (low, '-' :: behind)
      else
        let (high, rest) ← readMember spaced (skip spaced behind)
        return (← rangeOf low high, rest)
  | rest => return (low, rest)

/-- The operation still to be applied to the members that follow, with its left side. -/
abbrev Pending := Option (SetOp × SetTree)

def Pending.resolve (pending : Pending) (s : SetTree) : SetTree :=
  match pending with
  | some (op, left) => .combine op left s
  | none => s

def setOp? : List Char → Option (SetOp × List Char)
  | '&' :: '&' :: rest => some (.inter, rest)
  | '-' :: '-' :: rest => some (.diff, rest)
  | '~' :: '~' :: rest => some (.symmDiff, rest)
  | _ => none

def takeHyphens (spaced : Bool) : Nat → List Char → List SetTree × List Char
  | fuel + 1, '-' :: rest =>
      let (items, rest) := takeHyphens spaced fuel (skip spaced rest)
      (.char '-'.toNat false :: items, rest)
  | _, s => ([], s)

def openBracket (spaced : Bool) (s : List Char) : Bool × List SetTree × List Char :=
  let (negated, s) := match skip spaced s with
    | '^' :: rest => (true, skip spaced rest)
    | s => (false, s)
  match takeHyphens spaced s.length s with
  | ([], ']' :: rest) => (negated, [.char ']'.toNat false], skip spaced rest)
  | (items, rest) => (negated, items.reverse, rest)

def readBracket (spaced : Bool) : Nat → List SetTree → Pending → List Char →
    Except PatternError (SetTree × List Char)
  | 0, _, _, _ => .error .badClass
  | fuel + 1, items, pending, s =>
      match skip spaced s with
      | [] => .error .badClass
      | ']' :: rest => .ok (pending.resolve (.ofItems items.reverse), rest)
      | '[' :: rest =>
          match readNamed? rest with
          | some (item, rest) => readBracket spaced fuel (item :: items) pending rest
          | none =>
              let (negated, first, rest) := openBracket spaced rest
              match readBracket spaced fuel first none rest with
              | .ok (inner, rest) =>
                  readBracket spaced fuel (.bracket negated inner :: items) pending rest
              | .error e => .error e
      | s =>
          match setOp? s with
          | some (op, rest) =>
              let left := pending.resolve (.ofItems items.reverse)
              readBracket spaced fuel [] (some (op, left)) rest
          | none =>
              match readRange spaced s with
              | .ok (item, rest) => readBracket spaced fuel (item :: items) pending rest
              | .error e => .error e

def readClass (spaced : Bool) (s : List Char) : Except PatternError (SetTree × List Char) := do
  let (negated, first, rest) := openBracket spaced s
  let (inner, rest) ← readBracket spaced (s.length + 1) first none rest
  return (.bracket negated inner, rest)

/-! ## Repetition -/

def skipLazy : List Char → List Char
  | '?' :: rest => rest
  | s => s

def takeDecimals (spaced : Bool) : Nat → List Char → List Char × List Char
  | 0, s => ([], s)
  | fuel + 1, s =>
      match s with
      | c :: rest =>
          if Text.isAsciiDigit c then
            let (ds, rest) := takeDecimals spaced fuel (skip spaced rest)
            (c :: ds, rest)
          else ([], s)
      | [] => ([], [])

def skipAround (spaced : Bool) (s : List Char) : List Char :=
  match s with
  | c :: rest =>
      if Text.isBlank c then
        if spaced then skipBlanks rest else (c :: rest).dropWhile Text.isBlank
      else s
  | [] => []

def readCount (spaced : Bool) (s : List Char) :
    Except PatternError (Option Nat × List Char) :=
  let s := s.dropWhile Text.isBlank
  let (ds, rest) := takeDecimals spaced (s.length + 1) s
  let rest := skipAround spaced rest
  if ds.isEmpty then .ok (none, rest)
  else if Text.digitsValue ds < Nat.pow 2 32 then .ok (some (Text.digitsValue ds), rest)
  else .error .badCount

abbrev Turns := Nat × Option Nat

def readTurns (spaced : Bool) (s : List Char) : Except PatternError (Turns × List Char) := do
  let s := skip spaced s
  if s.isEmpty then throw .badCount
  let (low, rest) ← readCount spaced s
  let some low := low | throw .badCount
  let (turns, rest) ← match rest with
    | ',' :: rest =>
        match skip spaced rest with
        | '\x7d' :: rest => pure ((low, none), '\x7d' :: rest)
        | rest =>
            match ← readCount spaced rest with
            | (some high, rest) => pure ((low, some high), rest)
            | (none, _) => throw .badCount
    | rest => pure ((low, some low), rest)
  match rest with
  | '\x7d' :: rest =>
      if turns.2.all (low ≤ ·) then return (turns, skipLazy (skip spaced rest))
      else throw .badCount
  | _ => throw .badCount

def repetition? (spaced : Bool) : List Char → Option (Except PatternError (Turns × List Char))
  | '*' :: rest => some (.ok ((0, none), skipLazy rest))
  | '+' :: rest => some (.ok ((1, none), skipLazy rest))
  | '?' :: rest => some (.ok ((0, some 1), skipLazy rest))
  | '\x7b' :: rest => some (readTurns spaced rest)
  | _ => none

def repeatLast (turns : Turns) : List Tree → Except PatternError (List Tree)
  | t :: rest =>
      if t.isRepeatable then .ok (.rep t turns.1 turns.2 :: rest) else .error .nothingToRepeat
  | [] => .error .nothingToRepeat

/-! ## Groups -/

def flag? : Char → Option Flag
  | 'i' => some .caseless
  | 'm' => some .lines
  | 's' => some .dotAll
  | 'U' => some .reluctant
  | 'u' => some .unicode
  | 'R' => some .crlf
  | 'x' => some .spaced
  | _ => none

/-- Reads flags up to the character that ends them, which stays. A minus sign switches off what
follows it; it stands once and not at the end, and no flag stands twice. -/
def readFlags (on afterMinus : Bool) (change : FlagChange) :
    List Char → Except PatternError (FlagChange × List Char)
  | [] => .error .badFlag
  | c :: rest =>
      if c = ':' ∨ c = ')' then
        if afterMinus then .error .badFlag else .ok (change, c :: rest)
      else if c = '-' then
        if on then readFlags false true change rest else .error .badFlag
      else
        match flag? c with
        | some f =>
            if (change.state? f).isSome then .error .badFlag
            else readFlags on false (change ++ [(f, on)]) rest
        | none => .error .badFlag

def isGroupName : List Char → Bool
  | [] => false
  | c :: rest =>
      (c = '_' || Text.Unicode.isLetter c) &&
        rest.all fun d => ['_', '.', '[', ']'].contains d || Text.Unicode.isLetterOrNumber d

inductive Opening where
  | flags (change : FlagChange)
  | group (change : FlagChange) (noted : Bool) (name : Option (List Char))

def readName (names : List (List Char)) (s : List Char) :
    Except PatternError (Opening × List Char) :=
  match Text.cutAt '>' s with
  | some (name, rest) =>
      if isGroupName name && !names.contains name then .ok (.group [] true (some name), rest)
      else .error .badName
  | none => .error .badName

def readOpening (spaced : Bool) (names : List (List Char)) (s : List Char) :
    Except PatternError (Opening × List Char) :=
  match skip spaced s with
  | '?' :: '=' :: _ | '?' :: '!' :: _ | '?' :: '<' :: '=' :: _ | '?' :: '<' :: '!' :: _ =>
      .error .unsupported
  | '?' :: 'P' :: '<' :: rest | '?' :: '<' :: rest => readName names rest
  | '?' :: rest => do
      match ← readFlags true false [] rest with
      | (change, ':' :: rest) => return (.group change false none, rest)
      | ([], _) => throw .nothingToRepeat
      | (change, rest) => return (.flags change, rest.drop 1)
  | rest => .ok (.group [] true none, rest)

/-! ## The whole -/

/-- What is still to be read, whether blanks are skipped in it, and the group names taken. -/
structure Cursor where
  rest : List Char
  spaced : Bool
  names : List (List Char)
  deriving Repr, Inhabited

namespace Cursor

def leave (outer inner : Cursor) (rest : List Char) : Cursor := ⟨rest, outer.spaced, inner.names⟩

def enter (c : Cursor) (rest : List Char) : Opening → Cursor
  | .flags change => ⟨rest, (change.state? .spaced).getD c.spaced, c.names⟩
  | .group change _ name =>
      ⟨rest, (change.state? .spaced).getD c.spaced, name.toList ++ c.names⟩

end Cursor

def readAtom (spaced : Bool) : List Char → Except PatternError (Tree × List Char)
  | [] => .error .nothingToRepeat
  | '[' :: rest => (readClass spaced rest).map fun (s, rest) => (.set s, rest)
  | '.' :: rest => .ok (.dot, rest)
  | '^' :: rest => .ok (.look .lineStart, rest)
  | '$' :: rest => .ok (.look .lineEnd, rest)
  | '\\' :: rest =>
      (readEscape spaced rest).map fun
        | (.set (.char n octet), rest) => (.char n octet, rest)
        | (.set s, rest) => (.set s, rest)
        | (.look l, rest) => (.look l, rest)
  | c :: rest => .ok (.char c.toNat false, rest)

/-- Reads alternatives up to a closing parenthesis or the end; `parts` are those of the current
branch and `branches` the ones before it, both with the last one first. -/
def readBranches : Nat → Cursor → List Tree → List Tree → Except PatternError (Tree × Cursor)
  | 0, _, _, _ => .error .tooDeep
  | fuel + 1, c, parts, branches =>
      let done := .ofBranches (Tree.ofParts parts.reverse :: branches).reverse
      let s := skip c.spaced c.rest
      match s with
      | [] => .ok (done, { c with rest := [] })
      | ')' :: _ => .ok (done, { c with rest := s })
      | '|' :: rest =>
          readBranches fuel { c with rest } [] (Tree.ofParts parts.reverse :: branches)
      | '(' :: rest =>
          match readOpening c.spaced c.names rest with
          | .error e => .error e
          | .ok (.flags change, rest) =>
              readBranches fuel (c.enter rest (.flags change)) (.flags change :: parts) branches
          | .ok (.group change noted name, rest) =>
              match readBranches fuel (c.enter rest (.group change noted name)) [] [] with
              | .error e => .error e
              | .ok (inner, after) =>
                  match after.rest with
                  | ')' :: rest =>
                      readBranches fuel (c.leave after rest) (.group change noted inner :: parts)
                        branches
                  | _ => .error .unclosedGroup
      | _ =>
          match repetition? c.spaced s with
          | some found =>
              match found with
              | .error e => .error e
              | .ok (turns, rest) =>
                  match repeatLast turns parts with
                  | .error e => .error e
                  | .ok parts => readBranches fuel { c with rest } parts branches
          | none =>
              match readAtom c.spaced s with
              | .error e => .error e
              | .ok (t, rest) => readBranches fuel { c with rest } (t :: parts) branches

def Tree.parse (s : String) : Except PatternError Tree := do
  let text := s.toList
  let (tree, c) ← readBranches (text.length + 1) ⟨text, false, []⟩ [] []
  if !c.rest.isEmpty then throw .unopenedGroup
  if maxDepth < tree.depth then throw .tooDeep
  return tree

end Overseer.Pattern
