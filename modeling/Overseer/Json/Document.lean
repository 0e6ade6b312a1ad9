import Overseer.Json.Value
import Overseer.Text.Utf8
import Overseer.Text.Blank

/-!
The first reading of JSON text: a tree in which a fault of the text stands at the place where the
text goes wrong. A reader of the tree that visits it from left to right therefore meets a value of
the wrong type and a fault of the text in the order in which they were written, and a part that
nobody visits is held to weaker rules than one that is read.
-/

namespace Overseer.Json

inductive Fault where
  | malformed
  | truncated
  deriving DecidableEq, Repr, Inhabited

abbrev Source := List (Option Char)

def Source.ofString (s : String) : Source := s.toList.map some

def Source.ofBytes (bytes : List UInt8) : Source := Text.Utf8.decode bytes

/-- A number or a string carries the fault that reading it meets and skipping it does not. A
`broken` node ends the text; reading it, skipping it, and reading it as one of several names may
meet different faults, since a name is told by its first character. -/
inductive Doc where
  | null
  | bool (b : Bool)
  | num (value : Except Fault Number)
  | str (value : Except Fault String)
  | arr (items : List Doc) (close : Option Fault)
  | obj (fields : List (Except Fault String × Doc)) (close : Option Fault)
  | broken (read skipped name : Fault)
  deriving Inhabited

namespace Source

def isSpace : Option Char → Bool
  | some c => c == ' ' || c == '\n' || c == '\t' || c == '\r'
  | none => false

def skipSpace (s : Source) : Source := s.dropWhile isSpace

def isDigit : Option Char → Bool
  | some c => Text.isAsciiDigit c
  | none => false

def digits (s : Source) : List Char × Source :=
  ((s.takeWhile isDigit).filterMap id, s.dropWhile isDigit)

end Source

/-! ## Numbers -/

/-- The value of `significand * 10 ^ e` reached by scaling the rounded significand with one power of
ten, or by several divisions where the exponent is below the smallest. -/
def scaleFloat (significand : Nat) (e : Int) : Except Fault Float :=
  let rec go : Nat → Float → Int → Except Fault Float
    | 0, x, _ => .ok x
    | fuel + 1, x, e =>
        if e.natAbs ≤ 308 then
          if 0 ≤ e then
            let y := x * Decimal.powerOfTen e.natAbs
            if y.isInf then .error .malformed else .ok y
          else .ok (x / Decimal.powerOfTen e.natAbs)
        else if x == 0.0 then .ok x
        else if 0 ≤ e then .error .malformed
        else go fuel (x / Decimal.powerOfTen 308) (e + 308)
  go 8 (Decimal.floatOfNat significand) e

def significandOf : Nat → List Char → Nat × Nat × List Char
  | acc, [] => (acc, 0, [])
  | acc, c :: rest =>
      let next := 10 * acc + (c.toNat - '0'.toNat)
      if next < Nat.pow 2 64 then
        let (value, taken, left) := significandOf next rest
        (value, taken + 1, left)
      else (acc, 0, c :: rest)

def exponentLimit : Nat := Nat.pow 2 31 - 1

structure Numeral where
  negative : Bool
  whole : List Char
  part : Option (List Char)
  exponent : Option (Bool × List Char)

namespace Numeral

def signed (n : Numeral) (x : Except Fault Float) : Except Fault Number :=
  x.map fun x => .float (if n.negative then -x else x)

/-- The value. Whole numbers stay integers where 64 bits hold them; negative zero is a float. In a
float, digits past the sixty-fourth bit of the significand only move the point. -/
def value (n : Numeral) : Except Fault Number :=
  let (whole, _, dropped) := significandOf 0 n.whole
  if n.part.isNone && n.exponent.isNone && dropped.isEmpty then
    if !n.negative then .ok (.int whole)
    else if whole = 0 ∨ Nat.pow 2 63 < whole then n.signed (.ok (Decimal.floatOfNat whole))
    else .ok (.int (-whole))
  else
    let (significand, taken) := match significandOf whole (n.part.getD []) with
      | (value, taken, _) => (value, taken)
    let start : Int := dropped.length - taken
    match n.exponent with
    | none => n.signed (scaleFloat significand start)
    | some (below, ds) =>
        let e := Text.digitsValue ds
        if exponentLimit < e then
          if significand ≠ 0 ∧ !below then .error .malformed else n.signed (.ok 0.0)
        else n.signed (scaleFloat significand (if below then start - e else start + e))

end Numeral

/-- The fault of a number that stops where another character is required: reading tells the end of
the text from a wrong character, skipping does not. -/
def numeralFault (rest : Source) : Doc :=
  .broken (if rest.isEmpty then .truncated else .malformed) .malformed .malformed

def readNumber (s : Source) : Doc × Option Source :=
  let (negative, s) := match s with
    | some '-' :: r => (true, r)
    | r => (false, r)
  let (whole, rest) := Source.digits s
  match whole with
  | [] => (numeralFault rest, none)
  | '0' :: _ :: _ => (.broken .malformed .malformed .malformed, none)
  | _ =>
    let finish (part : Option (List Char)) (rest : Source) : Doc × Option Source :=
      let exponent (rest : Source) : Doc × Option Source :=
        let (below, rest) := match rest with
          | some '+' :: r => (false, r)
          | some '-' :: r => (true, r)
          | r => (false, r)
        match Source.digits rest with
        | ([], rest) => (numeralFault rest, none)
        | (ds, rest) => (.num (Numeral.value ⟨negative, whole, part, some (below, ds)⟩), some rest)
      match rest with
      | some 'e' :: r => exponent r
      | some 'E' :: r => exponent r
      | r => (.num (Numeral.value ⟨negative, whole, part, none⟩), some r)
    match rest with
    | some '.' :: r =>
        match Source.digits r with
        | ([], r) => (numeralFault r, none)
        | (ds, r) => finish (some ds) r
    | r => finish none r

/-! ## Strings -/

def hexValue? (c : Char) : Option Nat :=
  if '0' ≤ c ∧ c ≤ '9' then some (c.toNat - '0'.toNat)
  else if 'a' ≤ c ∧ c ≤ 'f' then some (c.toNat - 'a'.toNat + 10)
  else if 'A' ≤ c ∧ c ≤ 'F' then some (c.toNat - 'A'.toNat + 10)
  else none

def hexFour : Source → Except Fault (Nat × Source)
  | some a :: some b :: some c :: some d :: rest =>
      match hexValue? a, hexValue? b, hexValue? c, hexValue? d with
      | some a, some b, some c, some d => .ok (((a * 16 + b) * 16 + c) * 16 + d, rest)
      | _, _, _, _ => .error .malformed
  | s =>
      let size := s.foldl (fun n c => n + (c.map Char.utf8Size).getD 1) 0
      if size < 4 then .error .truncated else .error .malformed

def shortEscape : Char → Option Char
  | '"' => some '"'
  | '\\' => some '\\'
  | '/' => some '/'
  | 'b' => some '\x08'
  | 'f' => some '\x0c'
  | 'n' => some '\n'
  | 'r' => some '\r'
  | 't' => some '\t'
  | _ => none

/-- Where a string is while it is being read: the characters so far in reverse, a high surrogate
still waiting for its low half, and the first fault that a reader would have met. -/
structure StringState where
  chars : List Char
  high : Option Nat
  fault : Option Fault
  stray : Bool

namespace StringState

def start : StringState := ⟨[], none, none, false⟩

def failed (s : StringState) (f : Fault) : StringState :=
  { s with fault := some (s.fault.getD f), high := none }

def push (s : StringState) (c : Char) : StringState :=
  if s.high.isSome then s.failed .malformed else { s with chars := c :: s.chars }

def pushStray (s : StringState) : StringState :=
  if s.high.isSome then s.failed .malformed else { s with stray := true }

def pushUnit (s : StringState) (n : Nat) : StringState :=
  match s.high with
  | some h =>
      if 0xDC00 ≤ n ∧ n ≤ 0xDFFF then
        { s with
          high := none
          chars := Char.ofNat (0x10000 + (h - 0xD800) * 0x400 + (n - 0xDC00)) :: s.chars }
      else s.failed .malformed
  | none =>
      if 0xDC00 ≤ n ∧ n ≤ 0xDFFF then s.failed .malformed
      else if 0xD800 ≤ n ∧ n ≤ 0xDBFF then { s with high := some n }
      else { s with chars := Char.ofNat n :: s.chars }

def close (s : StringState) : Except Fault String :=
  match (if s.high.isSome then s.failed .malformed else s).fault with
  | some f => .error f
  | none => if s.stray then .error .malformed else .ok (String.ofList s.chars.reverse)

end StringState

def brokenString (state : StringState) (f : Fault) :
    Except (Fault × Fault) (Except Fault String × Source) :=
  .error (state.fault.getD f, f)

/-- Reads a string behind its opening quote. The error holds the fault met by reading and the one
met by skipping. -/
def readString : Nat → StringState → Source →
    Except (Fault × Fault) (Except Fault String × Source)
  | 0, state, _ => brokenString state .truncated
  | _ + 1, state, [] => brokenString state .truncated
  | fuel + 1, state, none :: rest => readString fuel state.pushStray rest
  | fuel + 1, state, some c :: rest =>
      if c = '"' then .ok (state.close, rest)
      else if c = '\\' then
        match rest with
        | [] => brokenString state .truncated
        | none :: _ => brokenString state .malformed
        | some 'u' :: rest =>
            match hexFour rest with
            | .ok (n, rest) => readString fuel (state.pushUnit n) rest
            | .error f => brokenString state f
        | some e :: rest =>
            let state := if state.high.isSome then state.failed .malformed else state
            match shortEscape e with
            | some d => readString fuel (state.push d) rest
            | none => brokenString state .malformed
      else if c.toNat < 0x20 then
        brokenString (if state.high.isSome then state.failed .malformed else state) .malformed
      else readString fuel (state.push c) rest

/-! ## Values -/

def readWord (node : Doc) : List Char → Source → Doc × Option Source
  | [], rest => (node, some rest)
  | _ :: _, [] => (.broken .truncated .truncated .malformed, none)
  | c :: word, d :: rest =>
      if d = some c then readWord node word rest
      else (.broken .malformed .malformed .malformed, none)

mutual

def readValue : Nat → Source → Doc × Option Source
  | 0, _ => (.broken .malformed .malformed .malformed, none)
  | fuel + 1, s =>
      match Source.skipSpace s with
      | [] => (.broken .truncated .truncated .truncated, none)
      | some '"' :: rest =>
          match readString (rest.length + 1) .start rest with
          | .ok (value, rest) => (.str value, some rest)
          | .error (read, skipped) => (.broken read skipped read, none)
      | some '[' :: rest =>
          match Source.skipSpace rest with
          | some ']' :: rest => (.arr [] none, some rest)
          | rest =>
              match readItems fuel rest with
              | (items, close, rest) => (.arr items close, rest)
      | some '\x7b' :: rest =>
          match Source.skipSpace rest with
          | some '\x7d' :: rest => (.obj [] none, some rest)
          | rest =>
              match readFields fuel rest with
              | (fields, close, rest) => (.obj fields close, rest)
      | some 'n' :: rest => readWord .null ['u', 'l', 'l'] rest
      | some 't' :: rest => readWord (.bool true) ['r', 'u', 'e'] rest
      | some 'f' :: rest => readWord (.bool false) ['a', 'l', 's', 'e'] rest
      | some c :: rest =>
          if c = '-' ∨ Text.isAsciiDigit c then readNumber (some c :: rest)
          else (.broken .malformed .malformed .malformed, none)
      | none :: _ => (.broken .malformed .malformed .malformed, none)

def readItems : Nat → Source → List Doc × Option Fault × Option Source
  | 0, _ => ([], some .malformed, none)
  | fuel + 1, s =>
      match readValue fuel s with
      | (item, none) => ([item], none, none)
      | (item, some rest) =>
          match Source.skipSpace rest with
          | some ']' :: rest => ([item], none, some rest)
          | some ',' :: rest =>
              match readItems fuel rest with
              | (items, close, rest) => (item :: items, close, rest)
          | [] => ([item], some .truncated, none)
          | _ => ([item], some .malformed, none)

def readFields : Nat → Source → List (Except Fault String × Doc) × Option Fault × Option Source
  | 0, _ => ([], some .malformed, none)
  | fuel + 1, s =>
      match Source.skipSpace s with
      | some '"' :: rest =>
          match readString (rest.length + 1) .start rest with
          | .error (read, skipped) => ([(.error read, .broken skipped skipped skipped)], none, none)
          | .ok (key, rest) =>
              match Source.skipSpace rest with
              | some ':' :: rest =>
                  match readValue fuel rest with
                  | (value, none) => ([(key, value)], none, none)
                  | (value, some rest) =>
                      match Source.skipSpace rest with
                      | some '\x7d' :: rest => ([(key, value)], none, some rest)
                      | some ',' :: rest =>
                          match readFields fuel rest with
                          | (fields, close, rest) => ((key, value) :: fields, close, rest)
                      | [] => ([(key, value)], some .truncated, none)
                      | _ => ([(key, value)], some .malformed, none)
              | [] => ([(key, .broken .truncated .truncated .truncated)], none, none)
              | _ => ([(key, .broken .malformed .malformed .malformed)], none, none)
      | [] => ([], some .truncated, none)
      | _ => ([], some .malformed, none)

end

structure Document where
  root : Doc
  trailing : Option Fault

def Document.ofSource (s : Source) : Document :=
  match readValue (2 * s.length + 2) s with
  | (root, none) => ⟨root, none⟩
  | (root, some rest) => ⟨root, if (Source.skipSpace rest).isEmpty then none else some .malformed⟩

end Overseer.Json
