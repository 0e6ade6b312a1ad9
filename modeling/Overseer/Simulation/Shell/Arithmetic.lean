import Overseer.Simulation.Shell.Number
import Overseer.Simulation.Shell.Tree

/-!
Expressions in words of the machine. An expression is evaluated while it is read, from left to
right, so of two faults the one in front is told. What is passed over by a condition is read, but
neither looked up nor assigned.
-/

namespace Overseer.Simulation.Shell.Arithmetic

inductive Fault where
  | expected (what : String)
  | divisionByZero
  | notANumber (text : String)
  | fixed (name : String)
  | nestedTooDeeply
  deriving DecidableEq, Repr, Inhabited

def Fault.message (expression : List Char) : Fault → String
  | expected what => s!"arithmetic expression: expecting {what}: \"{String.ofList expression}\""
  | divisionByZero => s!"arithmetic expression: division by zero: \"{String.ofList expression}\""
  | notANumber text => s!"Illegal number: {text}"
  | fixed name => s!"{name}: is read only"
  | nestedTooDeeply => "expression nested too deeply"

inductive Lexeme where
  | number (n : Int)
  | name (s : String)
  | sign (s : String)
  | stray
  deriving DecidableEq, Repr, Inhabited

def signs : List String :=
  ["<<=", ">>=", "<<", ">>", "<=", ">=", "==", "!=", "&&", "||", "+=", "-=", "*=", "/=", "%=", "&=",
    "^=", "|=", "<", ">", "=", "+", "-", "*", "/", "%", "&", "^", "|", "!", "~", "(", ")", "?", ":"]

def lexemes : Nat → List Char → List Lexeme
  | 0, _ => []
  | _ + 1, [] => []
  | fuel + 1, c :: rest =>
      let s := c :: rest
      if c = ' ' || c = '\t' || c = '\n' then lexemes fuel rest
      else if isNameStart c then
        let (name, rest) := takeName s
        .name (String.ofList name) :: lexemes fuel rest
      else
        match takeMagnitude true s with
        | some (n, rest) => .number (min n greatest) :: lexemes fuel rest
        | none =>
            match signs.find? fun o => o.toList.isPrefixOf s with
            | some o => .sign o :: lexemes fuel (s.drop o.length)
            | none => .stray :: lexemes fuel rest

structure Scope where
  value : String → String
  isFixed : String → Bool

structure Rest where
  lexemes : List Lexeme
  assigned : List (String × Int)
  deriving DecidableEq, Repr, Inhabited

def truth (b : Bool) : Int := if b then 1 else 0

def binding? : String → Option Nat
  | "*" | "/" | "%" => some 8
  | "+" | "-" => some 7
  | "<<" | ">>" => some 6
  | "<" | ">" | "<=" | ">=" => some 5
  | "==" | "!=" => some 4
  | "&" => some 3
  | "^" => some 2
  | "|" => some 1
  | _ => none

def onBits (f : UInt64 → UInt64 → UInt64) (a b : Int) : Int :=
  wrapped (f (a % Int.pow 2 64).toNat.toUInt64 (b % Int.pow 2 64).toNat.toUInt64).toNat

def combine (sign : String) (a b : Int) : Except Fault Int :=
  match sign with
  | "*" => .ok (wrapped (a * b))
  | "/" => if b = 0 then .error .divisionByZero else .ok (wrapped (a.tdiv b))
  | "%" => if b = 0 then .error .divisionByZero else .ok (wrapped (a.tmod b))
  | "+" => .ok (wrapped (a + b))
  | "-" => .ok (wrapped (a - b))
  | "<<" => .ok (onBits (· <<< ·) a b)
  | ">>" => .ok (a / Int.pow 2 (b % 64).toNat)
  | "<" => .ok (truth (a < b))
  | ">" => .ok (truth (a > b))
  | "<=" => .ok (truth (a ≤ b))
  | ">=" => .ok (truth (a ≥ b))
  | "==" => .ok (truth (a == b))
  | "!=" => .ok (truth (a != b))
  | "&" => .ok (onBits (· &&& ·) a b)
  | "^" => .ok (onBits (· ^^^ ·) a b)
  | _ => .ok (onBits (· ||| ·) a b)

def assigning? : String → Option (Option String)
  | "=" => some none
  | "+=" => some (some "+")
  | "-=" => some (some "-")
  | "*=" => some (some "*")
  | "/=" => some (some "/")
  | "%=" => some (some "%")
  | "<<=" => some (some "<<")
  | ">>=" => some (some ">>")
  | "&=" => some (some "&")
  | "^=" => some (some "^")
  | "|=" => some (some "|")
  | _ => none

def lookUp (scope : Scope) (r : Rest) (name : String) : Except Fault Int :=
  match r.assigned.lookup name with
  | some n => .ok n
  | none =>
      match wholeNumber? true (scope.value name).toList with
      | some n => .ok n
      | none => .error (.notANumber (scope.value name))

def assign (scope : Scope) (r : Rest) (name : String) (n : Int) : Except Fault (Int × Rest) :=
  if scope.isFixed name then .error (.fixed name)
  else .ok (n, { r with assigned := (name, n) :: r.assigned })

mutual

def evalAssignment (scope : Scope) : Nat → Bool → Rest → Except Fault (Int × Rest)
  | 0, _, _ => .error .nestedTooDeeply
  | fuel + 1, live, r =>
      match r.lexemes with
      | .name name :: .sign o :: rest =>
          match assigning? o with
          | none => evalConditional scope fuel live r
          | some combining => do
              let (n, r) ← evalAssignment scope fuel live { r with lexemes := rest }
              if !live then return (n, r)
              match combining with
              | none => assign scope r name n
              | some o => assign scope r name (← combine o (← lookUp scope r name) n)
      | _ => evalConditional scope fuel live r

def evalConditional (scope : Scope) : Nat → Bool → Rest → Except Fault (Int × Rest)
  | 0, _, _ => .error .nestedTooDeeply
  | fuel + 1, live, r => do
      let (a, r) ← evalEither scope fuel live r
      match r.lexemes with
      | .sign "?" :: rest =>
          let (b, r) ← evalAssignment scope fuel (live && a != 0) { r with lexemes := rest }
          match r.lexemes with
          | .sign ":" :: rest =>
              let (c, r) ← evalConditional scope fuel (live && a == 0) { r with lexemes := rest }
              return (if a != 0 then b else c, r)
          | _ => throw (.expected "':'")
      | _ => return (a, r)

def evalEither (scope : Scope) : Nat → Bool → Rest → Except Fault (Int × Rest)
  | 0, _, _ => .error .nestedTooDeeply
  | fuel + 1, live, r => do
      let (a, r) ← evalBoth scope fuel live r
      match r.lexemes with
      | .sign "||" :: rest =>
          let (b, r) ← evalEither scope fuel (live && a == 0) { r with lexemes := rest }
          return (truth (a != 0 || b != 0), r)
      | _ => return (a, r)

def evalBoth (scope : Scope) : Nat → Bool → Rest → Except Fault (Int × Rest)
  | 0, _, _ => .error .nestedTooDeeply
  | fuel + 1, live, r => do
      let (a, r) ← evalPrimary scope fuel live r
      let (a, r) ← evalBehind scope fuel live 0 a r
      match r.lexemes with
      | .sign "&&" :: rest =>
          let (b, r) ← evalBoth scope fuel (live && a != 0) { r with lexemes := rest }
          return (truth (a != 0 && b != 0), r)
      | _ => return (a, r)

def evalBehind (scope : Scope) : Nat → Bool → Nat → Int → Rest → Except Fault (Int × Rest)
  | 0, _, _, _, _ => .error .nestedTooDeeply
  | fuel + 1, live, least, a, r => do
      match r.lexemes with
      | .sign o :: rest =>
          match binding? o with
          | none => return (a, r)
          | some n =>
              if n < least then return (a, r)
              let (b, r) ← evalPrimary scope fuel live { r with lexemes := rest }
              let (b, r) ← evalBehind scope fuel live (n + 1) b r
              let a ← if live then combine o a b else pure b
              evalBehind scope fuel live least a r
      | _ => return (a, r)

def evalPrimary (scope : Scope) : Nat → Bool → Rest → Except Fault (Int × Rest)
  | 0, _, _ => .error .nestedTooDeeply
  | fuel + 1, live, r =>
      match r.lexemes with
      | .number n :: rest => .ok (n, { r with lexemes := rest })
      | .name name :: rest => do
          let n ← if live then lookUp scope r name else pure 0
          return (n, { r with lexemes := rest })
      | .sign "(" :: rest => do
          let (n, r) ← evalAssignment scope fuel live { r with lexemes := rest }
          match r.lexemes with
          | .sign ")" :: rest => return (n, { r with lexemes := rest })
          | _ => throw (.expected "')'")
      | .sign o :: rest => do
          let apply : Option (Int → Int) := match o with
            | "+" => some id
            | "-" => some fun n => wrapped (-n)
            | "!" => some fun n => truth (n == 0)
            | "~" => some fun n => wrapped (-n - 1)
            | _ => none
          match apply with
          | some f =>
              let (n, r) ← evalPrimary scope fuel live { r with lexemes := rest }
              return (f n, r)
          | none => throw (.expected "primary")
      | _ => .error (.expected "primary")

end

def evaluate (scope : Scope) (expression : List Char) :
    Except Fault (Int × List (String × Int)) := do
  let ls := lexemes (expression.length + 1) expression
  let (n, r) ← evalAssignment scope (8 * ls.length + 8) true ⟨ls, []⟩
  if r.lexemes.isEmpty then return (n, r.assigned) else throw (.expected "EOF")

end Overseer.Simulation.Shell.Arithmetic
