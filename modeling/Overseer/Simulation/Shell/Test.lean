import Overseer.Simulation.Shell.Number
import Overseer.Simulation.Shell.State

/-!
Conditions: primaries on texts, numbers and files, put together by negation, conjunction and
disjunction. A function that reads a condition leaves the last word that it has used in front.
-/

namespace Overseer.Simulation.Shell.Test

inductive Sense where
  | unary
  | binary
  | negation
  | both
  | either
  | opening
  | closing
  | operand
  | finish
  deriving DecidableEq, Repr, Inhabited

def binaries : List String :=
  ["=", "!=", "<", ">", "-eq", "-ne", "-ge", "-gt", "-le", "-lt", "-nt", "-ot", "-ef"]

def unaries : List String :=
  ["-r", "-w", "-x", "-e", "-f", "-d", "-c", "-b", "-p", "-u", "-g", "-k", "-s", "-t", "-z", "-n",
    "-h", "-O", "-G", "-L", "-S"]

def senseOf (w : String) : Sense :=
  if unaries.contains w then .unary
  else if binaries.contains w then .binary
  else match w with
    | "!" => .negation
    | "-a" => .both
    | "-o" => .either
    | "(" => .opening
    | ")" => .closing
    | _ => .operand

def sense (ws : List String) : Sense :=
  match ws with
  | [] => .finish
  | w :: rest =>
      match senseOf w, rest with
      | .unary, [] => .operand
      | .unary, [_] => .unary
      | .unary, next :: _ => if senseOf next == .binary then .operand else .unary
      | .opening, [] => .operand
      | s, _ => s

def fileHas (s : State) (op path : String) : Bool :=
  match s.files.find s.dir path with
  | .error _ => false
  | .ok (_, node) =>
      match op, node with
      | "-e", _ | "-r", _ | "-w", _ | "-O", _ | "-G", _ => true
      | "-d", .directory | "-x", .directory | "-s", .directory => true
      | "-f", .file _ _ => true
      | "-x", .file _ executable => executable
      | "-s", .file contents executable => executable || !contents.isEmpty
      | "-c", .device _ => true
      | _, _ => false

def number (w : String) : Except String Int :=
  match wholeNumber? false w.toList with
  | some n => .ok n
  | none => .error s!"Illegal number: {w}"

def unary (s : State) (op w : String) : Except String Bool :=
  match op with
  | "-z" => .ok w.isEmpty
  | "-n" => .ok !w.isEmpty
  | "-t" => (number w).map fun _ => false
  | op => .ok (fileHas s op w)

def binary (op a b : String) : Except String Bool := do
  match op with
  | "=" => return a == b
  | "!=" => return a != b
  | "<" => return a < b
  | ">" => return b < a
  | "-nt" | "-ot" => return false
  | "-ef" => return a == b
  | op =>
      let x ← number a
      let y ← number b
      match op with
      | "-eq" => return x == y
      | "-ne" => return x != y
      | "-ge" => return x ≥ y
      | "-gt" => return x > y
      | "-le" => return x ≤ y
      | _ => return x < y

mutual

def disjunction (s : State) : Nat → Sense → Bool → List String → Except String (Bool × List String)
  | 0, _, acc, ws => .ok (acc, ws)
  | fuel + 1, first, acc, ws => do
      let (b, ws) ← conjunction s fuel first true ws
      if sense (ws.drop 1) == .either then
        disjunction s fuel (sense (ws.drop 2)) (acc || b) (ws.drop 2)
      else return (acc || b, ws)

def conjunction (s : State) : Nat → Sense → Bool → List String → Except String (Bool × List String)
  | 0, _, acc, ws => .ok (acc, ws)
  | fuel + 1, first, acc, ws => do
      let (b, ws) ← negation s fuel first ws
      if sense (ws.drop 1) == .both then
        conjunction s fuel (sense (ws.drop 2)) (acc && b) (ws.drop 2)
      else return (acc && b, ws)

def negation (s : State) : Nat → Sense → List String → Except String (Bool × List String)
  | 0, _, ws => .ok (false, ws)
  | fuel + 1, first, ws => do
      if first == .negation then
        let next := sense (ws.drop 1)
        let (b, ws) ← negation s fuel next (if next == .finish then ws else ws.drop 1)
        return (!b, ws)
      else primary s fuel first ws

def primary (s : State) : Nat → Sense → List String → Except String (Bool × List String)
  | 0, _, ws => .ok (false, ws)
  | fuel + 1, first, ws => do
      match first, ws with
      | .finish, ws => return (false, ws)
      | _, [] => return (false, [])
      | .opening, _ :: rest =>
          if sense rest == .closing then return (false, rest)
          let (b, ws) ← disjunction s fuel (sense rest) false rest
          if sense (ws.drop 1) != .closing then throw "closing paren expected"
          return (b, ws.drop 1)
      | .unary, op :: rest =>
          match rest with
          | [] => throw s!"{op}: argument expected"
          | w :: _ => return (← unary s op w, rest)
      | _, a :: rest =>
          match rest with
          | op :: operands =>
              if senseOf op == .binary then
                match operands with
                | [] => throw s!"{op}: argument expected"
                | b :: _ => return (← binary op a b, operands)
              else return (!a.isEmpty, a :: rest)
          | [] => return (!a.isEmpty, [a])

end

def whole (s : State) (first : Sense) (ws : List String) : Except String Bool := do
  let (b, left) ← disjunction s (4 * ws.length + 8) first false ws
  match left with
  | a :: _ :: _ => throw s!"{a}: unexpected operator"
  | _ => return b

/-- The value of a condition. Few words are understood by their number first; there, negating twice
is negating once. -/
def evaluate (s : State) : Nat → Bool → List String → Except String Bool
  | 0, negated, _ => .ok negated
  | fuel + 1, negated, ws =>
      match ws with
      | [] => .ok negated
      | _ =>
          let plain (first : Sense) (ws : List String) : Except String Bool :=
            (whole s first ws).map fun b => b != negated
          let inner := (ws.drop 1).dropLast
          if ws.length = 3 && senseOf (ws.getD 1 "") == .binary then plain .operand ws
          else if ws.length = 3 || ws.length = 4 then
            if ws.head? = some "(" && ws.getLast? = some ")" then plain (sense inner) inner
            else if ws.head? = some "!" then evaluate s fuel true (ws.drop 1)
            else plain (sense ws) ws
          else plain (sense ws) ws

end Overseer.Simulation.Shell.Test
