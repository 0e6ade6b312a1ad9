import Overseer.Boot.Tree

/-!
The resolver step by step. A key that is being resolved is a frame, with what it still comes after;
the chain is pushed when a frame is opened and popped when it is closed. `Tree.ofEntries` is what
the steps come to.
-/

namespace Overseer.Boot

/-- A key that is being resolved, and what is known about it so far. -/
structure Frame where
  key : String
  rest : List String
  weight : Int
  broken : Bool
  deriving DecidableEq, Repr

/-- What is done next: go on with the innermost frame or the next root, resolve a key, mark what is
left of a cycle that ends at a key, or take in what has come out for a key. -/
inductive Focus where
  | next
  | enter (key : String)
  | breaking (key : String) (members : List String)
  | leave (key : String) (weight : Option Int)
  deriving DecidableEq, Repr

-- The innermost frame stands first, the innermost key of the chain last.
structure Moment where
  roots : List Entry
  found : List (Int × Entry)
  frames : List Frame
  chain : List String
  focus : Focus
  resolution : Resolution
  deriving BEq, Repr

namespace Moment

def start (batch : List Entry) : Moment :=
  let (index, errors) := indexEntries batch
  ⟨index, [], [], [], .next, ⟨[], errors⟩⟩

def enter (index : List Entry) (key : String) (m : Moment) : Moment :=
  match m.resolution.mark? key with
  | some mark => { m with focus := .leave key mark.weight? }
  | none =>
      if m.chain.contains key then
        { m with focus := .breaking key (m.chain.dropWhile (· != key)) }
      else
        match findEntry index key with
        | none => { m with focus := .leave key none }
        | some e =>
            if e.after.isEmpty then
              { m with
                focus := .leave key (some Phase.boot.weight)
                resolution := m.resolution.setMark key (.resolved Phase.boot.weight) }
            else
              { m with
                frames := ⟨key, e.after, 0, false⟩ :: m.frames
                chain := m.chain ++ [key]
                focus := .next }

def breakOn (key : String) (m : Moment) : List String → Moment
  | [] => { m with focus := .leave key none }
  | member :: rest =>
      { m with
        focus := .breaking key rest
        resolution := (m.resolution.setMark member .broken).report
          (.cyclic member (m.chain.dropWhile (· != key) ++ [key])) }

def look (index : List Entry) (f : Frame) (outer : List Frame) (m : Moment) : Moment :=
  match f.rest with
  | [] =>
      let s := m.resolution.markOnce f.key (if f.broken then .broken else .resolved f.weight)
      { m with
        frames := outer
        chain := m.chain.dropLast
        focus := .leave f.key ((s.mark? f.key).bind Mark.weight?)
        resolution := s }
  | dep :: rest =>
      match Phase.ofTag? dep with
      | some phase =>
          { m with frames := { f with rest := rest, weight := f.weight + phase.weight } :: outer }
      | none =>
          if (findEntry index dep).isNone then
            { m with
              frames := { f with rest := rest, broken := true } :: outer
              resolution := m.resolution.report (.unknownDependency f.key dep) }
          else
            { m with
              frames := { f with rest := rest } :: outer
              focus := .enter dep }

def take (dep : String) (f : Frame) (outer : List Frame) (m : Moment) : Option Int → Moment
  | some w =>
      { m with frames := { f with weight := f.weight + (w + 1) } :: outer, focus := .next }
  | none =>
      { m with
        frames := { f with broken := true } :: outer
        focus := .next
        resolution :=
          if m.resolution.mark? f.key = some .broken then m.resolution
          else m.resolution.report (.brokenDependency f.key dep) }

def step? (index : List Entry) (m : Moment) : Option Moment :=
  match m.focus, m.frames, m.roots with
  | .enter key, _, _ => some (m.enter index key)
  | .breaking key members, _, _ => some (m.breakOn key members)
  | .next, f :: outer, _ => some (m.look index f outer)
  | .leave key weight, f :: outer, _ => some (m.take key f outer weight)
  | .next, [], e :: _ => some { m with focus := .enter e.key }
  | .leave _ weight, [], e :: roots =>
      some { m with
        roots := roots
        found := m.found ++ (weight.map (·, e)).toList
        focus := .next }
  | _, [], [] => none

def outcome (m : Moment) : Tree × List BootError :=
  (⟨m.found.mergeSort fun a b => a.1 ≤ b.1⟩, m.resolution.errors)

def way (m : Moment) : List String :=
  match m.focus with
  | .next => m.chain
  | .enter key | .breaking key _ | .leave key _ => m.chain ++ [key]

def pending (m : Moment) : Nat :=
  match m.focus with
  | .enter _ | .breaking _ _ => m.frames.length + 1
  | .next | .leave _ _ => m.frames.length

end Moment

end Overseer.Boot
