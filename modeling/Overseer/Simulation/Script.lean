import Overseer.Job.Message
import Overseer.Job.Usage

/-!
Scripted processes: what a process says and when, and how it takes being told to end.
-/

namespace Overseer.Simulation

structure Cue where
  delay : Nat
  message : Option Message
  deriving DecidableEq, Repr, Inhabited

structure Script where
  cues : List Cue
  holds : Bool
  finale : List Cue
  deaf : Bool
  failure : Option String
  pid : Option Int
  pidFailure : Option String
  usage : Usage
  deriving BEq, Repr, Inhabited

def Script.silent : Script := ⟨[], false, [], false, none, none, none, .zero⟩

inductive Part where
  | playing (cues : List Cue) (due : Nat)
  | holding
  | finale (cues : List Cue) (due : Nat)
  | ended
  deriving BEq, Repr, Inhabited

inductive Move where
  | say (m : Message)
  | pause
  | hangUp
  deriving DecidableEq, Repr

namespace Part

def cue (now : Nat) (part : List Cue → Nat → Part) (cues : List Cue) : Part :=
  part cues (now + (cues.head?.map (·.delay)).getD 0)

def start (script : Script) (now : Nat) : Part := cue now playing script.cues

def say (now : Nat) (part : List Cue → Nat → Part) (c : Cue) (rest : List Cue) : Part × Move :=
  (cue now part rest, match c.message with | some m => .say m | none => .pause)

def move? (script : Script) (now : Nat) (told : Bool) : Part → Option (Part × Move)
  | playing [] _ =>
      if told then some (cue now finale script.finale, .pause)
      else if script.holds then some (holding, .pause)
      else some (ended, .hangUp)
  | playing (c :: rest) due =>
      if told && !script.deaf && decide (0 < c.delay) then
        some (cue now finale script.finale, .pause)
      else if due ≤ now then some (say now playing c rest)
      else none
  | holding => if told then some (cue now finale script.finale, .pause) else none
  | finale [] _ => some (ended, .hangUp)
  | finale (c :: rest) due => if due ≤ now then some (say now finale c rest) else none
  | ended => none

def due? : Part → Option Nat
  | playing (_ :: _) due => some due
  | finale (_ :: _) due => some due
  | _ => none

end Part

end Overseer.Simulation
