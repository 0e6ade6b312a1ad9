import Overseer.Stats.Aggregator

/-!
An aggregator in use. A call writes into the aggregator as it goes along, and what it wrote before
it failed stays written.
-/

namespace Overseer.Stats

/-- What writes into a state as it goes along, and may fail on the way. -/
abbrev Update (σ : Type) : Type → Type := ExceptT StatsError (StateM σ)

namespace Aggregate

def number (key raw : String) : Update Aggregate Float :=
  match Decimal.read? raw.toList with
  | some v => pure v
  | none => throw (.invalidValue key raw)

def write (a : Aggregate) : Update Aggregate Unit := MonadState.set a

def absorb (key raw : String) (rate : Float) : Update Aggregate Unit := do
  match ← get with
  | set seen => write (set (if seen.contains raw then seen else seen ++ [raw]))
  | gauge current =>
      let v ← number key raw
      write (gauge (if isSigned raw then current + v else v))
  | counter sum =>
      let v ← number key raw
      write (counter (sum + v / rate))
  | timer sum count =>
      let v ← number key raw
      write (timer (sum + v) count)
      write (timer (sum + v) (count + 1))
  | keyValue _ =>
      let v ← number key raw
      write (keyValue v)

end Aggregate

namespace Aggregator

def put (key : String) (a : Aggregate) : Update Aggregator Unit :=
  modify fun g => { g with buffers := insert key a g.buffers }

/-- Takes in the first sample of a key. The accumulator is the call's own until it has taken the
sample. -/
def writeFirst (s : Sample) : Update Aggregator Unit := do
  let (outcome, a) := (Aggregate.absorb s.key s.value s.rate).run (.new s.kind)
  liftExcept outcome
  put s.key a

def writeMore (s : Sample) (a : Aggregate) : Update Aggregator Unit := do
  if a.kind ≠ s.kind then throw (.inconsistent s.key a.kind s.kind)
  let (outcome, a) := (Aggregate.absorb s.key s.value s.rate).run a
  put s.key a
  liftExcept outcome

def write (s : Sample) : Update Aggregator Unit := do
  ((← get).buffers.lookup s.key).elim (writeFirst s) (writeMore s)

def writeLine (line : String) : Update Aggregator Unit := do
  write (← liftExcept (Sample.parse line))

inductive Call where
  | feed (line : String)
  | record (s : Sample)
  | flush (now : Int)
  | isEmpty
  deriving Repr

inductive Answer where
  | accepted
  | refused (e : StatsError)
  | flushed (snapshot : Option Snapshot)
  | empty (b : Bool)
  deriving Repr

def Answer.ofOutcome : Except StatsError Unit → Answer
  | .ok () => accepted
  | .error e => refused e

def perform (g : Aggregator) : Call → Answer × Aggregator
  | .feed line => ((writeLine line).run g).map .ofOutcome id
  | .record s => ((write s).run g).map .ofOutcome id
  | .flush now => (g.flush now).map .flushed id
  | .isEmpty => (.empty g.isEmpty, g)

def run (g : Aggregator) : List Call → List Answer × Aggregator
  | [] => ([], g)
  | c :: rest =>
      let (answer, g) := g.perform c
      let (answers, g) := g.run rest
      (answer :: answers, g)

end Aggregator

end Overseer.Stats
