import Overseer.Stats.Sample
import Overseer.Stats.Snapshot

/-!
The aggregator: one accumulator for every key that ever had a valid sample. A key keeps the kind of
its first sample. A flush reports all keys and resets each one as its kind demands.

Times are nanoseconds since 1970.
-/

namespace Overseer.Stats

inductive Aggregate where
  | gauge (current : Float)
  | counter (sum : Float)
  | timer (sum : Float) (count : Nat)
  | set (seen : List String)
  | keyValue (last : Float)
  deriving BEq, Repr, Inhabited

namespace Aggregate

def new : Kind → Aggregate
  | .gauge => gauge 0.0
  | .counter => counter 0.0
  | .timer => timer 0.0 0
  | .set => set []
  | .keyValue => keyValue 0.0

def kind : Aggregate → Kind
  | gauge _ => .gauge
  | counter _ => .counter
  | timer _ _ => .timer
  | set _ => .set
  | keyValue _ => .keyValue

def isSigned (raw : String) : Bool :=
  match raw.toList with
  | '+' :: _ => true
  | '-' :: _ => true
  | _ => false

/-- Takes one value in; `none` where it is no number and has to be one. The rate scales counters
only. -/
def feed (raw : String) (rate : Float) : Aggregate → Option Aggregate
  | set seen => some (set (if seen.contains raw then seen else seen ++ [raw]))
  | gauge current => (Decimal.read? raw.toList).map fun v =>
      gauge (if isSigned raw then current + v else v)
  | counter sum => (Decimal.read? raw.toList).map fun v => counter (sum + v / rate)
  | timer sum count => (Decimal.read? raw.toList).map fun v => timer (sum + v) (count + 1)
  | keyValue _ => (Decimal.read? raw.toList).map keyValue

def value : Aggregate → Float
  | gauge current => current
  | counter sum => sum
  | timer sum count => if count = 0 then 0.0 else sum / Decimal.floatOfNat count
  | set seen => Decimal.floatOfNat seen.length
  | keyValue last => last

def reset : Aggregate → Aggregate
  | gauge current => gauge current
  | a => new a.kind

@[simp] theorem kind_new (k : Kind) : (new k).kind = k := by cases k <;> rfl

@[simp] theorem kind_reset (a : Aggregate) : a.reset.kind = a.kind := by cases a <;> rfl

theorem kind_of_feed {raw : String} {rate : Float} {a b : Aggregate}
    (h : a.feed raw rate = some b) : b.kind = a.kind := by
  cases a <;> simp [feed] at h
  case set => subst h; rfl
  all_goals
    obtain ⟨v, -, rfl⟩ := h
    rfl

end Aggregate

def nanosPerSecond : Nat := 1000000000

structure Aggregator where
  scope : String
  interval : Nat
  buffers : List (String × Aggregate)
  deriving BEq, Repr, Inhabited

namespace Aggregator

def new (scope : String) (interval : Nat) : Aggregator :=
  ⟨scope, max interval nanosPerSecond, []⟩

def insert (key : String) (a : Aggregate) : List (String × Aggregate) → List (String × Aggregate)
  | [] => [(key, a)]
  | (k, b) :: rest =>
      if key = k then (key, a) :: rest
      else if key < k then (key, a) :: (k, b) :: rest
      else (k, b) :: insert key a rest

def record (g : Aggregator) (s : Sample) : Except StatsError Aggregator :=
  let current := (g.buffers.lookup s.key).getD (.new s.kind)
  if current.kind = s.kind then
    match current.feed s.value s.rate with
    | some next => .ok { g with buffers := insert s.key next g.buffers }
    | none => .error (.invalidValue s.key s.value)
  else .error (.inconsistent s.key current.kind s.kind)

def feed (g : Aggregator) (line : String) : Except StatsError Aggregator := do
  g.record (← Sample.parse line)

def accept (g : Aggregator) (line : String) : Aggregator :=
  match g.feed line with
  | .ok next => next
  | .error _ => g

def isEmpty (g : Aggregator) : Bool := g.buffers.isEmpty

def step (g : Aggregator) : Nat := max (g.interval / nanosPerSecond) 1

/-- The time of a flush in seconds, cut down to a multiple of the step; zero before 1970. -/
def timestamp (g : Aggregator) (now : Int) : Nat :=
  now.toNat / nanosPerSecond / g.step * g.step

def snapshot? (g : Aggregator) (now : Int) : Option Snapshot :=
  if g.buffers.isEmpty then none
  else some {
    scope := g.scope
    timestamp := .ofNat (g.timestamp now)
    series := g.buffers.map fun (key, a) => (s!"{g.scope}.{key}", a.value) }

def reset (g : Aggregator) : Aggregator :=
  { g with buffers := g.buffers.map fun (key, a) => (key, a.reset) }

def flush (g : Aggregator) (now : Int) : Option Snapshot × Aggregator := (g.snapshot? now, g.reset)

end Aggregator

end Overseer.Stats
