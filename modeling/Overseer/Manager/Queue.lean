import Overseer.Job.Command

/-!
The queue manager, which runs the jobs of one queue one after another. A dispatcher moves submitted
commands into the lanes of their queues; a signal for a queue lets the producer hand out the next
command of its lane. A new lane signals itself, and the end of a job signals its queue.

Every step is a partial function: `none` says that it cannot be taken now.
-/

namespace Overseer.Manager

structure Queue where
  started : Bool
  cancelled : Bool
  inbox : List Command
  lanes : List (String × List Command)
  signals : List String
  hand : Option Command
  output : List Command
  capacity : Nat
  outputOpen : Bool
  dispatching : Bool
  producing : Bool
  deriving BEq, Repr, Inhabited

namespace Queue

def new (capacity : Nat) : Queue :=
  ⟨false, false, [], [], [], none, [], capacity, true, false, false⟩

def start (q : Queue) : Queue × Bool :=
  if q.started then (q, false)
  else ({ q with started := true, dispatching := true, producing := true }, true)

def cancel (q : Queue) : Queue := { q with cancelled := true }

def push (q : Queue) (c : Command) : Queue × Bool :=
  if c.queue.isEmpty then (q, false)
  else if q.started && !q.dispatching then (q, false)
  else ({ q with inbox := q.inbox ++ [c] }, true)

def signal (q : Queue) (name : String) : Queue :=
  if q.started && !q.producing then q else { q with signals := q.signals ++ [name] }

def notify (q : Queue) (name : String) : Queue :=
  if name.isEmpty then q else q.signal name

def setLane (name : String) (lane : List Command) :
    List (String × List Command) → List (String × List Command)
  | [] => []
  | (n, l) :: rest => if n = name then (n, lane) :: rest else (n, l) :: setLane name lane rest

def enqueue (q : Queue) (c : Command) : Queue :=
  match q.lanes.lookup c.queue with
  | some lane => { q with lanes := setLane c.queue (lane ++ [c]) q.lanes }
  | none => { q with lanes := q.lanes ++ [(c.queue, [c])] }.signal c.queue

def dispatch? (q : Queue) : Option Queue :=
  match q.dispatching, q.inbox with
  | true, c :: rest => some ({ q with inbox := rest }.enqueue c)
  | _, _ => none

def pop (q : Queue) (name : String) : Queue :=
  match q.lanes.lookup name with
  | none => q
  | some (c :: rest) => { q with lanes := setLane name rest q.lanes, hand := some c }
  -- The next command for a lane that is gone signals its queue again.
  | some [] => { q with lanes := q.lanes.filter fun l => l.1 != name }

def produce? (q : Queue) : Option Queue :=
  match q.producing, q.hand, q.signals with
  | true, none, name :: rest => some ({ q with signals := rest }.pop name)
  | _, _, _ => none

def deliver? (q : Queue) : Option Queue :=
  match q.producing, q.hand with
  | true, some c =>
      if !q.outputOpen then some { q with hand := none, signals := [], producing := false }
      else if q.output.length < q.capacity then
        some { q with hand := none, output := q.output ++ [c] }
      else none
  | _, _ => none

def take? (q : Queue) : Option (Command × Queue) :=
  match q.output with
  | c :: rest => some (c, { q with output := rest })
  | [] => none

def closeOutput (q : Queue) : Queue := { q with outputOpen := false }

def dropOutput (q : Queue) : Queue := { q.closeOutput with output := [] }

def stopDispatcher? (q : Queue) : Option Queue :=
  if q.cancelled && q.dispatching then some { q with inbox := [], dispatching := false } else none

def stopProducer? (q : Queue) : Option Queue :=
  if q.cancelled && q.producing then
    some { q with hand := none, signals := [], producing := false }
  else none

/-- The next step of the two tasks when the dispatcher has precedence. -/
def work? (q : Queue) : Option Queue :=
  q.stopDispatcher? <|> q.dispatch? <|> q.stopProducer? <|> q.deliver? <|> q.produce?

def backlog (q : Queue) : Nat :=
  3 * q.inbox.length + 2 * q.signals.length + q.hand.toList.length + 2

def settle (q : Queue) : Queue :=
  go q.backlog q
where
  go : Nat → Queue → Queue
    | 0, q => q
    | fuel + 1, q =>
        match q.work? with
        | some next => go fuel next
        | none => q

end Queue

end Overseer.Manager
