import Overseer.Boot.Rendezvous

/-!
The rendezvous step by step. Every flag has a channel, which is made when the flag is first named,
by whoever names it, and which holds the value of the flag once it is released. A waiter listens to
the channel of one key after another. Its steps may come between those of other waiters and between
the releases in any order.
-/

namespace Overseer.Boot

structure Board where
  names : List (String × Nat)
  channels : List (Option Bool)
  deriving DecidableEq, Repr, Inhabited

namespace Board

def empty : Board := ⟨[], []⟩

def channelOf (b : Board) (key : String) : Board × Nat :=
  match b.names.lookup key with
  | some i => (b, i)
  | none => (⟨(key, b.channels.length) :: b.names, b.channels ++ [none]⟩, b.channels.length)

def held (b : Board) (i : Nat) : Option Bool := b.channels[i]?.join

def release (b : Board) (key : String) (value : Bool) : Board × Bool :=
  let (b, i) := b.channelOf key
  if (b.held i).isSome then (b, false)
  else ({ b with channels := b.channels.set i (some value) }, true)

def query (b : Board) (key : String) : Board × Option Bool :=
  let (b, i) := b.channelOf key
  (b, b.held i)

end Board

/-- A waiter with the channel that it listens to. -/
structure Listener where
  asked : List String
  waiter : Waiter
  channel : Option Nat
  deriving DecidableEq, Repr, Inhabited

namespace Listener

def start (demand : Demand) (keys : List String) : Listener := ⟨keys, .start demand keys, none⟩

def answer (l : Listener) : Option Bool := l.waiter.answer

def demand (l : Listener) : Demand := l.waiter.demand

def step? (b : Board) (l : Listener) : Option (Board × Listener) :=
  if l.answer.isSome then none
  else
    match l.waiter.keys with
    | [] => some (b, { l with waiter := { l.waiter with answer := some true } })
    | key :: rest =>
        match l.channel with
        | none =>
            let (b, i) := b.channelOf key
            some (b, { l with channel := some i })
        | some i =>
            match b.held i, l.demand with
            | none, _ => none
            | some false, .allTrue =>
                some (b, { l with waiter := { l.waiter with answer := some false } })
            | some _, _ =>
                some (b, { l with waiter := { l.waiter with keys := rest }, channel := none })

end Listener

structure Meeting where
  board : Board
  listeners : List Listener
  deriving DecidableEq, Repr, Inhabited

namespace Meeting

inductive Action where
  | join (demand : Demand) (keys : List String)
  | advance (i : Nat)
  | release (key : String) (value : Bool)
  | query (key : String)
  deriving DecidableEq, Repr

def empty : Meeting := ⟨.empty, []⟩

def step? (m : Meeting) : Action → Option (Meeting × Option Bool)
  | .join demand keys => some ({ m with listeners := m.listeners ++ [.start demand keys] }, none)
  | .advance i =>
      m.listeners[i]?.bind fun l =>
        (l.step? m.board).map fun (board, l) => (⟨board, m.listeners.set i l⟩, none)
  | .release key value =>
      let (board, first) := m.board.release key value
      some ({ m with board }, some first)
  | .query key =>
      let (board, value) := m.board.query key
      some ({ m with board }, value)

end Meeting

end Overseer.Boot
