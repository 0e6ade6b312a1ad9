import Overseer.Stream.Reader

/-!
A pipe: a reader that puts its messages into a bounded channel, and a receiver that takes them out
or hangs up. The reader goes on to the end of the stream whatever the receiver does. The actions of
both may come in any order in which they are possible.
-/

namespace Overseer.Stream

structure Pipe extends Reader where
  capacity : Nat
  channel : List Message
  listening : Bool
  received : List Message
  deriving DecidableEq, Repr, Inhabited

inductive Action where
  | read
  | send
  | receive
  | hangUp
  deriving DecidableEq, Repr

namespace Pipe

def start (default : Level) (capacity : Nat) (arrivals : List Arrival) : Pipe where
  toReader := .start default arrivals
  capacity
  channel := []
  listening := true
  received := []

def act (p : Pipe) : Action → Option Pipe
  | .read => p.read?.map fun reader => { p with toReader := reader }
  | .send =>
      match p.outgoing with
      | none => none
      | some m =>
          -- Without a receiver the reader goes on, and drops what it reads.
          if !p.listening then some { p with outgoing := none, forwarding := false }
          else if p.channel.length < p.capacity then
            some { p with outgoing := none, channel := p.channel ++ [m] }
          else none
  | .receive =>
      match p.listening, p.channel with
      | true, m :: rest => some { p with channel := rest, received := p.received ++ [m] }
      | _, _ => none
  | .hangUp => if p.listening then some { p with listening := false, channel := [] } else none

def measure (p : Pipe) : Nat :=
  let bytes : Arrival → Nat
    | .bytes bs => bs.length
    | _ => 0
  8 * (p.buffer.length + (p.arrivals.map bytes).foldl (· + ·) 0 + p.arrivals.length +
    p.channel.length + 2)

def runWithin (limit : Option Nat) : Nat → Pipe → Pipe
  | 0, p => p
  | fuel + 1, p =>
      let hungUp := if some p.received.length = limit then (p.act .hangUp).getD p else p
      match hungUp.act .receive <|> hungUp.act .send <|> hungUp.act .read with
      | some next => runWithin limit fuel next
      | none => hungUp

def run (limit : Option Nat) (p : Pipe) : Pipe := runWithin limit p.measure p

end Pipe

end Overseer.Stream
