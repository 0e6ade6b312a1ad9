import Overseer.Stream.Parser
import Overseer.Text.Utf8

/-!
A reader: it turns the bytes of an output stream into messages, one line after the other, and offers
each of them to a channel before it goes on.
-/

namespace Overseer.Stream

inductive Arrival where
  | bytes (bs : List UInt8)
  | ended
  | failed
  deriving DecidableEq, Repr

structure Reader where
  arrivals : List Arrival
  buffer : List UInt8
  parser : Parser
  forwarding : Bool
  outgoing : Option Message
  finished : Bool
  deriving DecidableEq, Repr, Inhabited

def lineFeed : UInt8 := 10

namespace Reader

def start (default : Level) (arrivals : List Arrival) : Reader where
  arrivals
  buffer := []
  parser := .new default
  forwarding := true
  outgoing := none
  finished := false

def takeLine (r : Reader) (line : List UInt8) : Reader :=
  let (parser, m) := r.parser.feed (Text.Utf8.lossy line)
  { r with parser, outgoing := if r.forwarding then m else none }

/-- Reads a line from the buffer, or more bytes. What is left at the end counts as a line; at a
failure it is lost. -/
def read (r : Reader) : Reader :=
  match r.buffer.dropWhile (· != lineFeed) with
  | _ :: rest => { r with buffer := rest }.takeLine (r.buffer.takeWhile (· != lineFeed))
  | [] =>
      match r.arrivals with
      | .bytes bs :: arrivals => { r with arrivals, buffer := r.buffer ++ bs }
      | .failed :: _ => { r with buffer := [], finished := true }
      | _ =>
          if r.buffer.isEmpty then { r with finished := true }
          else { r with buffer := [] }.takeLine r.buffer

def read? (r : Reader) : Option Reader :=
  if r.finished || r.outgoing.isSome then none else some r.read

end Reader

end Overseer.Stream
