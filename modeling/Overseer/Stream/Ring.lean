/-!
The last lines of an output stream.
-/

namespace Overseer.Stream

structure Ring where
  capacity : Nat
  lines : List String
  deriving DecidableEq, Repr, Inhabited

namespace Ring

def new (capacity : Nat) : Ring := ⟨max capacity 1, []⟩

def push (r : Ring) (line : String) : Ring :=
  let kept := if r.lines.length = r.capacity then r.lines.drop 1 else r.lines
  { r with lines := kept ++ [line] }

def size (r : Ring) : Nat := r.lines.length

def isEmpty (r : Ring) : Bool := r.lines.isEmpty

def contents (r : Ring) : String := String.join (r.lines.map (· ++ "\n"))

end Ring

end Overseer.Stream
