import Overseer.Json.Decode

/-!
A snapshot: the values of all keys of one aggregator at one flush.
-/

namespace Overseer.Stats

structure Snapshot where
  scope : String
  timestamp : Int64
  series : List (String × Float)
  deriving BEq, Repr, Inhabited

namespace Snapshot

def get? (s : Snapshot) (key : String) : Option Float := s.series.lookup key

def dropLeading : List Char → List Char → Option (List Char)
  | [], s => some s
  | c :: lead, d :: s => if c = d then dropLeading lead s else none
  | _ :: _, [] => none

def stripScope (scope key : String) : String :=
  match dropLeading (scope.toList ++ ['.']) key.toList with
  | some rest => String.ofList rest
  | none => key

def keys (s : Snapshot) : List (String × Float) :=
  s.series.map fun (k, v) => (stripScope s.scope k, v)

def toJson (s : Snapshot) : Json.Value :=
  .obj [("prefix", .str s.scope), ("timestamp", .int s.timestamp.toInt),
    ("series", .arr (s.series.map fun (k, v) => .arr [.str k, .float v]))]

def readPoint : Json.Reader (String × Float) := fun origin d =>
  match d with
  | .arr items close => do
      let inner ← origin.enter
      let short (n : Nat) : Except Json.DecodeError (String × Float) := do
        Json.liftClose close
        .error (.data (.wrongLength n "a tuple of size 2"))
      match items with
      | [] => short 0
      | [k] => do
          let _ ← Json.readText inner k
          short 1
      | k :: v :: rest => do
          let k ← Json.readText inner k
          let v ← Json.readFloat inner v
          unless rest.isEmpty do throw (origin.overlong items.length)
          Json.liftClose close
          return (k, v)
  | d => d.mismatch "a tuple of size 2"

def form : Json.RecordForm Snapshot where
  name := "Snapshot"
  fields := [
    (Json.Field.of "prefix" Json.readText fun s t => { s with scope := t }).needed,
    (Json.Field.of "timestamp" Json.readSigned fun s n => { s with timestamp := .ofInt n }).needed,
    (Json.Field.of "series" (Json.readList readPoint) fun s ps => { s with series := ps }).needed]
  initial := ⟨"", 0, []⟩

def reader : Json.Reader Snapshot := form.read

end Snapshot

end Overseer.Stats
