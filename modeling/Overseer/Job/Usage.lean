import Overseer.Json.Decode

/-!
The resources that a process uses at one moment.
-/

namespace Overseer

structure Usage where
  cpu : Float
  rss : UInt64
  vms : UInt64
  swap : UInt64
  deriving BEq, Repr, Inhabited

namespace Usage

def zero : Usage := ⟨0.0, 0, 0, 0⟩

def merge (a b : Usage) : Usage := ⟨a.cpu + b.cpu, a.rss + b.rss, a.vms + b.vms, a.swap + b.swap⟩

def toJson (u : Usage) : Json.Value :=
  .obj [("cpu", .float u.cpu), ("rss", .nat u.rss.toNat), ("vms", .nat u.vms.toNat),
    ("swap", .nat u.swap.toNat)]

def form : Json.RecordForm Usage where
  name := "ProcessStats"
  fields := [
    (Json.Field.of "cpu" Json.readFloat fun u x => { u with cpu := x }).needed,
    (Json.Field.of "rss" (Json.readUnsigned 64) fun u n => { u with rss := n.toUInt64 }).needed,
    (Json.Field.of "vms" (Json.readUnsigned 64) fun u n => { u with vms := n.toUInt64 }).needed,
    (Json.Field.of "swap" (Json.readUnsigned 64) fun u n => { u with swap := n.toUInt64 }).needed]
  initial := zero

def reader : Json.Reader Usage := form.read

end Usage

end Overseer
