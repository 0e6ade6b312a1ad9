import Overseer.Job.Command

/-!
An entry of the startup batch: a command that runs at boot once what it depends on is up. Besides
keys of other entries, three tags name the phases of the boot.
-/

namespace Overseer.Boot

inductive Phase where
  | init
  | net
  | boot
  deriving DecidableEq, Repr, Inhabited

namespace Phase

def name : Phase → String
  | init => "Init"
  | net => "Net"
  | boot => "Boot"

def weight : Phase → Int
  | init => 1
  | net => 1000
  | boot => 1000000

def ofTag? : String → Option Phase
  | "init" => some init
  | "net" => some net
  | "boot" => some boot
  | _ => none

end Phase

structure Entry where
  key : String
  name : String
  args : Json.Value
  after : List String
  runningDelay : Int64
  runningMatch : Option String
  maxRestart : UInt32
  recurringPeriod : UInt64
  deriving BEq, Repr, Inhabited

namespace Entry

def new (key name : String) : Entry := ⟨key, name, .null, [], 0, none, 0, 0⟩

def toJson (e : Entry) : Json.Value :=
  .obj <| [("key", .str e.key), ("name", .str e.name), ("args", e.args),
    ("after", .arr (e.after.map .str)), ("running_delay", .int e.runningDelay.toInt)] ++
    (match e.runningMatch with | some p => [("running_match", .str p)] | none => []) ++
    [("max_restart", .nat e.maxRestart.toNat), ("recurring_period", .nat e.recurringPeriod.toNat)]

def form : Json.RecordForm Entry where
  name := "Startup"
  fields := [
    .of "key" Json.readText fun e s => { e with key := s },
    (Json.Field.of "name" Json.readText fun e s => { e with name := s }).needed,
    .of "args" (fun origin d => Json.readAny origin d) fun e v => { e with args := v },
    .of "after" (Json.readList Json.readText) fun e ks => { e with after := ks },
    .of "running_delay" Json.readSigned fun e n => { e with runningDelay := .ofInt n },
    .of "running_match" (Json.readOption Json.readText) fun e p => { e with runningMatch := p },
    .of "max_restart" (Json.readUnsigned 32) fun e n => { e with maxRestart := n.toUInt32 },
    .of "recurring_period" (Json.readUnsigned 64) fun e n =>
      { e with recurringPeriod := n.toUInt64 }]
  initial := new "" ""

def reader : Json.Reader Entry := form.read

def toCommand (e : Entry) : Command :=
  { Command.new e.key e.name with
    arguments := e.args, maxRestart := e.maxRestart, recurringPeriod := e.recurringPeriod }

end Entry

end Overseer.Boot
