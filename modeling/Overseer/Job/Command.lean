import Overseer.Job.Message

/-!
A command: the order to run a job, with its limits and its wire form.
-/

namespace Overseer

structure Command where
  id : String
  command : String
  arguments : Json.Value
  queue : String
  statsInterval : UInt64
  maxTime : UInt64
  maxRestart : UInt32
  recurringPeriod : UInt64
  logLevels : List Level
  tags : String
  route : String
  deriving BEq, Repr, Inhabited

structure InvalidArguments where
  command : String
  cause : Json.DecodeError
  deriving Repr

def InvalidArguments.message (e : InvalidArguments) : String :=
  s!"invalid arguments for '{e.command}': {e.cause.message}"

namespace Command

def payloadMessage (m : Json.Mismatch) : String := s!"invalid command payload: {m.message}"

def new (id command : String) : Command where
  id; command
  arguments := .null
  queue := ""
  statsInterval := 0
  maxTime := 0
  maxRestart := 0
  recurringPeriod := 0
  logLevels := []
  tags := ""
  route := ""

def accepts (c : Command) (l : Level) : Bool := c.logLevels.isEmpty || c.logLevels.contains l

def text (c : Command) : String := s!"({c.id}# {c.command})"

def unlessEmpty (name value : String) : List (String × Json.Value) :=
  if value.isEmpty then [] else [(name, .str value)]

def toJson (c : Command) : Json.Value :=
  .obj <| [("id", .str c.id), ("command", .str c.command), ("arguments", c.arguments)] ++
    unlessEmpty "queue" c.queue ++
    [("stats_interval", .nat c.statsInterval.toNat), ("max_time", .nat c.maxTime.toNat),
      ("max_restart", .nat c.maxRestart.toNat),
      ("recurring_period", .nat c.recurringPeriod.toNat)] ++
    (if c.logLevels.isEmpty then [] else [("log_levels", .arr (c.logLevels.map Level.toJson))]) ++
    unlessEmpty "tags" c.tags

def form : Json.RecordForm Command where
  name := "Command"
  fields := [
    .of "id" Json.readText fun c s => { c with id := s },
    (Json.Field.of "command" Json.readText fun c s => { c with command := s }).needed,
    .of "arguments" readAnyValue fun c v => { c with arguments := v },
    .of "queue" Json.readText fun c s => { c with queue := s },
    .of "stats_interval" (Json.readUnsigned 64) fun c n => { c with statsInterval := n.toUInt64 },
    .of "max_time" (Json.readUnsigned 64) fun c n => { c with maxTime := n.toUInt64 },
    .of "max_restart" (Json.readUnsigned 32) fun c n => { c with maxRestart := n.toUInt32 },
    .of "recurring_period" (Json.readUnsigned 64) fun c n =>
      { c with recurringPeriod := n.toUInt64 },
    .of "log_levels" (Json.readList Level.reader) fun c ls => { c with logLevels := ls },
    .of "tags" Json.readText fun c s => { c with tags := s }]
  initial := new "" ""
where
  readAnyValue : Json.Reader Json.Value := fun origin d => Json.readAny origin d

def reader : Json.Reader Command := form.read

def load (freshId : String) (source : Json.Source) : Except Json.DecodeError Command := do
  let c ← Json.decode reader source
  return if c.id.isEmpty then { c with id := freshId } else c

def argumentsAs {α : Type} (read : Json.Reader α) (c : Command) : Except InvalidArguments α :=
  match Json.decodeValue read c.arguments with
  | .ok a => .ok a
  | .error e => .error ⟨c.command, e⟩

end Command

end Overseer
