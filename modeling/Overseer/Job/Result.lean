import Overseer.Job.Command

/-!
The result of a job.
-/

namespace Overseer

structure JobResult where
  id : String
  command : String
  data : String
  level : Level
  streams : String × String
  critical : String
  state : JobState
  startTime : Int64
  time : UInt64
  tags : String
  deriving DecidableEq, Repr, Inhabited

namespace JobResult

def new (c : Command) (state : JobState) : JobResult where
  id := c.id
  command := c.command
  data := ""
  level := ⟨0⟩
  streams := ("", "")
  critical := ""
  state
  startTime := 0
  time := 0
  tags := c.tags

def toJson (r : JobResult) : Json.Value :=
  .obj <| [("id", .str r.id), ("command", .str r.command), ("data", .str r.data),
    ("level", r.level.toJson), ("streams", .arr [.str r.streams.1, .str r.streams.2]),
    ("critical", .str r.critical), ("state", r.state.toJson),
    ("start_time", .int r.startTime.toInt), ("time", .nat r.time.toNat)] ++
    Command.unlessEmpty "tags" r.tags

def form : Json.RecordForm JobResult where
  name := "JobResult"
  fields := [
    (Json.Field.of "id" Json.readText fun r s => { r with id := s }).needed,
    (Json.Field.of "command" Json.readText fun r s => { r with command := s }).needed,
    (Json.Field.of "data" Json.readText fun r s => { r with data := s }).needed,
    (Json.Field.of "level" Level.reader fun r l => { r with level := l }).needed,
    (Json.Field.of "streams" (Json.readPair Json.readText) fun r p =>
      { r with streams := p }).needed,
    (Json.Field.of "critical" Json.readText fun r s => { r with critical := s }).needed,
    (Json.Field.of "state" JobState.reader fun r s => { r with state := s }).needed,
    (Json.Field.of "start_time" Json.readSigned fun r n =>
      { r with startTime := .ofInt n }).needed,
    (Json.Field.of "time" (Json.readUnsigned 64) fun r n =>
      { r with time := n.toUInt64 }).needed,
    .of "tags" Json.readText fun r s => { r with tags := s }]
  initial := new (.new "" "") .success

def reader : Json.Reader JobResult := form.read

end JobResult

end Overseer
