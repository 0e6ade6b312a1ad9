import Overseer.Job.Level
import Overseer.Job.State
import Overseer.Json.Decode

/-!
A message of a running job, and its wire form. Times are nanoseconds since 1970 and milliseconds on
the wire, the rest being cut off toward zero.
-/

namespace Overseer

def Level.toJson (l : Level) : Json.Value := .nat l.toNat

def Level.reader : Json.Reader Level := fun origin d =>
  (Json.readUnsigned 16 origin d).map .ofNat

def JobState.toJson (s : JobState) : Json.Value := .str s.name

def JobState.reader : Json.Reader JobState :=
  Json.readName (JobState.all.map fun s => (s.name, s))

structure Message where
  level : Level
  content : String
  epoch : Int64
  deriving DecidableEq, Repr, Inhabited

namespace Message

def new (level : Level) (content : String) : Message := ⟨level, content, 0⟩

def exit (state : JobState) : Message := new .exitState state.name

def stamp (m : Message) (now : Int64) : Message := { m with epoch := now }

def text (m : Message) : String := s!"{m.level.text}|{m.content}"

def nanosPerMilli : Int := 1000000

def toJson (m : Message) : Json.Value :=
  .obj [("epoch", .int (m.epoch.toInt.tdiv nanosPerMilli)), ("level", m.level.toJson),
    ("data", .str m.content)]

def form : Json.RecordForm Message where
  name := "WireIn"
  fields := [
    .of "epoch" Json.readSigned fun m e => { m with epoch := .ofInt (e * nanosPerMilli) },
    (Json.Field.of "level" Level.reader fun m l => { m with level := l }).needed,
    .of "data" Json.readText fun m s => { m with content := s }]
  initial := ⟨⟨0⟩, "", 0⟩

def reader : Json.Reader Message := form.read

end Message

end Overseer
