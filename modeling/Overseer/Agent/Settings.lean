import Overseer.Boot.Entry
import Overseer.Decimal.Whole
import Overseer.Host.FileError
import Overseer.Log.Config
import Overseer.Manager.Config

/-!
The settings of the agent, and how it starts: it reads its settings from the environment, sets up
the log, and reads the startup batch named on the command line. The first thing that fails ends it.
-/

namespace Overseer.Agent

inductive AgentError where
  | logSettings (cause : Log.LogError)
  | maxJobs (raw : String) (cause : Decimal.NumberError)
  | log (cause : Log.LogError)
  | readBatch (path : String) (cause : Host.FileError)
  | parseBatch (path : String) (cause : Json.DecodeError)
  deriving Repr

def maxJobsVariable : String := "PMD_MAX_JOBS"

def AgentError.chain : AgentError → List String
  | .logSettings cause => ["logger configuration", cause.message]
  | .maxJobs raw cause =>
      [maxJobsVariable ++ "=" ++ Text.quoted raw ++ " is not a number", cause.message]
  | .log cause => [cause.message]
  | .readBatch path cause => [s!"read startup batch {path}", cause.message]
  | .parseBatch path cause => [s!"parse startup batch {path}", cause.message]

def report : List String → String
  | [] => ""
  | [what] => s!"Error: {what}\n"
  | what :: cause :: _ => s!"Error: {what}\n\nCaused by:\n    {cause}\n"

structure Settings where
  log : Log.Config
  manager : Manager.Config
  startup : Option String
  deriving Repr, Inhabited

def Settings.load (lookup : String → Option String) (args : List String) :
    Except AgentError Settings := do
  let log ← match Log.Config.ofEnvironment lookup with
    | .ok c => pure c
    | .error e => throw (.logSettings e)
  let maxJobs ← match lookup maxJobsVariable with
    | none => pure Manager.Config.default.maxJobs
    | some raw => match Decimal.readNat (Nat.pow 2 64) (Text.trimChars raw.toList) with
      | .ok n => pure n
      | .error e => throw (.maxJobs raw e)
  return ⟨log, { Manager.Config.default with maxJobs }, args.head?⟩

def readBatch (path : String) (contents : Except Host.FileError (List UInt8)) :
    Except AgentError (List Boot.Entry) :=
  match contents with
  | .error e => .error (.readBatch path e)
  | .ok bytes => match Json.decode (Json.readList Boot.Entry.reader) (.ofBytes bytes) with
    | .ok entries => .ok entries
    | .error e => .error (.parseBatch path e)

def prepare (isPattern : String → Bool) (lookup : String → Option String) (args : List String)
    (files : String → Except Host.FileError (List UInt8)) :
    Except AgentError (Settings × List Boot.Entry) := do
  let settings ← Settings.load lookup args
  match settings.log.install isPattern false with
  | .ok () => pure ()
  | .error e => throw (.log e)
  match settings.startup with
  | none => return (settings, [])
  | some path => return (settings, ← readBatch path (files path))

end Overseer.Agent
