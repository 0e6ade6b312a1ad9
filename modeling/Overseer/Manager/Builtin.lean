import Overseer.Exec.Arguments
import Overseer.Manager.Step

/-!
The built-in commands, which need no process of their own: they answer with a value, or with the
text of an error.
-/

namespace Overseer.Manager

inductive Builtin where
  | ping
  | osInfo
  | memoryInfo
  | kill
  | killAll
  | jobs
  deriving DecidableEq, Repr, Inhabited

structure HostInfo where
  os : List (String × Json.Value)
  memory : List (String × Json.Value)
  deriving BEq, Repr, Inhabited

namespace Builtin

def all : List Builtin := [ping, osInfo, memoryInfo, kill, killAll, jobs]

def kind : Builtin → String
  | ping => "core.ping"
  | osInfo => "info.os"
  | memoryInfo => "info.mem"
  | kill => "core.kill"
  | killAll => "core.killall"
  | jobs => "core.jobs"

def killForm : Json.RecordForm String where
  name := "KillArgs"
  fields := [(Json.Field.of "id" Json.readText fun _ id => id).needed]
  initial := ""

def killOne (s : System) (c : Command) : List Action × Except String Json.Value :=
  match c.argumentsAs killForm.read with
  | .error e => ([], .error (Exec.ExecError.invalidArguments e).message)
  | .ok id =>
      if (s.registry.lookup id).isSome then ([.call (.kill id)], .ok (.bool true))
      else ([], .error (Exec.ExecError.unknownJob id).message)

def killOthers (s : System) (c : Command) : List Action × Except String Json.Value :=
  let others := s.registry.filter fun job => job.1 != c.id
  (others.map fun job => .runner job.2 .kill, .ok (.nat others.length))

def listJobs (s : System) : Json.Value :=
  let rows := s.registry.filterMap fun (id, i) =>
    s.runners[i]?.map fun r =>
      (id, Json.Value.obj [("id", .str id), ("command", .str r.command.command),
        ("stats", r.usage.toJson)])
  (Json.Value.arr ((rows.mergeSort fun a b => a.1 ≤ b.1).map (·.2))).canonical

def perform (host : HostInfo) (s : System) (c : Command) :
    Builtin → List Action × Except String Json.Value
  | ping => ([], .ok (.str "pong"))
  | osInfo => ([], .ok (.ofFields host.os))
  | memoryInfo => ([], .ok (.ofFields host.memory))
  | kill => killOne s c
  | killAll => killOthers s c
  | jobs => ([], .ok (listJobs s))

def messages : Except String Json.Value → List Message
  | .ok value => [.new .resultJson value.text, .exit .success]
  | .error text => [.new .resultJson (Json.Value.str text).text, .exit .error]

end Builtin

end Overseer.Manager
