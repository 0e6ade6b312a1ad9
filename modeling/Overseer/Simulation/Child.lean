import Overseer.Exec.Prepare
import Overseer.Exec.Pump
import Overseer.Host.FileError
import Overseer.Simulation.Script
import Overseer.Simulation.Shell.Run
import Overseer.Stream.Parser

/-!
Simulated child processes: programs that are run to their end beforehand, and played as scripts.
-/

namespace Overseer.Simulation.Child

open Exec Shell

open Host

def directoryOf (dir : String) : Except FileError Place :=
  if dir.isEmpty then .ok workPlace
  else
    match machineFiles.find workPlace dir with
    | .ok (place, .directory) => .ok place
    | .ok _ => .error .notDirectory
    | .error e => .error e

def locate (path : List String) (dir : Place) (name : String) : Except FileError String :=
  if name.isEmpty then .error .notFound
  else if name.toList.contains '/' then (machineFiles.startable dir name).map fun _ => name
  else if FileTree.maxName < name.utf8ByteSize then .error .nameTooLong
  else machineFiles.search dir path name

def environmentOf (env : List (String × String)) : List (String × String) :=
  let sorted := env.mergeSort fun a b => a.1 ≤ b.1
  sorted.map fun (name, value) =>
    match Text.cutAt '=' (name ++ "=" ++ value).toList with
    | some (name, value) => (inOctets (String.ofList name), inOctets (String.ofList value))
    | none => (name, value)

def execute (a : SystemArgs) : Except String Outcome := do
  let texts := a.name :: a.dir :: a.args ++ a.env.flatMap fun e => [e.1, e.2]
  if texts.any fun s => (nullPosition? s).isSome then throw "nul byte found in provided data"
  let path := match a.env.lookup "PATH" with
    | some p => (Text.pieces ':' p.toList).map String.ofList
    | none => searchPath
  let found : Except FileError Outcome := do
    let dir ← directoryOf a.dir
    let program ← locate path dir a.name
    return runMain (inOctets a.name) program (a.args.map inOctets) (environmentOf a.env) dir
      machineFiles (octetText a.stdin.toUTF8.toList)
  found.mapError FileError.message

def timedLines (ends : Nat) : List UInt8 → List (Nat × UInt8) → List (Nat × List UInt8)
  | acc, [] => if acc.isEmpty then [] else [(ends, acc.reverse)]
  | acc, (t, b) :: rest =>
      if b = 10 then (t, acc.reverse) :: timedLines ends [] rest
      else timedLines ends (b :: acc) rest

def timedMessages (p : Stream.Parser) : List (Nat × List UInt8) → List (Nat × Message)
  | [] => []
  | (t, line) :: rest =>
      let (p, m) := p.feed (Text.Utf8.lossy line)
      m.toList.map (fun m => (t, m)) ++ timedMessages p rest

def streamMessages (o : Outcome) (channel : Channel) (default : Level) : List (Nat × Message) :=
  let bytes := (o.written.filter (·.channel == channel)).flatMap fun w =>
    w.bytes.map fun b => (w.time, b)
  timedMessages (.new default) (timedLines o.time [] bytes)

def exitStatus (o : Outcome) : Host.ExitStatus :=
  match o.ending with
  | .exited code => ⟨mainPid, some code, none⟩
  | .signaled n => ⟨mainPid, none, some n⟩

def messages (o : Outcome) : List (Nat × Message) :=
  let printed := (streamMessages o .output .stdout ++ streamMessages o .errors .stderr).mergeSort
    fun a b => a.1 ≤ b.1
  let passed := printed.filterMap fun (t, m) =>
    (intercept (Meter.new.attach mainPid) m).2.map fun m => (t, m)
  passed ++ [(o.time, .exit (endState (some (exitStatus o))))]

def cues (now : Nat) : List (Nat × Message) → List Cue
  | [] => []
  | (t, m) :: rest => ⟨t - now, some m⟩ :: cues t rest

def script (kind : ProgramKind) (c : Command) : Script :=
  let failing (error : ExecError) : Script := { Script.silent with failure := some error.message }
  match programOf kind c with
  | .error e => failing e
  | .ok (program, sandbox) =>
      match execute program with
      | .error text => failing (.spawn s!"{program.name}: {text}")
      | .ok outcome =>
          if sandbox.isSome then
            failing (.spawn s!"{program.name}: Operation not permitted (os error 1)")
          else
            { Script.silent with
              cues := cues 0 (messages outcome)
              finale := [⟨0, some (.exit (endState none))⟩]
              pid := some mainPid }

end Overseer.Simulation.Child
