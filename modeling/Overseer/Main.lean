import Overseer.Agent.Rehearsal
import Overseer.Pattern.Meaning

/-!
The command line: settings come from the environment, and the first argument names the startup
batch. Whatever keeps the agent from starting is reported, and ends it with the code one.
-/

namespace Overseer

def readFile (path : String) : IO (Except Host.FileError (List UInt8)) := do
  try
    return .ok (← IO.FS.readBinFile path).toList
  catch
    | .permissionDenied .. => return .error .denied
    -- only a file that cannot even be opened is named
    | .inappropriateType name _ _ =>
        return .error (if name.isSome then .notDirectory else .isDirectory)
    | .invalidArgument .. => return .error .nameTooLong
    | _ => return .error .notFound

end Overseer

open Overseer

def main (args : List String) : IO UInt32 := do
  let names := [Log.Config.levelVariable, Log.Config.formatVariable, Agent.maxJobsVariable]
  let values ← names.mapM fun name => return (name, ← IO.getEnv name)
  let lookup (name : String) : Option String := (values.lookup name).join
  let contents ← match args.head? with
    | some path => readFile path
    | none => pure (.error .notFound)
  match Agent.prepare Pattern.isFieldPattern lookup args fun _ => contents with
  | .error e => do
      IO.eprint (Agent.report e.chain)
      return 1
  | .ok (settings, entries) => do
      for line in Agent.rehearsal settings entries do
        IO.println line
      return 0
