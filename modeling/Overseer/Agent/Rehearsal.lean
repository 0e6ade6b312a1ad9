import Overseer.Agent.Settings
import Overseer.Boot.Tree
import Overseer.Log.Event
import Overseer.Simulation.Machine

/-!
The rehearsal of a startup batch: the agent boots it on the simulated machine, asks all jobs to end
after a while, and tells what its log would hold.
-/

namespace Overseer.Agent

open Manager Simulation

def rehearsalTime : Nat := 60000

def graceTime : Nat := 5000

def rehearse (settings : Settings) (tree : Boot.Tree) : Machine :=
  let m := (Machine.new settings.manager Machine.localhost).registerDefaults
  let m := (m.call .start).call (.boot tree.cohorts)
  ((m.advance rehearsalTime).call .killAll).advance graceTime

def logEvent? (m : Machine) (e : LogEntry) : Option Log.Event :=
  let command := (e.runner.bind fun i => m.system.runners[i]?).map (·.command)
  match command, e.event with
  | some c, .message message => some (Log.messageEvent c message)
  | some c, .result r => some (Log.resultEvent c r)
  | none, .result r => some (Log.resultEvent (.new r.id r.command) r)
  | _, _ => none

def fieldText : String × Log.FieldValue → String
  | (name, .nat n) => s!"{name}={n}"
  | (name, .text s) => s!"{name}={Text.quoted s}"

def eventText (e : Log.Event) : String :=
  s!"{e.severity.name} {e.target}: " ++ " ".intercalate (e.fields.map fieldText)

def rehearsal (settings : Settings) (entries : List Boot.Entry) : List String :=
  let (tree, errors) := Boot.Tree.ofEntries entries
  let m := rehearse settings tree
  errors.map (fun e => s!"{Log.Severity.error.name} startup entry skipped: {e.message}") ++
    (m.history.filterMap (logEvent? m)).map eventText

end Overseer.Agent
