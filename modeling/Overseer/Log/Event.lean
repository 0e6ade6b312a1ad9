import Overseer.Job.Result

/-!
The log events of jobs: how severe a message or a result is, and which fields its event carries.
-/

namespace Overseer.Log

inductive Severity where
  | trace
  | debug
  | info
  | warn
  | error
  deriving DecidableEq, Repr, Inhabited

def Severity.name : Severity → String
  | trace => "TRACE"
  | debug => "DEBUG"
  | info => "INFO"
  | warn => "WARN"
  | error => "ERROR"

def severityOf (l : Level) : Severity :=
  if l ∈ [.stdout, .announce, .unknown, .structured] then .info
  else if l ∈ [.stderr, .warning] then .warn
  else if l ∈ [.operator, .operatorError, .critical] then .error
  else if l = .debug then .debug
  else .trace

def stateMessage : JobState → String
  | .success => "job succeeded"
  | .error => "job failed"
  | .timeout => "job exceeded its max time"
  | .killed => "job killed"
  | .unknownCommand => "job rejected: unknown command type"
  | .duplicateId => "job rejected: id already running"

inductive FieldValue where
  | nat (n : Nat)
  | text (s : String)
  deriving DecidableEq, Repr

structure Event where
  severity : Severity
  target : String
  fields : List (String × FieldValue)
  deriving DecidableEq, Repr

def jobTarget : String := "pmd.job"

def messageEvent (c : Command) (m : Message) : Event where
  severity := severityOf m.level
  target := jobTarget
  fields := [("id", .text c.id), ("level", .nat m.level.toNat), ("message", .text m.content)]

def resultSeverity : JobState → Severity
  | .success | .killed => .info
  | .timeout | .unknownCommand | .duplicateId => .warn
  | .error => .error

def resultEvent (c : Command) (r : JobResult) : Event where
  severity := resultSeverity r.state
  target := jobTarget
  fields :=
    [("id", .text c.id), ("command", .text c.command), ("message", .text (stateMessage r.state))] ++
      (if r.state ∈ [.unknownCommand, .duplicateId] then []
        else [("time_ms", .nat r.time.toNat)]) ++
      (if r.state = .error ∧ r.critical ≠ "" then [("critical", .text r.critical)] else [])

end Overseer.Log
