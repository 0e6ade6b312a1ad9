import Overseer.Text.Blank

/-!
The state in which a job ends, and its name.
-/

namespace Overseer

inductive JobState where
  | success
  | error
  | timeout
  | killed
  | unknownCommand
  | duplicateId
  deriving DecidableEq, Repr, Inhabited

namespace JobState

def all : List JobState := [success, error, timeout, killed, unknownCommand, duplicateId]

def name : JobState → String
  | success => "SUCCESS"
  | error => "ERROR"
  | timeout => "TIMEOUT"
  | killed => "KILLED"
  | unknownCommand => "UNKNOWN_COMMAND"
  | duplicateId => "DUPLICATE_ID"

def isSuccess (s : JobState) : Bool := s == success

def ofName? (name : String) : Option JobState := all.find? (·.name == name)

def parse? (text : String) : Option JobState := ofName? (Text.trim text)

def unknownMessage (text : String) : String := s!"unknown job state: {Text.trim text}"

theorem ofName?_name (s : JobState) : ofName? s.name = some s := by
  cases s <;> decide

theorem parse?_name (s : JobState) : parse? s.name = some s := by
  cases s <;> rfl

end JobState

end Overseer
