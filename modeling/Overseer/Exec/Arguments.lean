import Overseer.Job.Command

/-!
The arguments of commands that spawn processes, and what can be wrong with them.
-/

namespace Overseer.Exec

inductive ExecError where
  | invalidArguments (cause : InvalidArguments)
  | missingProgram
  | spawn (cause : String)
  | unknownJob (id : String)
  deriving Repr

def ExecError.message : ExecError → String
  | .invalidArguments cause => s!"invalid arguments: {cause.message}"
  | .missingProgram => "missing program"
  | .spawn cause => s!"spawn failed: {cause}"
  | .unknownJob id => s!"no running job '{id}'"

structure SystemArgs where
  name : String
  dir : String
  args : List String
  env : List (String × String)
  stdin : String
  deriving DecidableEq, Repr, Inhabited

structure ContainerArgs where
  process : SystemArgs
  root : String
  hostname : Option String
  deriving DecidableEq, Repr, Inhabited

structure Extension where
  program : String
  dir : String
  args : List String
  env : List (String × String)
  deriving DecidableEq, Repr, Inhabited

namespace SystemArgs

def empty : SystemArgs := ⟨"", "", [], [], ""⟩

def form : Json.RecordForm SystemArgs where
  name := "SystemArgs"
  fields := [
    .of "name" Json.readText fun a s => { a with name := s },
    .of "dir" Json.readText fun a s => { a with dir := s },
    .of "args" (Json.readList Json.readText) fun a xs => { a with args := xs },
    .of "env" (Json.readMap Json.readText) fun a e => { a with env := e },
    .of "stdin" Json.readText fun a s => { a with stdin := s }]
  initial := empty

def reader : Json.Reader SystemArgs := form.read

end SystemArgs

namespace ContainerArgs

def ownForm : Json.RecordForm ContainerArgs where
  name := "ContainerArgs"
  fields := [
    .of "chroot" Json.readText fun a s => { a with root := s },
    .of "hostname" (Json.readOption Json.readText) fun a s => { a with hostname := s }]
  initial := ⟨.empty, "", none⟩

/-- Reads an object that holds the fields of the container and those of its program side by side;
the former are read first. -/
def reader : Json.Reader ContainerArgs := fun origin d =>
  match d with
  | .obj _ _ => do
      let container ← ownForm.read origin d
      let process ← SystemArgs.form.read origin d
      return { container with process }
  | d => d.mismatch s!"struct {ownForm.name}"

end ContainerArgs

namespace Extension

def form : Json.RecordForm Extension where
  name := "Extension"
  fields := [
    .of "exe" Json.readText fun e s => { e with program := s },
    .of "cwd" Json.readText fun e s => { e with dir := s },
    .of "args" (Json.readList Json.readText) fun e xs => { e with args := xs },
    .of "env" (Json.readMap Json.readText) fun e m => { e with env := m }]
  initial := ⟨"", "", [], []⟩

def reader : Json.Reader Extension := form.read

end Extension

end Overseer.Exec
