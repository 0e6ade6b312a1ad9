import Overseer.Exec.Arguments
import Overseer.Exec.Template

/-!
From commands to programs: what a command of each kind runs.
-/

namespace Overseer.Exec

def stdinKey : String := "stdin"

def Extension.systemArgs (e : Extension) (arguments : Json.Value) : SystemArgs :=
  let fields := match arguments with
    | .obj fields => fields
    | _ => []
  let stdin := match fields.lookup stdinKey with
    | some (.str s) => s
    | _ => ""
  let rest := fields.filter fun f => f.1 != stdinKey
  ⟨e.program, e.dir, e.args.map fun t => Template.expand t rest, e.env, stdin⟩

def nullPosition? (s : String) : Option Nat :=
  (s.toUTF8.toList.zipIdx.find? fun (b, _) => b == 0).map (·.2)

structure Sandbox where
  root : String
  dir : String
  hostname : Option String
  deriving DecidableEq, Repr, Inhabited

def systemText (s : String) : Except ExecError String :=
  match nullPosition? s with
  | some n => .error (.spawn s!"nul byte found in provided data at position: {n}")
  | none => .ok s

def ContainerArgs.prepare (a : ContainerArgs) : Except ExecError (SystemArgs × Sandbox) := do
  if a.root.isEmpty then throw (.spawn "container root is not set")
  let root ← systemText a.root
  let dir ← systemText (if a.process.dir.isEmpty then "/" else a.process.dir)
  return ({ a.process with dir := "" }, ⟨root, dir, a.hostname⟩)

inductive ProgramKind where
  | system
  | container
  | extension (e : Extension)
  deriving DecidableEq, Repr, Inhabited

def systemKind : String := "core.system"
def containerKind : String := "core.container"

def liftArguments {α : Type} : Except InvalidArguments α → Except ExecError α
  | .ok a => .ok a
  | .error e => .error (.invalidArguments e)

def programOf (kind : ProgramKind) (c : Command) :
    Except ExecError (SystemArgs × Option Sandbox) := do
  let (program, sandbox) ← match kind with
    | .system => do pure (← liftArguments (c.argumentsAs SystemArgs.reader), none)
    | .container => do
        let (program, sandbox) ← (← liftArguments (c.argumentsAs ContainerArgs.reader)).prepare
        pure (program, some sandbox)
    | .extension e => pure (e.systemArgs c.arguments, none)
  if program.name.isEmpty then throw .missingProgram
  return (program, sandbox)

end Overseer.Exec
