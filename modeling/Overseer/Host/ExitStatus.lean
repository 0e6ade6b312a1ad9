/-!
How a process ended, as far as waiting for it tells.
-/

namespace Overseer.Host

abbrev Pid := Int

inductive WaitEvent where
  | exited (pid : Pid) (code : Int)
  | signaled (pid : Pid) (signal : Int) (dumped : Bool)
  | stopped (pid : Pid) (signal : Int)
  | continued (pid : Pid)
  | stillAlive
  deriving DecidableEq, Repr

structure ExitStatus where
  pid : Pid
  code : Option Int
  signal : Option Int
  deriving DecidableEq, Repr, Inhabited

namespace ExitStatus

def isSuccess (s : ExitStatus) : Bool := s.code == some 0

def ofEvent? : WaitEvent → Option ExitStatus
  | .exited pid code => some ⟨pid, some code, none⟩
  | .signaled pid signal _ => some ⟨pid, none, some signal⟩
  | _ => none

end ExitStatus

end Overseer.Host
