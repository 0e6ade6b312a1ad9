import Overseer.Host.ExitStatus

/-!
Signals to processes. Whom a signal reaches is told by a single number, and by its sign.
-/

namespace Overseer.Host

inductive Signal where
  | terminate
  | kill
  deriving DecidableEq, Repr

inductive Addressee where
  | process (pid : Nat)
  | group (leader : Nat)
  | senderGroup
  | everyone
  | nobody
  deriving DecidableEq, Repr

namespace Addressee

def ofPid (pid : Pid) : Addressee :=
  if 0 < pid then .process pid.toNat
  else if pid = 0 then .senderGroup
  else if pid = -1 then .everyone
  else .group pid.natAbs

def ofGroup (leader : Pid) : Addressee := if leader < 0 then .nobody else ofPid (-leader)

end Addressee

end Overseer.Host
