import Overseer.Host.ExitStatus

/-!
The registry of child processes. A child is entered under the lock under which it is spawned, and
the reaper collects under the same lock, so that no child ends unseen. Each entry has a channel of
its own, named by a ticket: the reaper sends the status into it and the one who waits takes it out.
-/

namespace Overseer.Host

inductive WaitAnswer where
  | status (s : ExitStatus)
  | notRegistered (pid : Pid)
  | lost (pid : Pid)
  deriving DecidableEq, Repr, Inhabited

def WaitAnswer.message? : WaitAnswer → Option String
  | .status _ => none
  | .notRegistered pid => some s!"pid {pid} is not registered or already awaited"
  | .lost pid => some s!"exit status of pid {pid} was lost"

structure Registry where
  senders : List (Pid × Nat)
  receivers : List (Pid × Nat)
  sent : List (Nat × ExitStatus)
  nextTicket : Nat
  deriving DecidableEq, Repr, Inhabited

namespace Registry

def empty : Registry := ⟨[], [], [], 0⟩

def bind (pid : Pid) (ticket : Nat) (entries : List (Pid × Nat)) : List (Pid × Nat) :=
  (pid, ticket) :: entries.filter fun e => e.1 != pid

def register (r : Registry) : Option Pid → Registry
  | none => r
  | some pid =>
      { r with
        senders := bind pid r.nextTicket r.senders
        receivers := bind pid r.nextTicket r.receivers
        nextTicket := r.nextTicket + 1 }

def collect (r : Registry) (s : ExitStatus) : Registry :=
  match r.senders.lookup s.pid with
  | none => r
  | some ticket =>
      { r with
        senders := r.senders.filter fun e => e.1 != s.pid
        sent := (ticket, s) :: r.sent }

def reap (r : Registry) (ready : List ExitStatus) : Registry := ready.foldl collect r

/-- Begins to wait for a child: the channel to wait at. Each child can be awaited once. -/
def claim (r : Registry) (pid : Pid) : Registry × Option Nat :=
  match r.receivers.lookup pid with
  | none => (r, none)
  | some ticket => ({ r with receivers := r.receivers.filter fun e => e.1 != pid }, some ticket)

/-- What came out of a channel, if the waiting is over. A channel whose sender was replaced before
anything was sent has nothing to give. -/
def answer? (r : Registry) (pid : Pid) (ticket : Nat) : Option WaitAnswer :=
  match r.sent.lookup ticket with
  | some s => some (.status s)
  | none => if r.senders.any fun e => e.2 == ticket then none else some (.lost pid)

def pending (r : Registry) : Nat := r.senders.length

end Registry

end Overseer.Host
