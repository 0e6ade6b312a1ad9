import Overseer.Simulation.Shell.Number
import Overseer.Simulation.Shell.State

/-!
Signals, traps, and waiting for jobs. A job runs to its end when it is started; a signal that ends
it earlier takes back what it did later, but not what other processes did that it had started by
then.
-/

namespace Overseer.Simulation.Shell

def signalNames : List String :=
  ["EXIT", "HUP", "INT", "QUIT", "ILL", "TRAP", "ABRT", "BUS", "FPE", "KILL", "USR1", "SEGV",
    "USR2", "PIPE", "ALRM", "TERM", "STKFLT", "CHLD", "CONT", "STOP", "TSTP", "TTIN", "TTOU", "URG",
    "XCPU", "XFSZ", "VTALRM", "PROF", "WINCH", "IO", "PWR", "SYS"]

def signalLimit : Nat := 65

def signalName (n : Nat) : String := (signalNames[n]?).getD (toString n)

def signalNumber? (least : Nat) (s : String) : Option Nat :=
  match count? s.toList with
  | some n => if n < signalLimit then some n else none
  | none =>
      (signalNames.findIdx? fun n => n.toList == s.toList.map Char.toUpper).filter (least ≤ ·)

def harmless (n : Nat) : Bool := [17, 18, 19, 20, 21, 22, 23, 28].contains n

namespace State

def receive (s : State) (n : Nat) : State :=
  let ends (s : State) : State := { s with ended := some (.signaled n) }
  match s.traps.lookup n with
  | some action =>
      if n = 9 then ends s
      else if action.isEmpty then s
      else { s with trapped := s.trapped ++ [action] }
  | none => if n = 0 || harmless n then s else ends s

def minds (s : State) (n : Nat) : Bool :=
  match s.traps.lookup n with
  | some action => !action.isEmpty
  | none => !harmless n

def receiveDue (s : State) : State :=
  let (due, later) := s.alarms.partition fun a => a.target == s.pid && decide (a.time ≤ s.clock)
  if due.isEmpty then s
  else
    (due.mergeSort fun a b => a.time ≤ b.time).foldl (fun s a =>
      if s.ended.isSome then s
      else
        let after := s.receive a.signal
        if after.ended.isSome then { after with clock := a.time } else after)
      { s with alarms := later }

def endJob (s : State) (n : Nat) (j : Job) : State :=
  let inside (pid : Nat) : Bool := decide (j.pid ≤ pid) && decide (pid ≤ j.last)
  let survivors := s.jobs.filter fun k =>
    inside k.pid && k.pid != j.pid && decide (k.starts ≤ s.clock)
  let survives (pid : Nat) : Bool :=
    survivors.any fun k => decide (k.pid ≤ pid) && decide (pid ≤ k.last)
  let undone (pid time : Nat) : Bool :=
    inside pid && !survives pid && decide (s.clock < time)
  { s with
    jobs := s.jobs.map fun k =>
      if k.pid = j.pid then { k with ends := s.clock, ending := .signaled n }
      else if undone k.pid k.starts then { k with ends := k.starts, holds := [] }
      else k
    written := s.written.filter fun w => !undone w.pid w.time
    alarms := s.alarms.filter fun a => !undone a.sender a.time }

def send (s : State) (n : Nat) (target : Int) : State × Bool :=
  if target ≤ 0 then
    let running := s.jobs.filter fun j => decide (s.clock < j.ends)
    let s := if n = 0 then s else running.foldl (fun s j => s.endJob n j) s
    let s := if s.pid = mainPid then s
      else { s with alarms := ⟨s.clock, s.pid, mainPid, n⟩ :: s.alarms }
    (s.receive n, true)
  else
    let pid := target.toNat
    if pid = s.pid then (s.receive n, true)
    else
      match s.jobs.find? fun j => j.pid == pid && !j.reaped with
      | some j =>
          (if n = 0 || harmless n || decide (j.ends ≤ s.clock) then s else s.endJob n j, true)
      | none =>
          if pid = mainPid || pid = s.shellPid then
            ({ s with alarms := ⟨s.clock, s.pid, pid, n⟩ :: s.alarms }, true)
          else (s, false)

def killUsage : String :=
  "Usage: kill [-s sigspec | -signum | -sigspec] [pid | job]... or\nkill -l [exitstatus]"

def jobNamed (s : State) (spec : String) : Except String Job :=
  let own := (s.jobs.filter (·.own)).reverse
  let rest := spec.toList.drop 1
  match count? rest with
  | some n =>
      match own[n - 1]? with
      | some j => if n = 0 then .error s!"No such job: {spec}" else .ok j
      | none => .error s!"No such job: {spec}"
  | none =>
      if rest.isEmpty || rest == ['%'] || rest == ['+'] then
        match own.getLast? with
        | some j => .ok j
        | none => .error "No current job"
      else .error s!"No such job: {spec}"

def killAll (n : Nat) : List String → State → State
  | [], s => s
  | t :: rest, s =>
      let missing (s : State) : State :=
        killAll n rest ((s.complain "No such process\n").setStatus 1)
      match t.toList with
      | '%' :: _ =>
          match s.jobNamed t with
          | .ok _ => missing s
          | .error e => s.refuse e
      | chars =>
          let (negative, digits) : Bool × List Char := match chars with
            | '-' :: ds => (true, ds)
            | ds => (false, ds)
          match count? digits with
          | none => s.refuse s!"Illegal number: {String.ofList digits}"
          | some pid =>
              let (s, found) := s.send n (if negative then -(pid : Int) else pid)
              if s.ended.isSome then s
              else if found then killAll n rest s
              else missing s

def listSignals (s : State) : List String → State
  | [] =>
      let names := (List.range signalLimit).map fun n => if n = 0 then "0" else signalName n
      (s.print ("\n".intercalate names ++ "\n").toList).1
  | spec :: _ =>
      match count? spec.toList with
      | none => s.refuse s!"Illegal number: {spec}"
      | some n =>
          let signal := if n < 128 then n else n - 128
          if 0 < signal && signal < signalLimit then
            (s.print (signalName signal ++ "\n").toList).1
          else s.refuse s!"invalid signal number or exit status: {spec}"

def kill (s : State) (args : List String) : State :=
  let s := s.succeed
  let sent (n : Nat) (targets : List String) : State :=
    if targets.isEmpty then s.refuse killUsage else killAll n targets s
  match args with
  | [] => s.refuse killUsage
  | first :: rest =>
      match first.toList with
      | '-' :: name =>
          match signalNumber? 1 (String.ofList name), name with
          | some n, _ => sent n rest
          | none, ['-'] => sent 15 rest
          | none, 'l' :: _ => s.listSignals rest
          | none, 's' :: tail =>
              let (spec, targets) : Option String × List String :=
                if tail.isEmpty then (rest.head?, rest.drop 1)
                else (some (String.ofList tail), rest)
              match spec with
              | none => s.refuse "No arg for -s option"
              | some spec =>
                  match signalNumber? 1 spec with
                  | some n => sent n (if targets.head? = some "--" then targets.drop 1 else targets)
                  | none => s.refuse s!"invalid signal number or name: {spec}"
          | none, c :: _ => s.refuse s!"Illegal option -{String.singleton c}"
          | none, [] => s.refuse s!"Illegal number: "
      | _ => sent 15 args

def waitFor (s : State) (time : Nat) : State × Option Nat :=
  let early := s.alarms.filter fun a =>
    a.target == s.pid && decide (a.time < time) && s.minds a.signal
  match (early.mergeSort fun a b => a.time ≤ b.time).head? with
  | some a => (s.waitUntil a.time, some a.signal)
  | none => (s.waitUntil time, none)

def waitEach : List String → State → State
  | [], s => s
  | t :: rest, s =>
      let found : Except String (Option Job) := match t.toList with
        | '%' :: _ => (s.jobNamed t).map some
        | chars =>
            match count? chars with
            | none => .error s!"Illegal number: {t}"
            | some pid => .ok (s.jobs.find? fun j => j.own && j.pid == pid)
      match found with
      | .error e => s.refuse e
      | .ok none => waitEach rest s
      | .ok (some j) =>
          match s.waitFor j.ends with
          | (s, some n) => s.setStatus (128 + n)
          | (s, none) => waitEach rest (s.note j.ending)

def wait (s : State) (args : List String) : State :=
  match args with
  | [] =>
      let ends := (s.jobs.filter (·.own)).map (·.ends)
      match s.waitFor (ends.foldl max s.clock) with
      | (s, some n) => s.setStatus (128 + n)
      | (s, none) => s.reap.succeed
  | args => waitEach args (s.setStatus 127)

def quotedText (s : String) : String :=
  let spans := (Text.pieces '\'' s.toList).map fun p => "'" ++ String.ofList p ++ "'"
  "\"'\"".intercalate spans

def setTraps (action : Option String) : List String → State → State
  | [], s => s
  | name :: rest, s =>
      match signalNumber? 0 name with
      | none => (s.say s!"trap: {name}: bad trap").setStatus 1
      | some n =>
          let others := s.traps.filter fun t => t.1 != n
          setTraps action rest { s with
            traps := match action with
              | some a => (n, a) :: others
              | none => others }

def trap (s : State) (args : List String) : State :=
  let s := s.succeed
  match if args.head? = some "--" then args.drop 1 else args with
  | [] =>
      let sorted := s.traps.mergeSort fun a b => a.1 ≤ b.1
      (s.print (String.join (sorted.map fun (n, action) =>
        s!"trap -- {quotedText action} {signalName n}\n")).toList).1
  | first :: rest =>
      match first.toList with
      | '-' :: c :: _ => s.fail s!"Illegal option -{String.singleton c}"
      | _ =>
          if rest.isEmpty || (signalNumber? 0 first).isSome && (count? first.toList).isSome then
            setTraps none (first :: rest) s
          else setTraps (if first = "-" then none else some first) rest s

end State

end Overseer.Simulation.Shell
