import Overseer.Simulation.Files
import Overseer.Simulation.Shell.Octets
import Overseer.Simulation.Shell.Reader

/-!
What a shell holds while it runs: its variables, its streams and the files behind them, its jobs,
and what it has written and when. Nothing takes time but sleeping and waiting. Times are
milliseconds since the start of the script.
-/

namespace Overseer.Simulation.Shell

open Host

inductive Channel where
  | output
  | errors
  | nowhere
  | capture (id : Nat)
  | supply (id : Nat)
  | file (id : Nat)
  deriving DecidableEq, Repr, Inhabited

structure Supply where
  pieces : List (Nat × List Char)
  ends : Nat
  deriving DecidableEq, Repr, Inhabited

structure OpenFile where
  place : Place
  offset : Nat
  append : Bool
  deriving DecidableEq, Repr, Inhabited

inductive Ending where
  | exited (code : Nat)
  | signaled (signal : Nat)
  deriving DecidableEq, Repr, Inhabited

def Ending.status : Ending → Nat
  | .exited code => code
  | .signaled n => 128 + n

structure Written where
  time : Nat
  pid : Nat
  channel : Channel
  bytes : List UInt8
  deriving DecidableEq, Repr, Inhabited

structure Job where
  pid : Nat
  last : Nat
  starts : Nat
  ends : Nat
  ending : Ending
  own : Bool
  reaped : Bool
  holds : List Channel
  deriving DecidableEq, Repr, Inhabited

structure Alarm where
  time : Nat
  sender : Nat
  target : Nat
  signal : Nat
  deriving DecidableEq, Repr, Inhabited

structure Variable where
  value : Option String
  exported : Bool
  fixed : Bool
  deriving DecidableEq, Repr, Inhabited

/-- How a list of commands is left before its end: a number of loops is left or gone on with, or the
function is left. -/
inductive Jump where
  | leave (loops : Nat)
  | next (loops : Nat)
  | result
  deriving DecidableEq, Repr, Inhabited

structure State where
  pid : Nat
  shellPid : Nat
  nextPid : Nat
  name : String
  params : List String
  vars : List (String × Variable)
  functions : List (String × Tree)
  locals : Option (List (String × Option Variable))
  options : List Char
  dir : Place
  files : FileTree
  streams : List (Nat × Channel)
  supplies : List (Nat × Supply)
  opened : List (Nat × OpenFile)
  documents : List (Nat × Word)
  nextId : Nat
  clock : Nat
  status : Nat
  outputStatus : Nat
  line : Nat
  command : Option String
  loops : Nat
  depth : Nat
  tested : Bool
  written : List Written
  jobs : List Job
  lastJob : Nat
  alarms : List Alarm
  traps : List (Nat × String)
  trapped : List String
  jump : Option Jump
  ended : Option Ending
  faulted : Bool
  last : Bool
  deriving Inhabited

def mainPid : Nat := 1000

def defaultPath : String := "/usr/local/sbin:/usr/local/bin:/usr/sbin:/usr/bin:/sbin:/bin"

def Supply.ofText (time : Nat) (s : List Char) : Supply :=
  ⟨if s.isEmpty then [] else [(time, s)], time⟩

namespace State

/-! ## Variables -/

def has (s : State) (option : Char) : Bool := s.options.contains option

def var? (s : State) (name : String) : Option Variable := s.vars.lookup name

def value? (s : State) (name : String) : Option String := s.var? name |>.bind (·.value)

def putVar (s : State) (name : String) (v : Option Variable) : State :=
  let others := s.vars.filter fun e => e.1 != name
  { s with vars := match v with
      | some v => (name, v) :: others
      | none => others }

def setVar (s : State) (name value : String) : State :=
  let old := (s.var? name).getD ⟨none, false, false⟩
  s.putVar name (some { old with value := some value, exported := old.exported || s.has 'a' })

def isFixed (s : State) (name : String) : Bool := (s.var? name).any (·.fixed)

def environment (s : State) : List (String × String) :=
  (s.vars.filterMap fun (name, v) =>
    if v.exported then v.value.map fun value => (name, value) else none).mergeSort
      fun a b => a.1 ≤ b.1

def separators (s : State) : List Char := ((s.value? "IFS").getD " \t\n").toList

/-! ## The course of a script -/

def halts (s : State) : Bool := s.ended.isSome || s.jump.isSome

def setStatus (s : State) (n : Nat) : State := { s with status := n }

def succeed (s : State) : State := s.setStatus 0

def exit (s : State) (code : Nat) : State :=
  { s with ended := some (.exited (code % 256)), status := code % 256 }

def check (s : State) : State :=
  if s.has 'e' && !s.tested && s.status != 0 && !s.halts then s.exit s.status else s

/-! ## Streams -/

def stream? (s : State) (n : Nat) : Option Channel := s.streams.lookup n

def setStream (s : State) (n : Nat) (c : Option Channel) : State :=
  let others := s.streams.filter fun e => e.1 != n
  { s with streams := match c with
      | some c => (n, c) :: others
      | none => others }

def addSupply (s : State) (text : Supply) : Channel × State :=
  (.supply s.nextId,
    { s with supplies := (s.nextId, text) :: s.supplies, nextId := s.nextId + 1 })

def writeAt (s : State) (f : OpenFile) (bytes : List UInt8) : State × OpenFile :=
  let old := match s.files.node? f.place with
    | some (.file contents _) => contents
    | _ => []
  let offset := if f.append then old.length else f.offset
  let contents := old.take offset ++ List.replicate (offset - old.length) 0 ++ bytes ++
    old.drop (offset + bytes.length)
  ({ s with files := s.files.insert f.place (.file contents false) },
    { f with offset := offset + bytes.length })

def writeTo (s : State) (c : Option Channel) (text : List Char) : State × Bool :=
  if text.isEmpty then (s, true)
  else
    match c with
    | none | some (.supply _) => (s, false)
    | some .nowhere => (s, true)
    | some (.file id) =>
        match s.opened.lookup id with
        | none => (s, false)
        | some f =>
            let (s, f) := s.writeAt f (octetsOf text)
            ({ s with opened := (id, f) :: s.opened.filter fun e => e.1 != id }, true)
    | some c => ({ s with written := ⟨s.clock, s.pid, c, octetsOf text⟩ :: s.written }, true)

def print (s : State) (text : List Char) : State × Bool := s.writeTo (s.stream? 1) text

def say (s : State) (text : String) : State := (s.writeTo (s.stream? 2) (text ++ "\n").toList).1

def complain (s : State) (text : String) : State :=
  let command := match s.command with
    | some c => c ++ ": "
    | none => ""
  s.say s!"{s.name}: {s.line}: {command}{text}"

def fail (s : State) (text : String) : State := { (s.complain text).exit 2 with faulted := true }

def refuse (s : State) (text : String) : State := (s.complain text).setStatus 2

def cutLine : List (Nat × List Char) → List Char × Option (Nat × List (Nat × List Char))
  | [] => ([], none)
  | (t, text) :: rest =>
      let line := text.takeWhile (· != '\n')
      match text.drop line.length with
      | _ :: more => (line, some (t, if more.isEmpty then rest else (t, more) :: rest))
      | [] =>
          let (behind, cut) := cutLine rest
          (line ++ behind, cut)

def supply? (s : State) (n : Nat) : Option Supply :=
  match s.stream? n with
  | some (.supply id) => s.supplies.lookup id
  | some .nowhere => some ⟨[], s.clock⟩
  | some (.file id) =>
      (s.opened.lookup id).bind fun f =>
        match s.files.node? f.place with
        | some (.file contents _) =>
            some (Supply.ofText s.clock (octetText (contents.drop f.offset)))
        | some (.device contents) => some (Supply.ofText s.clock (octetText contents))
        | _ => none
  | _ => none

def setSupply (s : State) (n : Nat) (left : Supply) : State :=
  match s.stream? n with
  | some (.supply id) =>
      { s with supplies := (id, left) :: s.supplies.filter fun e => e.1 != id }
  | some (.file id) =>
      let size := left.pieces.foldl (fun n p => n + p.2.length) 0
      { s with opened := s.opened.map fun (i, f) =>
          if i = id then
            match s.files.node? f.place with
            | some (.file contents _) => (i, { f with offset := contents.length - size })
            | _ => (i, f)
          else (i, f) }
  | _ => s

def waitUntil (s : State) (time : Nat) : State := { s with clock := max s.clock time }

def readLine (s : State) (n : Nat) : Option (List Char × Bool × State) :=
  (s.supply? n).map fun input =>
    match cutLine input.pieces with
    | (line, some (t, rest)) =>
      (line, true, (s.waitUntil t).setSupply n { input with pieces := rest })
    | (line, none) =>
      (line, false, (s.waitUntil input.ends).setSupply n { input with pieces := [] })

def readAll (s : State) (n : Nat) : List Char × State :=
  match s.supply? n with
  | some input =>
      (input.pieces.flatMap (·.2), (s.waitUntil input.ends).setSupply n { input with pieces := [] })
  | none => ([], s)

def copyAll (s : State) (n : Nat) : Option (State × Bool) :=
  (s.supply? n).map fun input =>
    let (s, ok) := input.pieces.foldl (fun (s, ok) (t, text) =>
      let (s, done) := (s.waitUntil t).print text
      (s, ok && done)) (s, true)
    ((s.waitUntil input.ends).setSupply n { input with pieces := [] }, ok)

/-! ## Processes -/

def new (pid nextPid : Nat) (name : String) (params : List String) (env : List (String × String))
    (dir : Place) (files : FileTree) : State :=
  let exported (v : String) : Variable := ⟨some v, true, false⟩
  let vars := (env.filter fun e => isName e.1.toList).foldl
    (fun vars (name, value) => (name, exported value) :: vars.filter fun v => v.1 != name) []
  let own (name value : String) : List (String × Variable) :=
    if (vars.lookup name).isSome then [] else [(name, ⟨some value, false, false⟩)]
  let base : State := default
  { base with
    pid, shellPid := pid, nextPid, name, params, dir, files
    vars := vars.filter (fun v => v.1 != "IFS" && v.1 != "PWD") ++ own "PATH" defaultPath ++
      own "PS4" "+ " ++
      [("IFS", ⟨some " \t\n", false, false⟩), ("OPTIND", ⟨some "1", false, false⟩),
        ("PWD", ⟨some (FileTree.pathOf dir), (vars.lookup "PWD").isSome, false⟩)]
    line := 1 }

def replaced (s : State) (name : String) (params : List String) : State :=
  { new s.pid s.nextPid name params s.environment s.dir s.files with
    streams := s.streams, supplies := s.supplies, opened := s.opened, nextId := s.nextId
    documents := s.documents, clock := s.clock, written := s.written
    jobs := s.jobs.map fun j => { j with own := false }
    alarms := s.alarms, traps := s.traps.filter (·.2.isEmpty) }

def forked (s : State) : State :=
  { s with
    pid := s.nextPid, nextPid := s.nextPid + 1
    ended := none, faulted := false, jump := none
    trapped := [], traps := s.traps.filter (·.2.isEmpty)
    jobs := s.jobs.map fun j => { j with own := false } }

def ending (s : State) : Ending := s.ended.getD (.exited s.status)

def signalText? (n : Nat) : Option String :=
  match n with
  | 1 => some "Hangup"
  | 2 | 13 => none
  | 3 => some "Quit"
  | 4 => some "Illegal instruction"
  | 6 => some "Aborted"
  | 8 => some "Floating point exception"
  | 9 => some "Killed"
  | 10 => some "User defined signal 1"
  | 11 => some "Segmentation fault"
  | 12 => some "User defined signal 2"
  | 14 => some "Alarm clock"
  | 15 => some "Terminated"
  | n => some s!"Signal {n}"

def reap (s : State) : State :=
  if s.jobs.isEmpty || s.pid != s.shellPid then s
  else
    let jobs := s.jobs.map fun j => { j with reaped := j.reaped || decide (j.ends ≤ s.clock) }
    { s with jobs }

def note (s : State) (e : Ending) : State :=
  let s := s.reap.setStatus e.status
  match e with
  | .signaled n =>
      match signalText? n with
      | some text => s.say text
      | none => s
  | .exited _ => s

/-- Jobs that were there before stay the shell's own as far as they were; those that a process it
has started has added, the latest first, do not become its own. -/
def merged (before after : List Job) : List Job :=
  let fresh := after.length - before.length
  (after.take fresh).map (fun j => { j with own := false }) ++
    List.zipWith (fun (k old : Job) => { k with own := old.own }) (after.drop fresh) before

def adopt (s child : State) : State :=
  { s with
    written := child.written, nextPid := child.nextPid, nextId := child.nextId
    jobs := merged s.jobs child.jobs
    files := child.files, supplies := child.supplies, opened := child.opened
    documents := child.documents, alarms := child.alarms }

def addJob (s : State) (j : Job) : State :=
  let kept := if s.pid = mainPid then s.jobs.filter fun k => k.own || decide (s.clock < k.ends)
    else s.jobs
  { s with jobs := j :: kept }

def jobOf (s child : State) (own : Bool) : Job :=
  ⟨s.nextPid, child.nextPid - 1, s.clock, child.clock, child.ending, own, false,
    s.streams.map (·.2)⟩

def within (run : State → State) (s : State) : State :=
  let child := run s.forked
  let after := { s.adopt child with clock := child.clock }
  let after := if child.clock = s.clock then after else after.addJob (jobOf s child false)
  after.note child.ending

def captured (id : Nat) (written : List Written) : List (Nat × List Char) × List Written :=
  let ours := (written.filter (·.channel == .capture id)).reverse.mergeSort fun a b =>
    a.time ≤ b.time
  (ours.map (fun w => (w.time, octetText w.bytes)), written.filter (·.channel != .capture id))

def capturing (run : State → State) (s : State) : Supply × State :=
  let id := s.nextId
  let after := run ({ s with nextId := id + 1, written := [] }.setStream 1 (some (.capture id)))
  let (pieces, others) := captured id after.written
  let holders := after.jobs.filter (·.holds.contains (.capture id))
  let ends := (holders.map (·.ends)).foldl max after.clock
  (⟨pieces, ends⟩, { after with streams := s.streams, written := others ++ s.written })

def beside (run : State → State) (s : State) : State :=
  let child := run ({ s.forked with tested := false }.setStream 0 (some .nowhere))
  let after := s.adopt child
  { after.addJob (jobOf s child true) with lastJob := s.nextPid, status := 0 }

end State

end Overseer.Simulation.Shell
