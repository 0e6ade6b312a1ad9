import Overseer.Simulation.Shell.Fields
import Overseer.Simulation.Shell.Programs

/-!
The shell's own commands, as far as they run no other commands. A fault in one of the special ones
ends the shell.
-/

namespace Overseer.Simulation.Shell.Commands

open Host

def ordinary : List String :=
  ["[", "alias", "bg", "cd", "chdir", "command", "echo", "false", "fg", "getopts", "hash", "jobs",
    "kill", "local", "printf", "pwd", "read", "test", "true", "type", "ulimit", "umask", "unalias",
    "wait"]

def isSpecial (name : String) : Bool := specialCommands.contains name

def isOwn (name : String) : Bool := isSpecial name || ordinary.contains name

def output (s : State) (text : List Char) : State :=
  match s.print text with
  | (s, true) => s
  | (s, false) => (s.complain s!"{s.command.getD s.name}: I/O error").setStatus 1

def line (s : State) (text : String) : State := output s (text ++ "\n").toList

def options (letters : List Char) : List String → Except Char (List Char × List String)
  | [] => .ok ([], [])
  | a :: rest =>
      match a.toList with
      | '-' :: c :: cs =>
          if a = "--" then .ok ([], rest)
          else
            match (c :: cs).find? fun c => !letters.contains c with
            | some bad => .error bad
            | none => (options letters rest).map fun (more, rest) => (c :: cs ++ more, rest)
      | _ => .ok ([], a :: rest)

def withOptions (s : State) (letters : List Char) (args : List String)
    (run : List Char → List String → State) : State :=
  match options letters args with
  | .ok (flags, args) => run flags args
  | .error c =>
      let text := s!"Illegal option -{String.singleton c}"
      if s.command.any isSpecial then s.fail text else s.refuse text

def withCount (s : State) (arg : Option String) (otherwise : Nat) (run : Nat → State) : State :=
  match arg with
  | none => run otherwise
  | some a =>
      match count? a.toList with
      | some n => run n
      | none => s.fail s!"Illegal number: {a}"

def printf (s : State) (args : List String) : State :=
  withOptions s [] args fun _ args =>
    match args with
    | [] => s.refuse "usage: printf format [arg ...]"
    | format :: args =>
        let r := Format.print .shell format.toList args
        let s := r.warnings.foldl State.complain s
        output (s.setStatus r.status) r.printed

def cd (s : State) (args : List String) : State :=
  withOptions s ['P', 'L'] args fun _ args =>
    let back := args.head? == some "-"
    let target := if back then (s.value? "OLDPWD").getD (FileTree.pathOf s.dir)
      else (args.head?.orElse fun _ => s.value? "HOME").getD ""
    let target := if target.isEmpty then "." else target
    match s.files.find s.dir target with
    | .ok (place, .directory) =>
        let old := FileTree.pathOf s.dir
        let new := FileTree.pathOf place
        let s := ({ s with dir := place }.setVar "OLDPWD" old).setVar "PWD" new
        if back then line s new else s
    | _ => s.refuse s!"can't cd to {target}"

def readWhole (raw : Bool) : Nat → List Char → State → Option (List Char × Bool × State)
  | 0, acc, s => some (acc, false, s)
  | fuel + 1, acc, s =>
      match s.readLine 0 with
      | none => none
      | some (text, ended, s) =>
          let text := text.filter (· != '\x00')
          if ended && goesOn raw text then readWhole raw fuel (acc ++ text.dropLast) s
          else some (acc ++ text, ended, s)

def assignRead : List (String × String) → State → State
  | [], s => s
  | (name, value) :: rest, s =>
      if !isName name.toList then s.refuse s!"{name}: bad variable name"
      else if s.isFixed name then s.refuse s!"{name}: is read only"
      else assignRead rest (s.setVar name value)

def read (s : State) (args : List String) : State :=
  -- the letter of a prompt takes an argument
  let (prompted, plain) := args.span fun a => a.startsWith "-" && a != "-p"
  let args := match plain with
    | "-p" :: _ :: rest => prompted ++ rest
    | plain => prompted ++ plain
  withOptions s ['r'] args fun flags names =>
    if names.isEmpty then s.refuse "arg count"
    else
      let raw := flags.contains 'r'
      match readWhole raw 10000 [] s with
      | none => s.setStatus 1
      | some (text, ended, s) =>
          let separators := s.separators
          let glyphs := (lineGlyphs raw text).dropWhile (cutsAtBlank separators)
          assignRead (dealFields separators names glyphs) (s.setStatus (if ended then 0 else 1))

def listVars (s : State) (label : String) (shown : Variable → Bool) : State :=
  let vars := (s.vars.filter fun v => shown v.2).mergeSort fun a b => a.1 ≤ b.1
  output s (String.join (vars.map fun (name, v) =>
    label ++ name ++ (match v.value with
      | some value => "=" ++ State.quotedText value
      | none => "") ++ "\n")).toList

def splitAssignment (a : String) : String × Option String :=
  match Text.cutAt '=' a.toList with
  | some (name, value) => (String.ofList name, some (String.ofList value))
  | none => (a, none)

def declare (change : Variable → Variable) : List String → State → State
  | [], s => s
  | a :: rest, s =>
      let (name, value) := splitAssignment a
      if !isName name.toList then s.fail s!"{name}: bad variable name"
      else if value.isSome && s.isFixed name then s.fail s!"{name}: is read only"
      else
        let s := match value with
          | some v => s.setVar name v
          | none => s
        let v := (s.var? name).getD ⟨none, false, false⟩
        declare change rest (s.putVar name (some (change v)))

def localize : List String → State → State
  | [], s => s
  | a :: rest, s =>
      let (name, value) := splitAssignment a
      if !isName name.toList then s.fail s!"{name}: bad variable name"
      else
        let known := (s.locals.getD []).any fun l => l.1 == name
        let s := if known then s
          else { s with locals := s.locals.map fun ls => (name, s.var? name) :: ls }
        localize rest (match value with
          | some v => s.setVar name v
          | none => s)

def namedOptions : List (String × Char) :=
  [("errexit", 'e'), ("noglob", 'f'), ("ignoreeof", 'I'), ("interactive", 'i'), ("monitor", 'm'),
    ("noexec", 'n'), ("stdin", 's'), ("xtrace", 'x'), ("verbose", 'v'), ("vi", 'V'), ("emacs", 'E'),
    ("noclobber", 'C'), ("allexport", 'a'), ("notify", 'b'), ("nounset", 'u')]

def optionLetters (s : State) : String :=
  String.ofList ((namedOptions.map (·.2)).reverse.filter s.has)

def setOption (s : State) (on : Bool) (c : Char) : State :=
  let others := s.options.filter (· != c)
  { s with options := if on then c :: others else others }

def takeOptions (more : List Char) : Nat → List String → State → List Char →
    Except String (State × List Char × List String × Bool)
  | 0, args, s, seen => .ok (s, seen, args, false)
  | _ + 1, [], s, seen => .ok (s, seen, [], false)
  | fuel + 1, a :: rest, s, seen =>
      match a.toList with
      | ['-', '-'] => .ok (s, seen, rest, true)
      | ['-'] => .ok (s, seen, rest, false)
      | sign :: letters =>
          if sign != '-' && sign != '+' then .ok (s, seen, a :: rest, false)
          else
            let on := sign == '-'
            let spelled (c : Char) : String := String.ofList [sign, c]
            match letters.find? fun c =>
              !more.contains c && c != 'o' && !(namedOptions.any fun o => o.2 == c) with
            | some c => .error s!"Illegal option {spelled c}"
            | none =>
                let s := (letters.filter (· != 'o')).foldl (fun s c =>
                  if more.contains c then s else setOption s on c) s
                let seen := seen ++ letters.filter more.contains
                if letters.contains 'o' then
                  match rest with
                  | name :: rest =>
                      match namedOptions.lookup name with
                      | some c => takeOptions more fuel rest (setOption s on c) seen
                      | none => .error ("Illegal option " ++ spelled 'o' ++ " " ++ name)
                  | [] => .ok (s, seen, [], false)
                else takeOptions more fuel rest s seen
      | [] => .ok (s, seen, a :: rest, false)

def set (s : State) (args : List String) : State :=
  if args.isEmpty then listVars s "" fun v => v.value.isSome
  else
    match takeOptions [] (args.length + 1) args s [] with
    | .error e => s.fail e
    | .ok (s, _, rest, explicit) =>
      if explicit || !rest.isEmpty then { s with params := rest } else s

def unset (s : State) (args : List String) : State :=
  withOptions s ['f', 'v'] args fun flags names =>
    names.foldl (fun s name =>
      if s.halts then s
      else if flags.contains 'f' then
        { s with functions := s.functions.filter fun f => f.1 != name }
      else if !isName name.toList then s.fail s!"{name}: bad variable name"
      else if s.isFixed name then s.fail s!"{name}: is read only"
      else s.putVar name none) s

def jump (s : State) (args : List String) (kind : Nat → Jump) : State :=
  withCount s args.head? 1 fun n =>
    if n = 0 then s.fail ("Illegal number: " ++ args.headD "")
    else if s.loops = 0 then s
    else { s with jump := some (kind (min n s.loops)) }

inductive Meaning where
  | keyword
  | function (body : Tree)
  | own
  | program (path : String)
  | missing (e : FileError)
  deriving Inhabited

def findProgram (s : State) (name : String) : Except FileError String :=
  if name.toList.contains '/' then (s.files.startable s.dir name).map fun _ => name
  else
    let path := (s.value? "PATH").getD ""
    s.files.search s.dir ((Text.pieces ':' path.toList).map String.ofList) name

def meaning (s : State) (name : String) : Meaning :=
  if isSpecial name then .own
  else
    match s.functions.lookup name with
    | some body => .function body
    | none =>
        if isOwn name then .own
        else
          match findProgram s name with
          | .ok path => .program path
          | .error e => .missing e

def describe (s : State) (brief : Bool) (name : String) : State :=
  let told (long short : String) : State := line s (if brief then short else s!"{name} {long}")
  if keywords.contains name then told "is a shell keyword" name
  else
    match meaning s name with
    | .keyword => told "is a shell keyword" name
    | .function _ => told "is a shell function" name
    | .own =>
        told (if isSpecial name then "is a special shell builtin" else "is a shell builtin") name
    | .program path => told s!"is {path}" path
    | .missing _ => if brief then s.setStatus 127 else (line s s!"{name}: not found").setStatus 127

def run (before : State) (name : String) (args : List String) : State :=
  let s := before.succeed
  match name with
  | "exit" => withCount before args.head? before.status before.exit
  | "return" =>
      withCount before args.head? before.status fun n =>
        { before with jump := some .result, status := n }
  | "echo" => output s (Format.echo args)
  | "printf" => printf s args
  | "pwd" => line s (FileTree.pathOf s.dir)
  | "cd" | "chdir" => cd s args
  | "false" => s.setStatus 1
  | "kill" => s.kill args
  | "wait" => s.wait (if args.head? = some "--" then args.drop 1 else args)
  | "trap" => s.trap args
  | "read" => read s args
  | "test" =>
      match Test.evaluate s 8 false args with
      | .ok b => s.setStatus (if b then 0 else 1)
      | .error e => s.refuse e
  | "[" =>
      if args.getLast? != some "]" then s.refuse "missing ]"
      else
        match Test.evaluate s 8 false args.dropLast with
        | .ok b => s.setStatus (if b then 0 else 1)
        | .error e => s.refuse e
  | "export" =>
      withOptions s ['p'] args fun _ names =>
        if names.isEmpty then listVars s "export " (·.exported)
        else declare (fun v => { v with exported := true }) names s
  | "readonly" =>
      withOptions s ['p'] args fun _ names =>
        if names.isEmpty then listVars s "readonly " (·.fixed)
        else declare (fun v => { v with fixed := true }) names s
  | "local" => if s.locals.isNone then s.fail "not in a function" else localize args s
  | "unset" => unset s args
  | "set" => set s args
  | "shift" =>
      withCount s args.head? 1 fun n =>
        if s.params.length < n then s.fail "can't shift that many"
        else { s with params := s.params.drop n }
  | "break" => jump s args .leave
  | "continue" => jump s args .next
  | "umask" => if args.isEmpty then line s "0022" else s
  | "type" => args.foldl (fun s n => describe s false n) s
  | "fg" | "bg" => s.refuse "No current job"
  | "times" => line (line s "0m0.000000s 0m0.000000s") "0m0.000000s 0m0.000000s"
  | "getopts" => s.setStatus 1
  | _ => s

end Overseer.Simulation.Shell.Commands
