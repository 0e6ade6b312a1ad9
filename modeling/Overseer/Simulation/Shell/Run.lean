import Overseer.Simulation.Shell.Arithmetic
import Overseer.Simulation.Shell.Commands

/-!
Running scripts: words are expanded, streams redirected, commands looked up and run. What is nested
in each other is counted with fuel; where it runs out, the shell has nested too deeply and ends as
a process does whose stack is full. Loops are counted apart, and one that does not end within its
turns is taken to go on for ever.
-/

namespace Overseer.Simulation.Shell

open Host Commands

/-! ## Parameters -/

def joiner (s : State) : String :=
  match s.value? "IFS" with
  | none => " "
  | some separators => String.ofList (separators.toList.take 1)

def State.param? (s : State) (name : String) : Option String :=
  match name with
  | "#" => some (toString s.params.length)
  | "?" => some (toString s.status)
  | "$" => some (toString s.shellPid)
  | "!" => if s.lastJob = 0 then none else some (toString s.lastJob)
  | "-" => some (optionLetters s)
  | "0" => some s.name
  | "@" | "*" => some (" ".intercalate s.params)
  | "PPID" => some "1"
  | name =>
      match count? name.toList with
      | some 0 => some s.name
      | some n => s.params[n - 1]?
      | none => s.value? name

def paramGlyphs (s : State) (name : String) (quoted : Bool) : List Glyph :=
  if quoted && name == "*" then glyphsOf ((joiner s).intercalate s.params).toList true
  else if quoted && s.params.isEmpty then [.unmark]
  else
    ((s.params.map fun p =>
      (if quoted then [Glyph.mark] else []) ++ glyphsOf p.toList quoted).intersperse
        [.split]).flatten

def home? (s : State) (name : List Char) : Option String :=
  if name.isEmpty then s.value? "HOME"
  else if name == "root".toList then some "/root"
  else none

def tildeParts (s : State) (closed : Bool) (t : List Char) : Word :=
  match t with
  | '~' :: rest =>
      let name := rest.takeWhile (· != '/')
      let behind := rest.drop name.length
      match if behind.isEmpty && !closed then none else home? s name with
      | some dir => [.text dir.toList true, .text behind false]
      | none => [.text t false]
  | t => [.text t false]

def withHomes (s : State) (assigned : Bool) : Word → Word
  | .text t false :: rest =>
      if !t.contains '~' then .text t false :: rest
      else if assigned then
        let spans := Text.pieces ':' t
        (spans.zipIdx.map fun (span, i) =>
          tildeParts s (i + 1 < spans.length || rest.isEmpty) span).intersperse [.text [':'] false]
          |>.flatten |> (· ++ rest)
      else tildeParts s rest.isEmpty t ++ rest
  | w => w

/-! ## Streams -/

def openReason (mode : OpenMode) : FileError → String
  | .notFound | .notDirectory => if mode == .read then "No such file" else "Directory nonexistent"
  | e => e.reason

def cannotOpen (s : State) (path : String) (mode : OpenMode) (e : FileError) : State :=
  let verb := if mode == .read then "open" else "create"
  s.complain s!"cannot {verb} {path}: {openReason mode e}"

def openFile (s : State) (path : String) (mode : OpenMode) :
    Except FileError (Option Channel × State) := do
  let opened (place : Place) (files : FileTree) : Option Channel × State :=
    (some (.file s.nextId),
      { s with
        files, nextId := s.nextId + 1
        opened := (s.nextId, ⟨place, 0, mode == .append⟩) :: s.opened })
  match Programs.streamOfPath? path with
  | some n => return (s.stream? n, s)
  | none =>
      let v ← s.files.walk s.dir path
      match v.node, mode with
      | some (.device _), _ => return (some .nowhere, s)
      | some .directory, .read => return (some .nowhere, s)
      | some .directory, _ => throw .isDirectory
      | none, .read => throw .notFound
      | none, _ =>
          if path.endsWith "/" then throw .isDirectory
          return opened v.place (s.files.insert v.place (.file [] false))
      | some (.file _ executable), .write =>
          return opened v.place (s.files.insert v.place (.file [] executable))
      | some (.file _ _), _ => return opened v.place s.files

def copyStream (s : State) (n : Nat) (source : List Char) : State × Bool :=
  if source = ['-'] then (s.setStream n none, true)
  else
    match count? source with
    | none => (s.fail "Syntax error: Bad fd number", false)
    | some m =>
        match s.stream? m with
        | some c => (s.setStream n (some c), true)
        | none => (s.complain s!"{m}: Bad file descriptor", false)

/-! ## Small steps -/

def restoreVars (s : State) (before : List (String × Option Variable)) : State :=
  before.foldl (fun s (name, v) => s.putVar name v) s

def through {α β : Type} (f : State → α → β × State) (s : State) (xs : List α) : List β × State :=
  let (acc, s) := xs.foldl (fun (acc, s) x =>
    if s.halts then (acc, s)
    else
      let (y, s) := f s x
      (y :: acc, s)) ([], s)
  (acc.reverse, s)

def iterate {α β : Type} (step : α → α ⊕ β) (stop : α → β) : Nat → α → β
  | 0, a => stop a
  | n + 1, a =>
      match step a with
      | .inl a => iterate step stop n a
      | .inr b => b

def turnLimit : Nat := 10000

def depthLimit : Nat := 1000

def State.overflow (s : State) : State := { s with ended := some (.signaled 11) }

def State.hang (s : State) : State :=
  { s.waitUntil (s.clock + 1000000000) with ended := some (.signaled 9) }

def landed (s : State) : State × Bool :=
  match s.ended, s.jump with
  | some _, _ => (s, false)
  | none, none => (s, true)
  | none, some (.leave n) =>
      ({ s with jump := if n ≤ 1 then none else some (.leave (n - 1)) }, false)
  | none, some (.next n) =>
      if n ≤ 1 then ({ s with jump := none }, true)
      else ({ s with jump := some (.next (n - 1)) }, false)
  | none, some .result => (s, false)

def eachTurn (turn : State → String → State) : List String → State → State
  | [], s => s
  | v :: rest, s =>
      match landed (turn s v) with
      | (s, true) => eachTurn turn rest s
      | (s, false) => s

def notFound (s : State) (name : String) (e : FileError) : State :=
  if name.isEmpty then (s.complain ": Permission denied").setStatus 127
  else
    match e with
    | .notFound | .notDirectory => (s.complain s!"{name}: not found").setStatus 127
    | .denied | .isDirectory => (s.complain s!"{name}: {e.reason}").setStatus 126
    | .nameTooLong => (s.complain s!"{name}: {e.reason}").setStatus 127

def unwrap : Nat → Bool → List String → Bool × List String
  | n + 1, bare, "command" :: rest =>
      let behind := if rest.head? = some "-p" then rest.drop 1 else rest
      let behind := if behind.head? = some "--" then behind.drop 1 else behind
      match behind with
      | [] => (bare, "command" :: rest)
      | name :: _ => if name.startsWith "-" then (bare, "command" :: rest) else unwrap n true behind
  | _, bare, args => (bare, args)

def trace (s : State) (errors : Option Channel) (words : List String) : State :=
  if s.has 'x' then
    (s.writeTo errors ((s.value? "PS4").getD "" ++ " ".intercalate words ++ "\n").toList).1
  else s

def State.end (s child : State) : State :=
  { s.adopt child with
    clock := child.clock, status := child.ending.status, ended := some child.ending }

mutual

def expandPart : Nat → Bool → State → Part → List Glyph × State
  | 0, _, s, _ => ([], s.overflow)
  | fuel + 1, soft, s, part =>
      let parts (soft : Bool) (s : State) (w : Word) : List Glyph × State :=
        let (gs, s) := through (expandPart fuel soft) s w
        (gs.flatten, s)
      match part with
      | .text t true => (if t.isEmpty then [.mark] else glyphsOf t true, s)
      | .text t false => (if soft then glyphsOf t false else t.map fun c => .char c false, s)
      | .arithmetic expression quoted =>
          let (gs, s) := parts false s expression
          if s.halts then ([], s)
          else
            let text := textOf gs
            match Arithmetic.evaluate ⟨fun n => (s.param? n).getD "", s.isFixed⟩ text with
            | .ok (n, assigned) =>
                (glyphsOf (toString n).toList quoted,
                  assigned.reverse.foldl (fun s (name, n) => s.setVar name (toString n)) s)
            | .error e => ([], s.fail (e.message text))
      | .output body quoted =>
          let (printed, after) := s.capturing fun s =>
            s.within fun c => finish fuel (run fuel body { c with last := true, tested := false })
          let text := (printed.pieces.flatMap (·.2)).filter (· != '\x00')
          (glyphsOf (Text.dropEndWhile (· == '\n') text) quoted,
            { after.waitUntil printed.ends with
              status := s.status, outputStatus := after.status, line := s.line })
      | .param name use word quoted =>
          let value := s.param? name
          let isList := name == "@" || name == "*"
          let present (orEmpty : Bool) : Bool := value.any fun v => !(orEmpty && v.isEmpty)
          let shown (s : State) : List Glyph × State :=
            if isList then (paramGlyphs s name quoted, s)
            else
              match value with
              | some v => (glyphsOf v.toList quoted, s)
              | none => if s.has 'u' then ([], s.fail s!"{name}: parameter not set") else ([], s)
          match use with
          | .plain => shown s
          | .length =>
              if isList then (glyphsOf (toString s.params.length).toList quoted, s)
              else if value.isNone && s.has 'u' then ([], s.fail s!"{name}: parameter not set")
              else (glyphsOf (toString (value.getD "").length).toList quoted, s)
          | .default orEmpty => if present orEmpty then shown s else parts true s word
          | .alternative orEmpty => if present orEmpty then parts true s word else ([], s)
          | .assign orEmpty =>
              if present orEmpty then shown s
              else
                let (gs, s) := parts false s word
                if s.halts then ([], s)
                else if !isName name.toList then ([], s.fail s!"{name}: bad variable name")
                else if s.isFixed name then ([], s.fail s!"{name}: is read only")
                else
                  let text := textOf gs
                  (glyphsOf text quoted, s.setVar name (String.ofList text))
          | .fail orEmpty =>
              if present orEmpty then shown s
              else
                let (gs, s) := parts false s word
                if s.halts then ([], s)
                else
                  let reason := String.ofList (textOf gs)
                  let reason := if !word.isEmpty then reason
                    else if orEmpty then "parameter not set or null"
                    else "parameter not set"
                  ([], s.fail s!"{name}: {reason}")
          | .trim front longest =>
              if value.isNone && s.has 'u' && !isList then
                ([], s.fail s!"{name}: parameter not set")
              else
                let (gs, s) := parts false s word
                let kept := (patternOf gs).trim front longest (value.getD "").toList
                (glyphsOf kept quoted, s)
          | .bad => ([], s.fail "Bad substitution")

def expand : Nat → Bool → State → Word → List Glyph × State
  | 0, _, s, _ => ([], s.overflow)
  | fuel + 1, assigned, s, w =>
      let (gs, s) := through (expandPart fuel false) s (withHomes s assigned w)
      (gs.flatten, s)

def expandText : Nat → Bool → State → Word → String × State
  | 0, _, s, _ => ("", s.overflow)
  | fuel + 1, assigned, s, w =>
      let (gs, s) := expand fuel assigned s w
      (String.ofList (textOf gs), s)

def expandFields : Nat → State → Word → List String × State
  | 0, s, _ => ([], s.overflow)
  | fuel + 1, s, w =>
      let (gs, s) := expand fuel false s w
      let fields := cutFields s.separators none false gs
      (fields.flatMap fun f =>
        let paths := if f.isWild && !s.has 'f' then f.paths s.files s.dir else []
        if paths.isEmpty then [String.ofList f.text] else paths.map String.ofList, s)

def expandWords : Nat → State → List Word → List String × State
  | 0, s, _ => ([], s.overflow)
  | fuel + 1, s, ws =>
      let (fields, s) := through (expandFields fuel) s ws
      (fields.flatten, s)

def redirect : Nat → State → List Redirect → State × Bool
  | 0, s, _ => (s.overflow, false)
  | fuel + 1, s, rs =>
      rs.foldl (fun (s, ok) r =>
        if !ok then (s, false)
        else
          match r with
          | .file n mode w =>
              let (path, s) := expandText fuel false s w
              if s.halts then (s, false)
              else
                match openFile s path mode with
                | .ok (c, s) => (s.setStream n c, true)
                | .error e => (cannotOpen s path mode e, false)
          | .copy n w =>
              let (source, s) := expandText fuel false s w
              if s.halts then (s, false) else copyStream s n source.toList
          | .document n id =>
              let (text, s) := expandText fuel false s ((s.documents.lookup id).getD [])
              if s.halts then (s, false)
              else
                let (c, s) := s.addSupply (Supply.ofText s.clock text.toList)
                (s.setStream n (some c), true)) (s, true)

def assign : Nat → Bool → State → List (String × Word) → List String × State
  | 0, _, s, _ => ([], s.overflow)
  | fuel + 1, exported, s, assignments =>
      through (fun s (name, w) =>
        let (value, s) := expandText fuel true s w
        if s.halts then ("", s)
        else if s.isFixed name then ("", s.fail s!"{name}: is read only")
        else
          let s := s.setVar name value
          let s := if exported then
              s.putVar name ((s.var? name).map fun v => { v with exported := true })
            else s
          (s!"{name}={value}", s)) s assignments

def runScript : Nat → List Char → Bool → State → State
  | 0, _, _, s => s.overflow
  | fuel + 1, text, final, s =>
      let open_ := text.getLast? != some '\n'
      iterate (fun ((source, s) : Source × State) =>
        if s.halts then .inr s
        else
          match { source with nextId := s.nextId, documents := [] : Source }.readLine with
          | .error e => .inr ({ s with line := e.line }.fail e.reason)
          | .ok none => .inr s
          | .ok (some (tree, source)) =>
              let s := { s with
                nextId := source.nextId, documents := source.documents ++ s.documents
                last := final && open_ && source.rest.isEmpty }
              .inl (source, run fuel tree s))
        (fun p => p.2) (text.length + 2) (Source.ofText text s.nextId, s)

def finish : Nat → State → State
  | 0, s => s
  | fuel + 1, s =>
      match s.ended, s.traps.lookup 0 with
      | some (.signaled _), _ | _, none => s
      | ended, some action =>
          if action.isEmpty then s
          else
            let after := runScript fuel action.toList false { s with
              ended := none, faulted := false, jump := none, command := none
              traps := s.traps.filter fun t => t.1 != 0 }
            { after with ended := after.ended <|> ended <|> some (.exited (s.status % 256)) }

def settle : Nat → State → State
  | 0, s => s
  | fuel + 1, s =>
      let s := if s.alarms.isEmpty then s else s.receiveDue
      match s.trapped with
      | [] => s
      | action :: rest =>
          if s.ended.isSome then s
          else
            let after := runScript fuel action.toList false { s with
              trapped := rest, jump := none, command := none }
            settle fuel (if after.ended.isSome then after
              else { after with status := s.status, line := s.line, command := s.command
                                jump := s.jump })

def startShell : Nat → String → List String → State → State
  | 0, _, _, s => s.overflow
  | fuel + 1, name, args, s =>
      let s := s.replaced name []
      let refused (reason : String) : State := (s.say s!"{name}: 0: {reason}").exit 2
      match takeOptions ['c'] (args.length + 1) args s [] with
      | .error e => refused e
      | .ok (s, seen, rest, _) =>
          if seen.contains 'c' then
            match rest with
            | [] => refused "-c requires an argument"
            | script :: rest =>
                finish fuel (runScript fuel script.toList true
                  { s with name := rest.headD name, params := rest.drop 1 })
          else
            match rest, s.has 's' with
            | file :: params, false =>
                match s.files.read s.dir file with
                | .ok contents =>
                    finish fuel (runScript fuel (octetText contents) false
                      { s with name := file, params })
                | .error e => refused s!"cannot open {file}: {openReason .read e}"
            | params, _ =>
                let (script, s) := s.readAll 0
                finish fuel (runScript fuel script false { s with params })

def runProgram : Nat → String → String → List String → State → State
  | 0, _, _, _, s => s.overflow
  | fuel + 1, path, name, args, s =>
      let inPlace := s.last && s.traps.isEmpty
      let s := if inPlace then s else s.reap
      match (FileTree.placeOf path).headD "" with
      | "sh" =>
          if inPlace then s.end (startShell fuel name args s)
          else s.within fun c => startShell fuel name args c
      | "sleep" =>
          let after := Programs.run "sleep" args { s with command := none }
          let after := { after with command := s.command }
          if inPlace || after.clock = s.clock then after
          else
            let pid := after.nextPid
            let job : Job :=
              ⟨pid, pid, s.clock, after.clock, after.ending, false, true, s.streams.map (·.2)⟩
            { after with nextPid := pid + 1 }.addJob job
      | program =>
          { Programs.run program args { s with command := none } with command := s.command }

def invoke : Nat → Bool → String → List String → State → State
  | 0, _, _, _, s => s.overflow
  | fuel + 1, bare, name, args, s =>
      let own (run : State → State) : State :=
        { run { s with command := some name } with command := s.command }
      match name, args with
      | "exec", args =>
          own fun s =>
            match if args.head? = some "--" then args.drop 1 else args with
            | [] => s.succeed
            | name :: args =>
                match findProgram s name with
                | .error e =>
                    let s := notFound s name e
                    s.exit s.status
                | .ok path =>
                    let after := runProgram fuel path name args { s with
                      last := true, traps := s.traps.filter (·.2.isEmpty), command := none }
                    let after := after.receiveDue
                    { after with
                      ended := some (after.ended.getD (.exited after.status))
                      traps := after.traps.filter fun t => t.1 != 0 }
      | "eval", args =>
          let text := (" ".intercalate args).toList
          if text.all isBlankSeparator then s.succeed
          else
            let after := own (runScript fuel text false)
            { after with line := s.line }
      | ".", file :: _ =>
          own fun s =>
            let found := if file.toList.contains '/' then some file
              else
                let dirs := (Text.pieces ':' ((s.value? "PATH").getD "").toList).map String.ofList
                (dirs.map fun d => (if d.isEmpty then "." else d) ++ "/" ++ file).find? fun p =>
                  (s.files.read s.dir p).toOption.isSome
            match found with
            | none => s.fail s!"{file}: not found"
            | some path =>
                match s.files.read s.dir path with
                | .error _ => s.fail s!"cannot open {path}: No such file"
                | .ok contents =>
                    let after := runScript fuel (octetText contents) false
                      { s with command := some path, status := 0 }
                    { after with
                      jump := if after.jump = some .result then none else after.jump
                      line := s.line }
      | "command", flag :: names =>
          own fun s =>
            if flag.startsWith "-" then
              match names with
              | name :: _ => describe s.succeed (flag.toList.contains 'v') name
              | [] => s.succeed
            else s.succeed
      | name, args =>
          match if bare && (s.functions.lookup name).isSome then
              meaning { s with functions := [] } name else meaning s name with
          | .own => own fun s => Commands.run s name args
          | .function body =>
              if depthLimit ≤ s.depth then
                s.fail s!"Maximum function recursion depth ({depthLimit}) reached"
              else
                let after := run fuel body { s with
                  params := args, loops := 0, locals := some [], last := false,
                  depth := s.depth + 1 }
                let after := restoreVars after (after.locals.getD [])
                { after with
                  params := s.params, loops := s.loops, locals := s.locals, depth := s.depth
                  jump := if after.jump = some .result then none else after.jump }
          | .program path => runProgram fuel path name args s
          | .missing e => notFound s name e
          | .keyword => notFound s name .notFound

def run : Nat → Tree → State → State
  | 0, _, s => s.overflow
  | fuel + 1, tree, s =>
      if s.halts || s.has 'n' then s
      else
        let last := s.last
        let s := { s with last := false }
        let lastly (tree : Tree) (s : State) : State := run fuel tree { s with last }
        let tried (tree : Tree) (s : State) : State :=
          { run fuel tree { s with tested := true } with tested := s.tested }
        let restored (after : State) : State := { after with streams := s.streams }
        let after := match tree with
          | .nothing => s
          | .simple line assignments words redirects =>
              let s := { s with line, outputStatus := 0 }
              let (args, s) := expandWords fuel s words
              if s.halts then s
              else
                let (bare, args) := unwrap args.length false args
                let special := !bare && args.head?.any isSpecial
                match redirect fuel s redirects with
                | (after, false) =>
                    let after := restored (after.setStatus 2)
                    if special && !after.halts then { after.exit 2 with faulted := true }
                    else after.check
                | (ready, true) =>
                    let (shown, ready) := assign fuel (!args.isEmpty && !special) ready assignments
                    if ready.halts then restored ready
                    else
                      let ready := if shown.isEmpty && args.isEmpty then ready
                        else trace ready (s.stream? 2) (shown ++ args)
                      match args with
                      | [] => (restored (ready.setStatus ready.outputStatus)).check
                      | name :: rest =>
                          let after := invoke fuel bare name rest { ready with last }
                          let after := if bare && after.faulted then
                              { after with ended := none, faulted := false, status := 2 }
                            else after
                          let after := if special then after
                            else restoreVars after
                              (assignments.map fun a => (a.1, s.var? a.1))
                          let after := if name = "exec" && rest.isEmpty then after
                            else restored after
                          after.check
          | .redirected line body redirects =>
              match redirect fuel { s with line } redirects with
              | (after, false) => (restored (after.setStatus 2)).check
              | (ready, true) => restored (run fuel body ready)
          | .subshell line body redirects =>
              let inner (last : Bool) (c : State) : State :=
                match redirect fuel { c with line } redirects with
                | (c, false) => if c.halts then c else c.exit 2
                | (c, true) => finish fuel (run fuel body { c with last })
              if last && s.traps.isEmpty then s.end (inner true s)
              else (s.within (inner true)).check
          | .seq a b => lastly b (run fuel a s)
          | .both a b =>
              let after := tried a s
              if after.status = 0 then lastly b after else after
          | .either a b =>
              let after := tried a s
              if after.status = 0 then after else lastly b after
          | .not a =>
              let after := tried a s
              if after.halts then after else after.setStatus (if after.status = 0 then 1 else 0)
          | .background a =>
              s.beside fun c => finish fuel (run fuel a { c with last := true })
          | .pipe stages =>
              let stage (t : Tree) (c : State) : State :=
                finish fuel (run fuel t { c with last := true })
              let (after, input, ends) := stages.dropLast.foldl
                (fun ((s, input, ends) : State × Option Channel × Nat) t =>
                  let (printed, after) := (s.setStream 0 input).capturing (·.within (stage t))
                  let (c, after) := after.addSupply printed
                  ({ after with clock := s.clock }, some c, max ends printed.ends))
                (s, s.stream? 0, s.clock)
              let after := (after.setStream 0 input).within (stage (stages.getLastD .nothing))
              (restored (after.waitUntil ends)).check
          | .each line name words body =>
              let (values, s) := expandWords fuel { s with line } words
              if s.halts then s
              else
                let done := eachTurn (fun s value =>
                  if s.isFixed name then s.fail s!"{name}: is read only"
                  else run fuel body (s.setVar name value)) values
                    { s.succeed with loops := s.loops + 1 }
                { done with loops := s.loops }
          | .choose condition yes no =>
              let after := tried condition s
              if after.halts then after
              else if after.status = 0 then lastly yes after
              else
                match no with
                | .nothing => after.succeed
                | no => lastly no after
          | .loop on condition body =>
              let done := iterate (fun ((s, status) : State × Nat) =>
                match landed (tried condition s) with
                | (s, false) => .inr s
                | (checked, true) =>
                    if s.jump.isSome then .inl (checked, status)
                    else if (checked.status == 0) != on then .inr (checked.setStatus status)
                    else
                      match landed (run fuel body checked) with
                      | (s, true) => .inl (s, s.status)
                      | (s, false) => .inr s)
                (fun p => p.1.hang) turnLimit ({ s with loops := s.loops + 1 }, 0)
              { done with loops := s.loops }
          | .select line subject branches =>
              let (text, s) := expandText fuel false { s with line } subject
              let (s, chosen) := branches.foldl
                (fun ((s, chosen) : State × Option Tree) (patterns, body) =>
                  patterns.foldl (fun ((s, chosen) : State × Option Tree) w =>
                    if chosen.isSome || s.halts then (s, chosen)
                    else
                      let (gs, s) := expand fuel false s w
                      (s, if (patternOf gs).accepts text.toList then some body else none))
                    (s, chosen)) (s, none)
              match chosen with
              | some body => if s.halts then s else lastly body s.succeed
              | none => if s.halts then s else s.succeed
          | .define name body =>
              { s.succeed with
                functions := (name, body) :: s.functions.filter fun f => f.1 != name }
        if after.alarms.isEmpty && after.trapped.isEmpty then after else settle fuel after

end

def runLimit : Nat := 20000

structure Outcome where
  written : List Written
  ending : Ending
  time : Nat
  deriving DecidableEq, Repr, Inhabited

def State.outcome (s : State) : Outcome where
  written := s.written.reverse.mergeSort fun a b => a.time ≤ b.time
  ending := s.ending
  time :=
    let holding := s.jobs.filter fun j => j.holds.contains .output || j.holds.contains .errors
    (holding.map (·.ends)).foldl max s.clock

def runMain (name path : String) (args : List String) (env : List (String × String)) (dir : Place)
    (files : FileTree) (input : List Char) : Outcome :=
  let s := State.new mainPid (mainPid + 1) name [] env dir files
  let (c, s) := s.addSupply (Supply.ofText 0 input)
  let s := { s with
    streams := [(0, c), (1, .output), (2, .errors)], last := true }
  (runProgram runLimit path name args s).outcome

end Overseer.Simulation.Shell
