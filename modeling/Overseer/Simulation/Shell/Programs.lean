import Overseer.Simulation.Shell.Format
import Overseer.Simulation.Shell.Jobs
import Overseer.Simulation.Shell.Test

/-!
The programs that can be run besides the shell. A program works on the streams and the files of the
process whose state it is given.
-/

namespace Overseer.Simulation.Shell.Programs

open Host

def isTame (c : Char) : Bool := c.isAlphanum || "%+,-./@_".toList.contains c || 0x80 ≤ c.toNat

def isTameInside (c : Char) : Bool := isTame c || c == '~' || c == '#'

def named (name : String) : String :=
  let chars := name.toList
  if chars.head?.any isTame && chars.all isTameInside then name
  else if chars.contains '\'' &&
      !chars.any fun c => "\"$\\".toList.contains c || c == backquote then
    "\"" ++ name ++ "\""
  else "'" ++ "'\\''".intercalate ((Text.pieces '\'' chars).map String.ofList) ++ "'"

def misused (s : State) (program reason : String) : State :=
  (s.say s!"{program}: {reason}\nTry '{program} --help' for more information.").setStatus 1

def streamOfPath? (path : String) : Option Nat :=
  match path with
  | "/dev/stdin" => some 0
  | "/dev/stdout" => some 1
  | "/dev/stderr" => some 2
  | path =>
      ["/dev/fd/", "/proc/self/fd/"].findSome? fun before =>
        if path.startsWith before then count? (path.toList.drop before.length) else none

def copyFile (s : State) (file : String) : State :=
  let failed (s : State) (reason : String) : State :=
    (s.say s!"cat: {named file}: {reason}").setStatus 1
  let done : State × Bool → State
    | (s, true) => s
    | (s, false) => (s.say "cat: write error: Bad file descriptor").setStatus 1
  match if file = "-" then some 0 else streamOfPath? file with
  | some n =>
      match s.copyAll n with
      | some r => done r
      | none => failed s "Bad file descriptor"
  | none =>
      match s.files.read s.dir file with
      | .ok contents => done (s.print (octetText contents))
      | .error e => failed s e.reason

def decorate (numbered ends : Bool) (s : List Char) : List Char :=
  let lines := Text.pieces '\n' s
  let shown := lines.zipIdx.map fun (line, i) =>
    if i + 1 = lines.length && line.isEmpty then []
    else
      let n := (toString (i + 1)).toList
      (if numbered then List.replicate (6 - n.length) ' ' ++ n ++ ['\t'] else []) ++ line ++
        (if i + 1 = lines.length then [] else if ends then ['$', '\n'] else ['\n'])
  shown.flatten

def cat (s : State) (args : List String) : State :=
  let (before, behind) := (args.takeWhile (· != "--"), (args.dropWhile (· != "--")).drop 1)
  let isOption (a : String) : Bool := a.startsWith "-" && a != "-"
  let flags := (before.filter isOption).flatMap fun a => a.toList.drop 1
  let files := before.filter (fun a => !isOption a) ++ behind
  let long := before.find? fun a => a.startsWith "--"
  match long, flags.find? fun c => !"AbeEnstTuv".toList.contains c with
  | some a, _ => misused s "cat" s!"unrecognized option '{a}'"
  | none, some c => misused s "cat" s!"invalid option -- '{String.singleton c}'"
  | none, none =>
      let files := if files.isEmpty then ["-"] else files
      let numbered := flags.contains 'n' || flags.contains 'b'
      let ends := flags.any fun c => "AeE".toList.contains c
      let closed := files.contains "-" && (s.stream? 0).isNone
      let after :=
        if numbered || ends then
          let (all, after) := s.succeed.capturing fun s => files.foldl copyFile s
          (after.print (decorate numbered ends (all.pieces.flatMap (·.2)))).1
        else files.foldl copyFile s.succeed
      if closed then (after.say "cat: closing standard input: Bad file descriptor").setStatus 1
      else after

def printf (s : State) (args : List String) : State :=
  match if args.head? = some "--" then args.drop 1 else args with
  | [] => misused s "printf" "missing operand"
  | format :: args =>
      let r := Format.print .program format.toList args
      let s := r.warnings.foldl (fun s w => s.say s!"printf: {w}") s
      ((s.print r.printed).1).setStatus r.status

def sleep (s : State) (args : List String) : State :=
  let args := if args.head? = some "--" then args.drop 1 else args
  match args.find? fun a => a.startsWith "-" with
  | some a =>
      if a.startsWith "--" then misused s "sleep" s!"unrecognized option '{a}'"
      else misused s "sleep" s!"invalid option -- '{String.ofList ((a.toList.drop 1).take 1)}'"
  | none =>
      let wrong := args.filter fun a => (duration? a.toList).isNone
      match args, wrong.reverse with
      | [], _ => misused s "sleep" "missing operand"
      | _, last :: before =>
          let s := before.reverse.foldl (fun s a => s.say s!"sleep: invalid time interval '{a}'") s
          misused s "sleep" s!"invalid time interval '{last}'"
      | _, [] =>
          (s.waitUntil (s.clock + (args.filterMap fun a => duration? a.toList).foldl (· + ·) 0)).succeed

def run (name : String) (args : List String) (s : State) : State :=
  match name with
  | "cat" => cat s args
  | "printf" => printf s args
  | "sleep" => sleep s args
  | "echo" => ((s.print (Format.echoPlain false true args)).1).succeed
  | "pwd" => ((s.print (FileTree.pathOf s.dir ++ "\n").toList).1).succeed
  | "true" => s.succeed
  | "false" => s.setStatus 1
  | "kill" => s.kill args
  | "test" =>
      match Test.evaluate s 8 false args with
      | .ok b => s.setStatus (if b then 0 else 1)
      | .error e => (s.say s!"test: {e}").setStatus 2
  | _ => s.setStatus 127

end Overseer.Simulation.Shell.Programs
