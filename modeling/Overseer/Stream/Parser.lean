import Overseer.Job.Message

/-!
The stream protocol: what a line of output means. A line `N::text` is a message of level `N`, a line
`N:::text` opens a message that goes on until a line `:::`, and any other line is a message of the
default level of the stream.
-/

namespace Overseer.Stream

structure Parser where
  default : Level
  opened : Option (Level × List Char)
  deriving DecidableEq, Repr, Inhabited

namespace Parser

def new (default : Level) : Parser := ⟨default, none⟩

def isOpen (p : Parser) : Bool := p.opened.isSome

inductive Head where
  | plain
  | single (level : Level) (rest : List Char)
  | opening (level : Level) (rest : List Char)
  deriving DecidableEq, Repr

def head (line : List Char) : Head :=
  let digits := line.takeWhile Text.isAsciiDigit
  let rest := line.dropWhile Text.isAsciiDigit
  if digits.isEmpty then .plain
  else
    let n := Text.digitsValue digits
    if 65535 < n then .plain
    else
      match rest with
      | ':' :: ':' :: ':' :: rest => .opening (.ofNat n) rest
      | ':' :: ':' :: rest => .single (.ofNat n) rest
      | _ => .plain

def chomp (line : List Char) : List Char :=
  match line.getLast? with
  | some '\r' => line.dropLast
  | _ => line

def closing : List Char := [':', ':', ':']

def feedChars (p : Parser) (line : List Char) : Parser × Option (Level × List Char) :=
  let line := chomp line
  if line.isEmpty then (p, none)
  else
    match p.opened with
    | some (level, content) =>
        if line = closing then ({ p with opened := none }, some (level, content))
        else ({ p with opened := some (level, content ++ '\n' :: line) }, none)
    | none =>
        match head line with
        | .plain => (p, some (p.default, line))
        | .single level rest => (p, some (level, rest))
        | .opening level rest => ({ p with opened := some (level, rest) }, none)

def feed (p : Parser) (line : String) : Parser × Option Message :=
  let (p, m) := p.feedChars line.toList
  (p, m.map fun (level, content) => .new level (String.ofList content))

def feedAll (p : Parser) : List String → Parser × List Message
  | [] => (p, [])
  | line :: rest =>
      let (p, m) := p.feed line
      let (p, ms) := p.feedAll rest
      (p, m.toList ++ ms)

end Parser

end Overseer.Stream
