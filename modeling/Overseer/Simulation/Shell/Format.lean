import Overseer.Decimal.Shortest
import Overseer.Simulation.Shell.Number

/-!
Printing by a format. A format is gone through again as long as arguments are left and it takes any;
where arguments are missing, nothing or zero stands in for them. The shell's own command and the
program of the same name differ in what they say of faults and in a few escape sequences.
-/

namespace Overseer.Simulation.Shell.Format

inductive Dialect where
  | shell
  | program
  deriving DecidableEq, Repr, Inhabited

inductive Escape where
  | char (c : Char) (rest : List Char)
  | chars (s : List Char) (rest : List Char)
  | stop
  | fault (reason : String)
  deriving DecidableEq, Repr, Inhabited

def escapeCode? : Char → Option Char
  | 'a' => some '\x07'
  | 'b' => some '\x08'
  | 'f' => some '\x0c'
  | 'n' => some '\n'
  | 'r' => some '\r'
  | 't' => some '\t'
  | 'v' => some '\x0b'
  | '\\' => some '\\'
  | _ => none

def octet (n : Nat) : Char := Char.ofNat (n % 256)

def takeCodePoint (letter : Char) (n : Nat) (s : List Char) : Escape :=
  let digits := s.take n
  if digits.length < n || !digits.all fun c => (digitOf? 16 c).isSome then
    .fault "missing hexadecimal number in escape"
  else
    let code := (takeDigits 16 0 digits).1
    if 0xD800 ≤ code && code < 0xE000 then
      .fault ("invalid universal character name " ++ String.ofList ('\\' :: letter :: digits))
    else if code < 128 then .char (Char.ofNat code) (s.drop n)
    else .chars ('\\' :: letter :: digits.map Char.toUpper) (s.drop n)

/-- The escape sequence behind a backslash. In an argument, octal numbers may have one digit more if
they start with a zero, and a `c` ends all printing. -/
def takeEscape (d : Dialect) (inArgument : Bool) (s : List Char) : Escape :=
  match s with
  | [] => .char '\\' []
  | c :: rest =>
      match escapeCode? c with
      | some e => .char e rest
      | none =>
          if (digitOf? 8 c).isSome then
            let (n, rest) := takeFewDigits 8 3 (if inArgument && c == '0' then rest else s)
            .char (octet n) rest
          else if c = 'c' && (inArgument || d == .program) then .stop
          else if c = 'e' then .char '\x1b' rest
          else if d == .program && c == '"' then .char '"' rest
          else if d == .program && c == 'x' then
            if rest.head?.any fun h => (digitOf? 16 h).isSome then
              let (n, rest) := takeFewDigits 16 2 rest
              .char (octet n) rest
            else .fault "missing hexadecimal number in escape"
          else if d == .program && c == 'u' then takeCodePoint c 4 rest
          else if d == .program && c == 'U' then takeCodePoint c 8 rest
          else .char '\\' s

def unescape (d : Dialect) : Nat → List Char → List Char × Bool
  | 0, _ => ([], true)
  | _ + 1, [] => ([], true)
  | fuel + 1, '\\' :: rest =>
      match takeEscape d true rest with
      | .stop | .fault _ => ([], false)
      | .char c rest =>
          let (more, goesOn) := unescape d fuel rest
          (c :: more, goesOn)
      | .chars s rest =>
          let (more, goesOn) := unescape d fuel rest
          (s ++ more, goesOn)
  | fuel + 1, c :: rest =>
      let (more, goesOn) := unescape d fuel rest
      (c :: more, goesOn)

def unescaped (d : Dialect) (s : List Char) : List Char × Bool := unescape d (s.length + 1) s

structure Conversion where
  flags : List Char
  width : Nat
  precision : Option Nat
  letter : Char
  deriving DecidableEq, Repr, Inhabited

namespace Conversion

def has (c : Conversion) (flag : Char) : Bool := c.flags.contains flag

def pad (c : Conversion) (zeros : Bool) (lead digits : List Char) : List Char :=
  let missing := c.width - (lead.length + digits.length)
  if c.has '-' then lead ++ digits ++ List.replicate missing ' '
  else if zeros && c.has '0' then lead ++ List.replicate missing '0' ++ digits
  else List.replicate missing ' ' ++ lead ++ digits

def signOf (c : Conversion) (negative : Bool) : List Char :=
  if negative then ['-'] else if c.has '+' then ['+'] else if c.has ' ' then [' '] else []

def ofText (c : Conversion) (s : List Char) : List Char :=
  c.pad false [] (match c.precision with
    | some n => s.take n
    | none => s)

def digits (c : Conversion) (base n : Nat) : List Char :=
  let ds := if n = 0 && c.precision == some 0 then [] else Nat.toDigits base n
  List.replicate (c.precision.getD 1 - ds.length) '0' ++ ds

def ofInt (c : Conversion) (n : Int) : List Char :=
  let word := (n % Int.pow 2 64).toNat
  let zeros := c.precision.isNone
  match c.letter with
  | 'u' => c.pad zeros [] (c.digits 10 word)
  | 'o' =>
      let ds := c.digits 8 word
      c.pad zeros [] (if c.has '#' && ds.head? != some '0' then '0' :: ds else ds)
  | 'x' => c.pad zeros (if c.has '#' && word != 0 then ['0', 'x'] else []) (c.digits 16 word)
  | 'X' =>
      c.pad zeros (if c.has '#' && word != 0 then ['0', 'X'] else [])
        ((c.digits 16 word).map Char.toUpper)
  | _ => c.pad zeros (c.signOf (n < 0)) (c.digits 10 n.natAbs)

def fixedDigits (num den places : Nat) : List Char × List Char :=
  let ds := Nat.toDigits 10 (Decimal.roundHalfEven (num * Nat.pow 10 places) den)
  let ds := List.replicate (places + 1 - ds.length) '0' ++ ds
  (ds.take (ds.length - places), ds.drop (ds.length - places))

def scientificDigits (num den places : Nat) : List Char × Int :=
  let scaled (e : Int) : Nat :=
    let shift := (places : Int) - e
    if 0 ≤ shift then Decimal.roundHalfEven (num * Nat.pow 10 shift.toNat) den
    else Decimal.roundHalfEven num (den * Nat.pow 10 (-shift).toNat)
  let e := if num = 0 then 0 else Decimal.magnitude num den
  let n := scaled e
  if n < Nat.pow 10 (places + 1) then
    let ds := Nat.toDigits 10 n
    (List.replicate (places + 1 - ds.length) '0' ++ ds, e)
  else (Nat.toDigits 10 (scaled (e + 1)), e + 1)

def behindPoint (c : Conversion) (ds : List Char) : List Char :=
  if ds.isEmpty && !c.has '#' then [] else '.' :: ds

def exponentText (e : Int) : List Char :=
  let ds := Nat.toDigits 10 e.natAbs
  'e' :: (if e < 0 then '-' else '+') :: (List.replicate (2 - ds.length) '0' ++ ds)

def hexText (c : Conversion) (d : Decimal.Dyadic) : List Char :=
  let places := c.precision.getD 13
  let m := if places < 13 then Decimal.roundHalfEven d.m (Nat.pow 16 (13 - places)) else
    d.m * Nat.pow 16 (places - 13)
  let unit := Nat.pow 16 places
  let ds := Nat.toDigits 16 (m % unit)
  let ds := if places = 0 then [] else List.replicate (places - ds.length) '0' ++ ds
  let ds := if c.precision.isNone then Text.dropEndWhile (· == '0') ds else ds
  let e := if d.m = 0 then 0 else d.q + 52
  Nat.toDigits 16 (m / unit) ++ behindPoint c ds ++
    'p' :: (if e < 0 then '-' else '+') :: Nat.toDigits 10 e.natAbs

def ofReal (c : Conversion) (bits : UInt64) : List Char :=
  let sign := c.signOf (Decimal.isNegative bits)
  let cased (s : List Char) : List Char := if c.letter.isUpper then s.map Char.toUpper else s
  if Decimal.isNaN bits then c.pad false sign (cased ['n', 'a', 'n'])
  else if Decimal.isInfinite bits then c.pad false sign (cased ['i', 'n', 'f'])
  else
    let d := Decimal.Dyadic.ofBits (bits &&& 0x7FFFFFFFFFFFFFFF)
    let (num, den) := if 0 ≤ d.q then (d.m * Nat.pow 2 d.q.toNat, 1) else (d.m, Nat.pow 2 (-d.q).toNat)
    let places := c.precision.getD 6
    let fixed (places : Nat) (trimmed : Bool) : List Char :=
      let (whole, fraction) := fixedDigits num den places
      whole ++ behindPoint c (if trimmed then Text.dropEndWhile (· == '0') fraction else fraction)
    let scientific (places : Nat) (trimmed : Bool) : List Char :=
      let (ds, e) := scientificDigits num den places
      let fraction := ds.drop 1
      ds.take 1 ++
        behindPoint c (if trimmed then Text.dropEndWhile (· == '0') fraction else fraction) ++
        exponentText e
    let body := match c.letter.toLower with
      | 'f' => fixed places false
      | 'e' => scientific places false
      | 'a' => hexText c d
      | _ =>
          let wanted := max places 1
          let e := (scientificDigits num den (wanted - 1)).2
          if -4 ≤ e && e < wanted then fixed (wanted - 1 - e).toNat (!c.has '#')
          else scientific (wanted - 1) (!c.has '#')
    let lead := if c.letter.toLower == 'a' then sign ++ cased ['0', 'x'] else sign
    c.pad true lead (cased body)

end Conversion

structure Press where
  printed : List Char
  args : List String
  warnings : List String
  status : Nat
  stopped : Bool
  deriving DecidableEq, Repr, Inhabited

namespace Press

def print (p : Press) (s : List Char) : Press := { p with printed := s.reverse ++ p.printed }

def warn (p : Press) (text : String) : Press :=
  { p with warnings := text :: p.warnings, status := 1 }

def fail (p : Press) (status : Nat) (text : String) : Press :=
  { p with warnings := text :: p.warnings, status, stopped := true }

def next (p : Press) : Option String × Press := (p.args.head?, { p with args := p.args.drop 1 })

def quotedArgument (s : String) : String :=
  let shown (c : Char) : List Char :=
    let n := c.toNat
    match [('\x07', 'a'), ('\x08', 'b'), ('\x0c', 'f'), ('\n', 'n'), ('\r', 'r'), ('\t', 't'),
      ('\x0b', 'v'), ('\\', '\\'), ('\'', '\'')].lookup c with
    | some e => ['\\', e]
    | none =>
        if n < 32 || 126 < n then
          let ds := Nat.toDigits 8 n
          '\\' :: (List.replicate (3 - ds.length) '0' ++ ds)
        else [c]
  "'" ++ String.ofList (s.toList.flatMap shown) ++ "'"

def checkNumber (p : Press) (d : Dialect) (s : String) (rest : Option (List Char))
    (tooLarge : Bool) : Press :=
  let said (shell program : String) : Press :=
    p.warn (match d with
      | .shell => s!"{s}: {shell}"
      | .program => s!"{quotedArgument s}: {program}")
  match rest with
  | none =>
      if s.isEmpty then p else said "expected numeric value" "expected a numeric value"
  | some rest =>
      if !rest.isEmpty then said "not completely converted" "value not completely converted"
      else if tooLarge then said "Numerical result out of range" "Numerical result out of range"
      else p

def quotedCode? (s : String) : Option Nat :=
  match s.toList with
  | q :: rest =>
      if q = '"' || q = '\'' then some ((rest.head?.map Char.toNat).getD 0) else none
  | [] => none

def nextInt (p : Press) (d : Dialect) (signed : Bool) : Int × Press :=
  match p.next with
  | (none, p) => (0, p)
  | (some s, p) =>
      match quotedCode? s with
      | some n => (n, p)
      | none =>
          match takeWhole true s.toList with
          | none => (0, p.checkNumber d s none false)
          | some (n, rest) =>
              let (low, high) : Int × Int :=
                if signed then (smallest, greatest) else (-(Int.pow 2 64 - 1), Int.pow 2 64 - 1)
              let large := n < low || high < n
              let kept := if !large then n else if signed && n < 0 then low else high
              (kept, p.checkNumber d s (some rest) large)

def nextReal (p : Press) (d : Dialect) : UInt64 × Press :=
  match p.next with
  | (none, p) => (0, p)
  | (some s, p) =>
      match quotedCode? s with
      | some n => (Decimal.nearestBits n 1, p)
      | none =>
          match takeReal s.toList with
          | none => (0, p.checkNumber d s none false)
          | some (bits, rest) => (bits, p.checkNumber d s (some rest) false)

def convert (p : Press) (d : Dialect) (c : Conversion) (spelled : String) : Press :=
  match c.letter with
  | 's' =>
      let (s, p) := p.next
      p.print (c.ofText (s.getD "").toList)
  | 'c' =>
      let (s, p) := p.next
      p.print (c.pad false [] [(s.getD "").toList.headD '\x00'])
  | 'b' =>
      let (s, p) := p.next
      let (text, goesOn) := unescaped d (s.getD "").toList
      { p.print (c.ofText text) with stopped := !goesOn }
  | letter =>
      if letter = 'd' || letter = 'i' then
        let (n, p) := p.nextInt d true
        p.print (c.ofInt n)
      else if "ouxX".toList.contains letter then
        let (n, p) := p.nextInt d false
        p.print (c.ofInt n)
      else if "aAeEfFgG".toList.contains letter then
        let (bits, p) := p.nextReal d
        p.print (c.ofReal bits)
      else match d with
        | .shell => p.fail 2 s!"{spelled}: invalid directive"
        | .program => p.fail 1 s!"{spelled}: invalid conversion specification"

def sizeLimit : Nat := 10000000

def takeSize (p : Press) (d : Dialect) (s : List Char) : Int × Press × List Char :=
  match s with
  | '*' :: rest =>
      let (n, p) := p.nextInt d true
      (n.bmod (Nat.pow 2 32), p, rest)
  | s => (Text.digitsValue (s.takeWhile Char.isDigit), p, s.dropWhile Char.isDigit)

def isFitting (c : Conversion) : Bool :=
  let bars (flag : Char) (letters : String) : Bool :=
    c.has flag && letters.toList.contains c.letter
  !(bars '#' "cdisu" || bars '0' "cs" || bars '\'' "aAceEosxX" ||
    (c.precision.isSome && c.letter == 'c'))

def takeConversion (p : Press) (d : Dialect) (s : List Char) : Press × List Char :=
  let marks := if d == .program then "#-+ 0'" else "#-+ 0"
  let flags := s.takeWhile marks.toList.contains
  let (width, p, rest) := p.takeSize d (s.drop flags.length)
  let flags := if width < 0 then '-' :: flags else flags
  let (precision, p, rest) : Option Nat × Press × List Char := match rest with
    | '.' :: rest =>
        let (n, p, rest) := p.takeSize d rest
        (if n < 0 then none else some n.toNat, p, rest)
    | rest => (none, p, rest)
  let rest := if d == .program then rest.dropWhile "hlLjtz".toList.contains else rest
  match rest with
  | [] =>
      match d with
      | .shell => (p.fail 2 "missing format character", [])
      | .program =>
          (p.fail 1 s!"%{String.ofList s}: invalid conversion specification", [])
  | letter :: rest =>
      let spelled := String.ofList ('%' :: s.take (s.length - rest.length))
      let c : Conversion :=
        ⟨flags, min width.natAbs sizeLimit, precision.map (min sizeLimit), letter⟩
      let after := if d == .program && !isFitting c then
          p.fail 1 s!"{spelled}: invalid conversion specification"
        else p.convert d c spelled
      let tooLarge := sizeLimit ≤ width.natAbs || precision.any (sizeLimit ≤ ·)
      (if tooLarge then { after with printed := p.printed } else after, rest)

def pass (d : Dialect) : Nat → List Char → Press → Press
  | 0, _, p => p
  | fuel + 1, s, p =>
      if p.stopped then p
      else
        match s with
        | [] => p
        | '\\' :: rest =>
            match takeEscape d false rest with
            | .stop => { p with stopped := true }
            | .fault reason => p.fail 1 reason
            | .char c rest => pass d fuel rest (p.print [c])
            | .chars s rest => pass d fuel rest (p.print s)
        | '%' :: '%' :: rest => pass d fuel rest (p.print ['%'])
        | '%' :: rest =>
            let (p, rest) := p.takeConversion d rest
            pass d fuel rest p
        | c :: rest => pass d fuel rest (p.print [c])

def passes (d : Dialect) (format : List Char) : Nat → Press → Press
  | 0, p => p
  | fuel + 1, p =>
      let after := pass d (format.length + 1) format p
      if after.stopped || after.args.isEmpty then after
      else if after.args.length = p.args.length then
        match d, after.args with
        | .program, a :: _ =>
            let warning :=
              s!"warning: ignoring excess arguments, starting with {quotedArgument a}"
            { after with warnings := warning :: after.warnings }
        | _, _ => after
      else passes d format fuel after

end Press

structure Result where
  printed : List Char
  warnings : List String
  status : Nat
  deriving DecidableEq, Repr, Inhabited

def print (d : Dialect) (format : List Char) (args : List String) : Result :=
  let p := Press.passes d format (args.length + 1) ⟨[], args, [], 0, false⟩
  ⟨p.printed.reverse, p.warnings.reverse, p.status⟩

def echo (args : List String) : List Char :=
  let (args, ending) : List String × List Char := match args with
    | "-n" :: rest => (rest, [])
    | args => (args, ['\n'])
  let (text, goesOn) := unescaped .shell (" ".intercalate args).toList
  if goesOn then text ++ ending else text

def echoPlain : Bool → Bool → List String → List Char
  | _, ends, [] => if ends then ['\n'] else []
  | escapes, ends, a :: rest =>
      let isFlags := match a.toList with
        | '-' :: f :: fs => (f :: fs).all fun c => c == 'n' || c == 'e' || c == 'E'
        | _ => false
      if isFlags then
        let escapes := a.toList.foldl
          (fun e c => if c = 'e' then true else if c = 'E' then false else e) escapes
        echoPlain escapes (ends && !a.toList.contains 'n') rest
      else
        let text := (" ".intercalate (a :: rest)).toList
        let ending := if ends then ['\n'] else []
        if escapes then
          let (text, goesOn) := unescaped .program text
          if goesOn then text ++ ending else text
        else text ++ ending

end Overseer.Simulation.Shell.Format
