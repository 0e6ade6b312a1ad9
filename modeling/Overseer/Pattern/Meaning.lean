import Overseer.Pattern.Parser
import Overseer.Pattern.Size

/-!
What a written pattern stands for. Flags hold from where they are switched to the end of the group
around them, also across alternatives. Sets are closed under a change of case before they are
negated or combined.
-/

namespace Overseer.Pattern

structure Flags where
  caseless : Bool
  lines : Bool
  dotAll : Bool
  crlf : Bool
  unicode : Bool
  deriving DecidableEq, Repr, Inhabited

namespace Flags

def initial : Flags := ⟨false, false, false, false, true⟩

def switch (f : Flags) : Flag × Bool → Flags
  | (.caseless, on) => { f with caseless := on }
  | (.lines, on) => { f with lines := on }
  | (.dotAll, on) => { f with dotAll := on }
  | (.crlf, on) => { f with crlf := on }
  | (.unicode, on) => { f with unicode := on }
  | (.reluctant, _) | (.spaced, _) => f

def apply (f : Flags) (change : FlagChange) : Flags := change.foldl switch f

def fold (f : Flags) (s : CharSet) : CharSet :=
  if !f.caseless then s else if f.unicode then .caseless s else .asciiCaseless s

def checked (f : Flags) (s : CharSet) : Except PatternError CharSet :=
  if f.unicode || s.isAscii then .ok s else .error .notText

def foldAndNegate (f : Flags) (negated : Bool) (s : CharSet) : Except PatternError CharSet :=
  f.checked (if negated then .complement (f.fold s) else f.fold s)

end Flags

/-! ## Sets -/

def LetterClass.set (unicode : Bool) : LetterClass → CharSet
  | digit => if unicode then .digit else .asciiDigit
  | blank => if unicode then .blank else .asciiBlank
  | word => if unicode then .word else .asciiWord

def SetOp.apply : SetOp → CharSet → CharSet → CharSet
  | inter, s, t => .inter s t
  | diff, s, t => .diff s t
  | symmDiff, s, t => .symmDiff s t

mutual

def SetTree.meaning (f : Flags) : SetTree → Except PatternError CharSet
  | .empty => .ok .none
  | .char n _ => if f.unicode || n < 0x80 then .ok (.single n) else .error .notAscii
  | .range low high =>
      if f.unicode || high < 0x80 then .ok (.range low high) else .error .notAscii
  | .letter l negated =>
      let s := l.set f.unicode
      f.checked (if negated then .complement s else s)
  | .named s negated => f.foldAndNegate negated s
  | .property s negated => if f.unicode then f.foldAndNegate negated s else .error .notAscii
  | .bracket negated s => do f.foldAndNegate negated (← s.meaning f)
  | .union items => SetTree.unionMeaning f items
  | .combine op a b => do return op.apply (f.fold (← a.meaning f)) (f.fold (← b.meaning f))

def SetTree.unionMeaning (f : Flags) : List SetTree → Except PatternError CharSet
  | [] => .ok .none
  | s :: rest => do return .union (← s.meaning f) (← SetTree.unionMeaning f rest)

end

/-! ## Patterns -/

def Look.under (f : Flags) : Look → Look
  | lineStart => if f.lines then (if f.crlf then lineStartCrlf else lineStart) else textStart
  | lineEnd => if f.lines then (if f.crlf then lineEndCrlf else lineEnd) else textEnd
  | l => l

def Flags.dot (f : Flags) : CharSet :=
  if f.dotAll then .all
  else if f.crlf then .complement (.union (.single 10) (.single 13))
  else .complement (.single 10)

mutual

def Tree.meaning (f : Flags) : Tree → Except PatternError (Regex × Flags)
  | .empty => .ok (.empty, f)
  | .flags change => .ok (.empty, f.apply change)
  | .char n octet =>
      if !f.unicode && octet && 0x80 ≤ n then .error .notText
      else .ok (.set (f.fold (.single n)), f)
  | .dot => if f.unicode then .ok (.set f.dot, f) else .error .notText
  | .look l => .ok (.look (l.under f) (!f.unicode), f)
  | .set s => do return (.set (← s.meaning f), f)
  | .rep a low high => do
      let (r, f) ← a.meaning f
      return (r.repeated low high, f)
  | .group change noted a => do
      let (r, _) ← a.meaning (f.apply change)
      return (if noted then .group r else r, f)
  | .seq parts => Tree.seqMeaning f parts
  | .alt branches => Tree.altMeaning f branches

def Tree.seqMeaning (f : Flags) : List Tree → Except PatternError (Regex × Flags)
  | [] => .ok (.empty, f)
  | t :: rest => do
      let (a, f) ← t.meaning f
      let (b, f) ← Tree.seqMeaning f rest
      return (.seq a b, f)

def Tree.altMeaning (f : Flags) : List Tree → Except PatternError (Regex × Flags)
  | [] => .ok (.set .none, f)
  | t :: rest => do
      let (a, f) ← t.meaning f
      let (b, f) ← Tree.altMeaning f rest
      return (.alt a b, f)

end

def Regex.ofText (s : String) : Except PatternError Regex := do
  let (r, _) ← (← Tree.parse s).meaning .initial
  return r

def parse (s : String) : Except PatternError Regex := do
  let r ← Regex.ofText s
  if maxSize < r.size then throw .tooLarge
  return r

/-- Whether a text is a pattern that can select the values of fields: its size does not matter, but
it must not ask for words in the sense of Unicode. -/
def isFieldPattern (s : String) : Bool :=
  match Regex.ofText s with
  | .ok r => !r.looksAtWords
  | .error _ => false

end Overseer.Pattern
