import Overseer.Stats.Snapshot

/-!
The exposition of job statistics as labelled gauges, and their text form. A gauge holds the last
value that a snapshot gave for its job and key; two labels whose texts run together to the same are
one gauge.
-/

namespace Overseer

structure Exposition where
  gauges : List ((String × String) × Float)
  deriving BEq, Repr, Inhabited

structure AlreadyRegistered where
  deriving DecidableEq, Repr

def AlreadyRegistered.message (_ : AlreadyRegistered) : String :=
  "metric registration failed: Duplicate metrics collector registration attempted"

namespace Exposition

def empty : Exposition := ⟨[]⟩

def labelBefore (a b : String × String) : Bool :=
  decide (a.1 < b.1) || (a.1 == b.1 && decide (a.2 < b.2))

/-- What tells gauges apart: job and key written one behind the other. -/
def identity (label : String × String) : String := label.1 ++ label.2

def insert (label : String × String) (value : Float) :
    List ((String × String) × Float) → List ((String × String) × Float)
  | [] => [(label, value)]
  | (l, v) :: rest =>
      if labelBefore label l then (label, value) :: (l, v) :: rest
      else (l, v) :: insert label value rest

/-- Sets one gauge. One that cannot be told apart from an earlier gauge is that gauge, which keeps
its labels. -/
def set (label : String × String) (value : Float) (gauges : List ((String × String) × Float)) :
    List ((String × String) × Float) :=
  if gauges.any fun g => identity g.1 = identity label then
    gauges.map fun g => if identity g.1 = identity label then (g.1, value) else g
  else insert label value gauges

def record (e : Exposition) (s : Stats.Snapshot) : Exposition :=
  ⟨s.keys.foldl (fun gauges (key, value) => set (s.scope, key) value gauges) e.gauges⟩

def size (e : Exposition) : Nat := e.gauges.length

def get? (e : Exposition) (job key : String) : Option Float :=
  (e.gauges.find? fun g => identity g.1 = identity (job, key)).map (·.2)

def registerAgain (_ : Exposition) : Except AlreadyRegistered Exposition := .error ⟨⟩

/-! ## Text -/

def escapeChar (c : Char) : List Char :=
  if c = '\\' then ['\\', '\\']
  else if c = '\n' then ['\\', 'n']
  else if c = '"' then ['\\', '"']
  else [c]

def labelText (s : String) : String := String.ofList ('"' :: s.toList.flatMap escapeChar ++ ['"'])

def header : String :=
  "# HELP pmd_job_stat Last flushed value of a job statistic\n# TYPE pmd_job_stat gauge\n"

def gaugeText : (String × String) × Float → String
  | ((job, key), value) =>
      "pmd_job_stat\x7bjob=" ++ labelText job ++ ",key=" ++ labelText key ++ "\x7d " ++
        Decimal.render .plain value ++ "\n"

def text (e : Exposition) : String :=
  if e.gauges.isEmpty then "" else header ++ String.join (e.gauges.map gaugeText)

end Exposition

end Overseer
