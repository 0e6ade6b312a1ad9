import Overseer.Log.Filter

/-!
The configuration of the log: its output format and its filter, taken from the environment.
-/

namespace Overseer.Log

inductive Format where
  | text
  | json
  | journald
  deriving DecidableEq, Repr, Inhabited

def Format.name : Format → String
  | text => "text"
  | json => "json"
  | journald => "journald"

inductive LogError where
  | invalidFormat (text : String)
  | journaldUnavailable
  | alreadyInstalled
  | invalidFilter (text : String)
  deriving DecidableEq, Repr

def LogError.message : LogError → String
  | .invalidFormat text => s!"invalid log format '{text}' (expected text|json|journald)"
  | .journaldUnavailable => "journald output is unavailable in this build"
  | .alreadyInstalled => "a global logger is already installed"
  | .invalidFilter text => s!"invalid log filter '{text}'"

def Format.parse (s : String) : Except LogError Format :=
  match String.ofList (Text.lowerAscii (Text.trimChars s.toList)) with
  | "" | "text" => .ok .text
  | "json" => .ok .json
  | "journald" | "journal" => .error .journaldUnavailable
  | _ => .error (.invalidFormat s)

structure Config where
  format : Format
  level : String
  withTargets : Bool
  useColor : Bool
  deriving DecidableEq, Repr, Inhabited

namespace Config

def default : Config := ⟨.text, "info", true, false⟩

def levelVariable : String := "PMD_LOG_LEVEL"
def formatVariable : String := "PMD_LOG_FORMAT"

def ofEnvironment (lookup : String → Option String) : Except LogError Config := do
  let level := match lookup levelVariable with
    | some l => if (Text.trimChars l.toList).isEmpty then default.level else l
    | none => default.level
  let format ← match lookup formatVariable with
    | some f => Format.parse f
    | none => pure default.format
  return { default with level, format }

def install (isPattern : String → Bool) (installed : Bool) (c : Config) : Except LogError Unit :=
  if c.format = .journald then .error .journaldUnavailable
  else if !isFilter isPattern c.level then .error (.invalidFilter c.level)
  else if installed then .error .alreadyInstalled
  else .ok ()

end Config

end Overseer.Log
