import Overseer.Decimal.Read
import Overseer.Text.Blank

/-!
A sample line `key:value|type` or `key:value|type|@rate`. The value stays text until it is
aggregated, since a set counts texts and a gauge looks at the sign.
-/

namespace Overseer.Stats

inductive Kind where
  | gauge
  | counter
  | timer
  | set
  | keyValue
  deriving DecidableEq, Repr, Inhabited

namespace Kind

def name : Kind → String
  | gauge => "g"
  | counter => "c"
  | timer => "ms"
  | set => "s"
  | keyValue => "kv"

def ofName? : String → Option Kind
  | "g" => some gauge
  | "c" => some counter
  | "ms" => some timer
  | "s" => some set
  | "kv" => some keyValue
  | _ => none

end Kind

structure Sample where
  key : String
  value : String
  kind : Kind
  rate : Float
  deriving BEq, Repr, Inhabited

inductive StatsError where
  | malformed (line : String)
  | unknownKind (name : String)
  | invalidValue (key value : String)
  | inconsistent (key : String) (existing got : Kind)
  deriving DecidableEq, Repr

def StatsError.message : StatsError → String
  | .malformed line => s!"malformed sample '{line}' (expected key:value|type)"
  | .unknownKind name => s!"unknown sample type '{name}'"
  | .invalidValue key value => s!"invalid value '{value}' for key '{key}'"
  | .inconsistent key existing got =>
      s!"inconsistent sample for '{key}': aggregated as {existing.name}, got {got.name}"

namespace Sample

def readRate : List Char → Option Float
  | '@' :: digits => (Decimal.read? digits).filter (0.0 < ·)
  | _ => none

/-- Reads the characters of a line. The kind is looked at before the rate, and the rate before the
lengths of key and value. -/
def parseChars (line : List Char) : Except StatsError Sample := do
  let malformed : StatsError := .malformed (String.ofList line)
  match Text.cutAt ':' line with
  | none => throw malformed
  | some (key, rest) =>
      match Text.pieces '|' rest with
      | value :: kind :: more =>
          match Kind.ofName? (String.ofList kind) with
          | none => throw (.unknownKind (String.ofList kind))
          | some kind =>
              -- Parts behind the rate are not looked at.
              let rate ← match more with
                | [] => pure 1.0
                | flag :: _ => match readRate flag with
                  | some r => pure r
                  | none => throw malformed
              if key.isEmpty || value.isEmpty then throw malformed
              return ⟨String.ofList key, String.ofList value, kind, rate⟩
      | _ => throw malformed

def parse (line : String) : Except StatsError Sample := parseChars (Text.trimChars line.toList)

end Sample

end Overseer.Stats
