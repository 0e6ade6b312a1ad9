import Overseer.Json.Document
import Overseer.Text.Quoted

/-!
Typed reading of documents. A reader meets faults of the text and values of the wrong type in the
order in which they are written; what it does not look at is skipped.

A record may be written as an object, whose unknown fields are skipped, or as an array of its fields
in the order of their declaration.
-/

namespace Overseer.Json

inductive Found where
  | null
  | bool (b : Bool)
  | int (n : Int)
  | float (x : Float)
  | str (s : String)
  | sequence
  | map
  deriving Repr

def Found.text : Found → String
  | .null => "null"
  | .bool b => s!"boolean `{b}`"
  | .int n => s!"integer `{n}`"
  | .float x => "floating point `" ++ Decimal.render .json x ++ "`"
  | .str s => "string " ++ Text.quoted s
  | .sequence => "sequence"
  | .map => "map"

inductive Mismatch where
  | wrongType (found : Found) (expected : String)
  | wrongValue (found : Found) (expected : String)
  | wrongLength (length : Nat) (expected : String)
  | missingField (name : String)
  | duplicateField (name : String)
  | unknownVariant (name : String) (known : List String)
  deriving Repr

def variantPhrase : List String → String
  | [] => "there are no variants"
  | [a] => s!"expected `{a}`"
  | [a, b] => s!"expected `{a}` or `{b}`"
  | names => "expected one of " ++ ", ".intercalate (names.map fun a => s!"`{a}`")

def Mismatch.message : Mismatch → String
  | .wrongType found expected => s!"invalid type: {found.text}, expected {expected}"
  | .wrongValue found expected => s!"invalid value: {found.text}, expected {expected}"
  | .wrongLength length expected => s!"invalid length {length}, expected {expected}"
  | .missingField name => s!"missing field `{name}`"
  | .duplicateField name => s!"duplicate field `{name}`"
  | .unknownVariant name known => s!"unknown variant `{name}`, {variantPhrase known}"

inductive DecodeError where
  | text (fault : Fault)
  | data (mismatch : Mismatch)
  deriving Repr

def Fault.message : Fault → String
  | .malformed => "malformed JSON text"
  | .truncated => "JSON text ends too early"

def DecodeError.message : DecodeError → String
  | .text fault => fault.message
  | .data mismatch => mismatch.message

/-- Where a document comes from: a text, of whose nesting only so many levels may still be entered,
or a value that was read before. -/
inductive Origin where
  | text (depth : Nat)
  | value
  deriving Repr

def depthLimit : Nat := 128

namespace Origin

def enter : Origin → Except DecodeError Origin
  | .text (depth + 2) => .ok (.text (depth + 1))
  | .text _ => .error (.text .malformed)
  | .value => .ok .value

def overlong (n : Nat) : Origin → DecodeError
  | .text _ => .text .malformed
  | .value => .data (.wrongLength n "fewer elements in array")

end Origin

abbrev Reader (α : Type) := Origin → Doc → Except DecodeError α

def liftFault {α : Type} : Except Fault α → Except DecodeError α
  | .ok a => .ok a
  | .error f => .error (.text f)

def liftClose : Option Fault → Except DecodeError Unit
  | none => .ok ()
  | some f => .error (.text f)

namespace Doc

def found : Doc → Except DecodeError Found
  | .null => .ok .null
  | .bool b => .ok (.bool b)
  | .num value => do
      match ← liftFault value with
      | .int n => return .int n
      | .float x => return .float x
  | .str value => do return .str (← liftFault value)
  | .arr _ _ => .ok .sequence
  | .obj _ _ => .ok .map
  | .broken read _ _ => .error (.text read)

def mismatch {α : Type} (expected : String) (d : Doc) : Except DecodeError α := do
  .error (.data (.wrongType (← d.found) expected))

mutual

def skip : Doc → Except DecodeError Unit
  | .arr items close => do skipItems items; liftClose close
  | .obj fields close => do skipFields fields; liftClose close
  | .broken _ skipped _ => .error (.text skipped)
  | _ => .ok ()

def skipItems : List Doc → Except DecodeError Unit
  | [] => .ok ()
  | d :: rest => do skip d; skipItems rest

def skipFields : List (Except Fault String × Doc) → Except DecodeError Unit
  | [] => .ok ()
  | (_, d) :: rest => do skip d; skipFields rest

end

end Doc

mutual

def readAny (origin : Origin) : Doc → Except DecodeError Value
  | .null => .ok .null
  | .bool b => .ok (.bool b)
  | .num value => do return .num (← liftFault value)
  | .str value => do return .str (← liftFault value)
  | .arr items close => do
      let items ← readAnyItems (← origin.enter) items
      liftClose close
      return .arr items
  | .obj fields close => do
      let fields ← readAnyFields (← origin.enter) fields
      liftClose close
      return Value.ofFields fields
  | .broken read _ _ => .error (.text read)

def readAnyItems (origin : Origin) : List Doc → Except DecodeError (List Value)
  | [] => .ok []
  | d :: rest => do
      let v ← readAny origin d
      return v :: (← readAnyItems origin rest)

def readAnyFields (origin : Origin) :
    List (Except Fault String × Doc) → Except DecodeError (List (String × Value))
  | [] => .ok []
  | (key, d) :: rest => do
      let key ← liftFault key
      let v ← readAny origin d
      return (key, v) :: (← readAnyFields origin rest)

end

namespace Value

mutual

def toDoc : Value → Doc
  | .null => .null
  | .bool b => .bool b
  | .num n => .num (.ok n)
  | .str s => .str (.ok s)
  | .arr items => .arr (itemDocs items) none
  | .obj fields => .obj (fieldDocs fields) none

def itemDocs : List Value → List Doc
  | [] => []
  | v :: rest => v.toDoc :: itemDocs rest

def fieldDocs : List (String × Value) → List (Except Fault String × Doc)
  | [] => []
  | (k, v) :: rest => (.ok k, v.toDoc) :: fieldDocs rest

end

end Value

/-! ## Readers -/

def readText : Reader String := fun _ d =>
  match d with
  | .str value => liftFault value
  | d => d.mismatch "a string"

def readInt (low high : Int) (expected : String) : Reader Int := fun _ d =>
  match d with
  | .num (.ok (.int n)) =>
      if low ≤ n ∧ n ≤ high then .ok n else .error (.data (.wrongValue (.int n) expected))
  | d => d.mismatch expected

def readUnsigned (bits : Nat) : Reader Nat := fun origin d =>
  (readInt 0 (Int.pow 2 bits - 1) s!"u{bits}" origin d).map Int.toNat

def readSigned : Reader Int := readInt (-Int.pow 2 63) (Int.pow 2 63 - 1) "i64"

def Number.toFloat : Number → Float
  | .float x => x
  | .int (.ofNat n) => Decimal.floatOfNat n
  | .int (.negSucc n) => -(Decimal.floatOfNat (n + 1))

def readFloat : Reader Float := fun _ d =>
  match d with
  | .num (.ok n) => .ok n.toFloat
  | d => d.mismatch "f64"

def readBool : Reader Bool := fun _ d =>
  match d with
  | .bool b => .ok b
  | d => d.mismatch "a boolean"

def readNull : Reader Unit := fun _ d =>
  match d with
  | .null => .ok ()
  | d => d.mismatch "unit"

def readOption {α : Type} (read : Reader α) : Reader (Option α) := fun origin d =>
  match d with
  | .null => .ok none
  | d => (read origin d).map some

def readItems? {α : Type} (read : Reader α) (origin : Origin) :
    List Doc → Except DecodeError (List α)
  | [] => .ok []
  | d :: rest => do
      let a ← read origin d
      return a :: (← readItems? read origin rest)

def readList {α : Type} (read : Reader α) : Reader (List α) := fun origin d =>
  match d with
  | .arr items close => do
      let items ← readItems? read (← origin.enter) items
      liftClose close
      return items
  | d => d.mismatch "a sequence"

def readPair {α : Type} (read : Reader α) : Reader (α × α) := fun origin d =>
  match d with
  | .arr items close => do
      let inner ← origin.enter
      let short (n : Nat) : Except DecodeError (α × α) := do
        liftClose close
        .error (.data (.wrongLength n "an array of length 2"))
      match items with
      | [] => short 0
      | [a] => do
          let _ ← read inner a
          short 1
      | a :: b :: rest => do
          let a ← read inner a
          let b ← read inner b
          unless rest.isEmpty do throw (origin.overlong items.length)
          liftClose close
          return (a, b)
  | d => d.mismatch "an array of length 2"

def readEntries {α : Type} (read : Reader α) (origin : Origin) :
    List (Except Fault String × Doc) → Except DecodeError (List (String × α))
  | [] => .ok []
  | (key, d) :: rest => do
      let key ← liftFault key
      let a ← read origin d
      return (key, a) :: (← readEntries read origin rest)

def readMap {α : Type} (read : Reader α) : Reader (List (String × α)) := fun origin d =>
  match d with
  | .obj fields close => do
      let fields ← readEntries read (← origin.enter) fields
      liftClose close
      return fields
  | d => d.mismatch "a map"

def readName {α : Type} (names : List (String × α)) : Reader α := fun origin d =>
  let resolve (name : String) : Except DecodeError α :=
    match names.lookup name with
    | some a => .ok a
    | none => .error (.data (.unknownVariant name (names.map (·.1))))
  match d with
  | .str value => do resolve (← liftFault value)
  | .obj [] close => do
      let _ ← origin.enter
      liftClose close
      throw (.text .malformed)
  | .obj ((key, unit) :: rest) close => do
      let inner ← origin.enter
      let a ← resolve (← liftFault key)
      readNull inner unit
      unless rest.isEmpty do throw (.text .malformed)
      liftClose close
      return a
  | .broken _ _ name => .error (.text name)
  | _ => .error (.text .malformed)

/-! ## Records -/

/-- A field of a record that is filled in step by step. An optional field keeps the value of the
initial record where it is absent. -/
structure Field (σ : Type) where
  name : String
  required : Bool
  read : Origin → Doc → σ → Except DecodeError σ

def Field.of {σ α : Type} (name : String) (read : Reader α) (store : σ → α → σ) : Field σ :=
  ⟨name, false, fun origin d s => (read origin d).map (store s)⟩

def Field.needed {σ : Type} (f : Field σ) : Field σ := { f with required := true }

structure RecordForm (σ : Type) where
  name : String
  fields : List (Field σ)
  initial : σ

namespace RecordForm

variable {σ : Type} (form : RecordForm σ)

def lengthPhrase : String :=
  let n := form.fields.length
  s!"struct {form.name} with {n} element" ++ (if n = 1 then "" else "s")

def readObject (origin : Origin) :
    List (Except Fault String × Doc) → List String → σ → Except DecodeError (List String × σ)
  | [], seen, s => .ok (seen, s)
  | (key, d) :: rest, seen, s => do
      let key ← liftFault key
      match form.fields.find? (·.name == key) with
      | none => do
          match origin with
          | .text _ => d.skip
          | .value => pure ()
          readObject origin rest seen s
      | some f =>
          if seen.contains key then throw (.data (.duplicateField key))
          else readObject origin rest (key :: seen) (← f.read origin d s)

def readArray (origin : Origin) (close : Option Fault) (phrase : String) :
    Nat → List (Field σ) → List Doc → σ → Except DecodeError (List Doc × σ)
  | _, [], items, s => .ok (items, s)
  | i, f :: fields, d :: items, s => do
      readArray origin close phrase (i + 1) fields items (← f.read origin d s)
  | i, f :: fields, [], s => do
      liftClose close
      if f.required then throw (.data (.wrongLength i phrase))
      readArray origin close phrase (i + 1) fields [] s

def read : Reader σ := fun origin d =>
  match d with
  | .obj fields close => do
      let (seen, s) ← form.readObject (← origin.enter) fields [] form.initial
      liftClose close
      match form.fields.find? fun f => f.required && !seen.contains f.name with
      | some f => throw (.data (.missingField f.name))
      | none => return s
  | .arr items close => do
      let (rest, s) ←
        readArray (← origin.enter) close form.lengthPhrase 0 form.fields items form.initial
      unless rest.isEmpty do throw (origin.overlong items.length)
      liftClose close
      return s
  | d => d.mismatch s!"struct {form.name}"

end RecordForm

/-! ## Whole texts -/

def decode {α : Type} (read : Reader α) (source : Source) : Except DecodeError α := do
  let document := Document.ofSource source
  let a ← read (.text depthLimit) document.root
  liftClose document.trailing
  return a

def decodeString {α : Type} (read : Reader α) (text : String) : Except DecodeError α :=
  decode read (.ofString text)

def decodeValue {α : Type} (read : Reader α) (v : Value) : Except DecodeError α :=
  read .value v.toDoc

end Overseer.Json
