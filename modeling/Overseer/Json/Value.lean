import Overseer.Decimal.Shortest

/-!
JSON values and their compact text. An object is a list of fields: one read from text has its keys
in byte order without repetition, one that describes a record has them in the order of the record.
-/

namespace Overseer.Json

inductive Number where
  | int (n : Int)
  | float (x : Float)
  deriving BEq, Repr, Inhabited

inductive Value where
  | null
  | bool (b : Bool)
  | num (n : Number)
  | str (s : String)
  | arr (items : List Value)
  | obj (fields : List (String × Value))
  deriving Repr, Inhabited

namespace Value

mutual

def beq : Value → Value → Bool
  | .null, .null => true
  | .bool a, .bool b => a == b
  | .num a, .num b => a == b
  | .str a, .str b => a == b
  | .arr a, .arr b => beqItems a b
  | .obj a, .obj b => beqFields a b
  | _, _ => false

def beqItems : List Value → List Value → Bool
  | [], [] => true
  | a :: as, b :: bs => beq a b && beqItems as bs
  | _, _ => false

def beqFields : List (String × Value) → List (String × Value) → Bool
  | [], [] => true
  | (k, a) :: as, (l, b) :: bs => k == l && beq a b && beqFields as bs
  | _, _ => false

end

instance : BEq Value := ⟨beq⟩

def int (n : Int) : Value := .num (.int n)

def nat (n : Nat) : Value := .num (.int n)

def float (x : Float) : Value :=
  if x.isFinite then .num (.float x) else .null

/-- Inserts a field in key order, replacing one of the same key. Keys are compared by code point,
which is their byte order. -/
def insertField (key : String) (value : Value) :
    List (String × Value) → List (String × Value)
  | [] => [(key, value)]
  | (k, v) :: rest =>
      if key = k then (key, value) :: rest
      else if key < k then (key, value) :: (k, v) :: rest
      else (k, v) :: insertField key value rest

def ofFields (fields : List (String × Value)) : Value :=
  .obj (fields.foldl (fun acc (k, v) => insertField k v acc) [])

mutual

def canonical : Value → Value
  | .arr items => .arr (canonicalItems items)
  | .obj fields => ofFields (canonicalFields fields)
  | v => v

def canonicalItems : List Value → List Value
  | [] => []
  | v :: rest => canonical v :: canonicalItems rest

def canonicalFields : List (String × Value) → List (String × Value)
  | [] => []
  | (key, v) :: rest => (key, canonical v) :: canonicalFields rest

end

def field? (key : String) : Value → Option Value
  | .obj fields => fields.lookup key
  | _ => none

end Value

/-! ## Text -/

def hexDigit (n : Nat) : Char :=
  if n < 10 then Char.ofNat ('0'.toNat + n) else Char.ofNat ('a'.toNat + n - 10)

def escapeChar (c : Char) : List Char :=
  if c = '"' then ['\\', '"']
  else if c = '\\' then ['\\', '\\']
  else if c = '\x08' then ['\\', 'b']
  else if c = '\x0c' then ['\\', 'f']
  else if c = '\n' then ['\\', 'n']
  else if c = '\r' then ['\\', 'r']
  else if c = '\t' then ['\\', 't']
  else if c.toNat < 0x20 then
    ['\\', 'u', '0', '0', hexDigit (c.toNat / 16), hexDigit (c.toNat % 16)]
  else [c]

def quoteChars (s : List Char) : List Char := '"' :: s.flatMap escapeChar ++ ['"']

def intChars : Int → List Char
  | .ofNat n => Decimal.natDigits n
  | .negSucc n => '-' :: Decimal.natDigits (n + 1)

def Number.chars : Number → List Char
  | .int n => intChars n
  | .float x => (Decimal.render .json x).toList

namespace Value

mutual

def chars : Value → List Char
  | .null => ['n', 'u', 'l', 'l']
  | .bool true => ['t', 'r', 'u', 'e']
  | .bool false => ['f', 'a', 'l', 's', 'e']
  | .num n => n.chars
  | .str s => quoteChars s.toList
  | .arr [] => ['[', ']']
  | .arr (v :: rest) => '[' :: chars v ++ itemsChars rest
  | .obj [] => ['\x7b', '\x7d']
  | .obj ((k, v) :: rest) => '\x7b' :: quoteChars k.toList ++ ':' :: chars v ++ fieldsChars rest

def itemsChars : List Value → List Char
  | [] => [']']
  | v :: rest => ',' :: chars v ++ itemsChars rest

def fieldsChars : List (String × Value) → List Char
  | [] => ['\x7d']
  | (k, v) :: rest => ',' :: quoteChars k.toList ++ ':' :: chars v ++ fieldsChars rest

end

def text (v : Value) : String := String.ofList v.chars

end Value

end Overseer.Json
