/-!
The level of a message: a 16-bit code saying what the message is for.
-/

namespace Overseer

structure Level where
  code : UInt16
  deriving DecidableEq, Repr, Inhabited, Hashable

namespace Level

def ofNat (n : Nat) : Level := ⟨n.toUInt16⟩

def toNat (l : Level) : Nat := l.code.toNat

def stdout : Level := ⟨1⟩
def stderr : Level := ⟨2⟩
def announce : Level := ⟨3⟩
def operator : Level := ⟨4⟩
def unknown : Level := ⟨5⟩
def structured : Level := ⟨6⟩
def warning : Level := ⟨7⟩
def operatorError : Level := ⟨8⟩
def critical : Level := ⟨9⟩
def statistics : Level := ⟨10⟩
def debug : Level := ⟨11⟩

def resultJson : Level := ⟨20⟩
def resultYaml : Level := ⟨21⟩
def resultToml : Level := ⟨22⟩
def resultHrd : Level := ⟨23⟩
def resultJob : Level := ⟨30⟩

def exitState : Level := ⟨50⟩

def internal : Level := ⟨100⟩
def monitorPid : Level := ⟨101⟩

def isResult (l : Level) : Bool :=
  l == resultJson || l == resultYaml || l == resultToml || l == resultHrd || l == resultJob

def isInternal (l : Level) : Bool := internal.toNat ≤ l.toNat

def text (l : Level) : String := toString l.toNat

end Level

end Overseer
