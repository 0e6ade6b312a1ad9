import Overseer.Host.FileError
import Overseer.Text.Blank

/-!
A tree of files, and the walk along a path through it. A walk starts at the root or at the current
directory and takes one name after the other; every name but the last has to lead into a directory.
-/

namespace Overseer.Host

abbrev Place := List String

inductive Node where
  | directory
  | file (contents : List UInt8) (executable : Bool)
  | device (contents : List UInt8)
  deriving DecidableEq, Repr, Inhabited

structure FileTree where
  nodes : List (Place × Node)
  deriving DecidableEq, Repr, Inhabited

structure Visit where
  place : Place
  node : Option Node
  deriving DecidableEq, Repr, Inhabited

namespace FileTree

def maxName : Nat := 255

def maxPath : Nat := 4096

def names (path : String) : List String :=
  ((Text.pieces '/' path.toList).filter fun p => !p.isEmpty).map String.ofList

def placeOf (path : String) : Place := (names path).reverse

def pathOf (place : Place) : String :=
  if place.isEmpty then "/" else String.join (place.reverse.map fun n => "/" ++ n)

def node? (t : FileTree) (place : Place) : Option Node :=
  if place.isEmpty then some .directory else t.nodes.lookup place

def enter (t : FileTree) (v : Visit) (name : String) : Except FileError Visit :=
  match v.node with
  | none => .error .notFound
  | some .directory =>
      if name = "." then .ok v
      else if name = ".." then .ok ⟨v.place.drop 1, some .directory⟩
      else if maxName < name.utf8ByteSize then .error .nameTooLong
      else .ok ⟨name :: v.place, t.node? (name :: v.place)⟩
  | some _ => .error .notDirectory

def walk (t : FileTree) (current : Place) (path : String) : Except FileError Visit := do
  if path.isEmpty then throw .notFound
  if maxPath ≤ path.utf8ByteSize then throw .nameTooLong
  let start := if path.startsWith "/" then [] else current
  let v ← (names path).foldlM t.enter ⟨start, t.node? start⟩
  if path.endsWith "/" then
    match v.node with
    | some .directory => return v
    | some _ => throw .notDirectory
    | none => return v
  return v

def find (t : FileTree) (current : Place) (path : String) : Except FileError (Place × Node) := do
  let v ← t.walk current path
  match v.node with
  | some n => return (v.place, n)
  | none => throw .notFound

def read (t : FileTree) (current : Place) (path : String) : Except FileError (List UInt8) := do
  match (← t.find current path).2 with
  | .directory => throw .isDirectory
  | .file contents _ | .device contents => return contents

def insert (t : FileTree) (place : Place) (n : Node) : FileTree :=
  ⟨(place, n) :: t.nodes.filter fun e => e.1 != place⟩

def children (t : FileTree) (place : Place) : List String :=
  t.nodes.filterMap fun e =>
    match e.1 with
    | name :: parent => if parent = place then some name else none
    | [] => none

def startable (t : FileTree) (current : Place) (path : String) : Except FileError Unit := do
  match (← t.find current path).2 with
  | .file _ true => return ()
  | _ => throw .denied

/-- Where a program without a path of its own is searched for, and why it is not found: a place that
denies it is remembered, but does not end the search. -/
def search (t : FileTree) (current : Place) (directories : List String) (name : String) :
    Except FileError String :=
  go false directories
where
  go (denied : Bool) : List String → Except FileError String
    | [] => .error (if denied then .denied else .notFound)
    | d :: rest =>
        let path := (if d.isEmpty then "." else d) ++ "/" ++ name
        match t.startable current path with
        | .ok _ => .ok path
        | .error .denied => go true rest
        | .error .nameTooLong => .error .nameTooLong
        | .error _ => go denied rest

def textFile (text : String) : Node := .file text.toUTF8.toList false

end FileTree

end Overseer.Host
