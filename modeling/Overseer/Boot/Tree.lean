import Overseer.Boot.Entry

/-!
The startup tree: the entries of a batch in the order in which they are to be started. The weight of
an entry is that of the phases and entries that it comes after; an entry whose weight cannot be
determined is left out and reported. Weights are integers of any size here; `Tree.inWords` has those
of a machine, and `Tree.BuiltFrom` says that they are the same.
-/

namespace Overseer.Boot

inductive BootError where
  | missingKey (name : String)
  | duplicateKey (key : String)
  | cyclic (key : String) (chain : List String)
  | unknownDependency (key dependency : String)
  | brokenDependency (key dependency : String)
  deriving DecidableEq, Repr

def BootError.message : BootError → String
  | .missingKey name => s!"entry for '{name}' has no key"
  | .duplicateKey key => s!"duplicate entry key '{key}'"
  | .cyclic key chain =>
      let path := " -> ".intercalate chain
      s!"entry '{key}': cyclic dependency ({path})"
  | .unknownDependency key dependency => s!"entry '{key}': unknown dependency '{dependency}'"
  | .brokenDependency key dependency => s!"entry '{key}': dependency '{dependency}' is broken"

inductive Mark where
  | resolved (weight : Int)
  | broken
  deriving DecidableEq, Repr

def Mark.weight? : Mark → Option Int
  | .resolved weight => some weight
  | .broken => none

structure Resolution where
  marks : List (String × Mark)
  errors : List BootError
  deriving DecidableEq, Repr

namespace Resolution

def mark? (s : Resolution) (key : String) : Option Mark := s.marks.lookup key

def setMark (s : Resolution) (key : String) (m : Mark) : Resolution :=
  { s with marks := (key, m) :: s.marks }

def markOnce (s : Resolution) (key : String) (m : Mark) : Resolution :=
  if (s.mark? key).isSome then s else s.setMark key m

def report (s : Resolution) (e : BootError) : Resolution := { s with errors := s.errors ++ [e] }

/-- Marks every member of a cycle as broken. The cycle is the part of the chain from `key` on, and
`key` again. -/
def breakCycle (s : Resolution) (chain : List String) (key : String) : Resolution :=
  let members := chain.dropWhile (· != key)
  members.foldl
    (fun s member => (s.setMark member .broken).report (.cyclic member (members ++ [key]))) s

end Resolution

def findEntry (index : List Entry) (key : String) : Option Entry := index.find? (·.key == key)

def offChain (index : List Entry) (chain : List String) : Nat :=
  (index.filter fun e => !chain.contains e.key).length

theorem offChain_lt {index : List Entry} {chain : List String} {key : String} {entry : Entry}
    (hfind : findEntry index key = some entry) (hchain : chain.contains key = false) :
    offChain index (chain ++ [key]) < offChain index chain := by
  have hkey : entry.key = key := by
    have := List.find?_some hfind
    simpa using this
  have hmem : entry ∈ index := List.mem_of_find?_eq_some hfind
  unfold offChain
  clear hfind
  induction index with
  | nil => simp at hmem
  | cons e rest ih =>
      have mono : ∀ l : List Entry,
          (l.filter fun e => !(chain ++ [key]).contains e.key).length ≤
            (l.filter fun e => !chain.contains e.key).length := by
        intro l
        rw [← List.countP_eq_length_filter, ← List.countP_eq_length_filter]
        exact List.countP_mono_left fun x _ h => by simp_all
      rcases List.mem_cons.1 hmem with rfl | hmem
      · have hin : (chain ++ [key]).contains entry.key = true := by simp [hkey]
        have hout : chain.contains entry.key = false := by rw [hkey]; exact hchain
        have := mono rest
        rw [List.filter_cons_of_neg (by simp [hkey]), List.filter_cons_of_pos (by simp_all)]
        simp only [List.length_cons]
        omega
      · have h := ih hmem
        have hm := mono [e]
        have split : ∀ p : Entry → Bool, ((e :: rest).filter p).length =
            ([e].filter p).length + (rest.filter p).length := by
          intro p
          cases hp : p e <;> simp [hp]
          omega
        rw [split, split (fun e => !chain.contains e.key)]
        omega

mutual

/-- The weight of a key. The chain holds the keys that are being resolved, from the root on. -/
def resolve (index : List Entry) (chain : List String) (key : String) (s : Resolution) :
    Option Int × Resolution :=
  match s.mark? key with
  | some mark => (mark.weight?, s)
  | none =>
      if _onChain : chain.contains key then (none, s.breakCycle chain key)
      else
        match _found : findEntry index key with
        | none => (none, s)
        | some entry =>
            if entry.after.isEmpty then
              (some Phase.boot.weight, s.setMark key (.resolved Phase.boot.weight))
            else
              let (weight, broken, s) :=
                resolveAll index (chain ++ [key]) key entry.after 0 false s
              -- A cycle found further down may have broken the key already.
              let s := s.markOnce key (if broken then .broken else .resolved weight)
              ((s.mark? key).bind Mark.weight?, s)
termination_by (offChain index chain, 0)
decreasing_by
  exact Prod.Lex.left _ _ (offChain_lt _found (by simpa using _onChain))

def resolveAll (index : List Entry) (chain : List String) (key : String) :
    List String → Int → Bool → Resolution → Int × Bool × Resolution
  | [], weight, broken, s => (weight, broken, s)
  | dep :: rest, weight, broken, s =>
      match Phase.ofTag? dep with
      | some phase => resolveAll index chain key rest (weight + phase.weight) broken s
      | none =>
          if (findEntry index dep).isNone then
            resolveAll index chain key rest weight true (s.report (.unknownDependency key dep))
          else
            match resolve index chain dep s with
            | (some w, s) => resolveAll index chain key rest (weight + (w + 1)) broken s
            | (none, s) =>
                -- The members of a cycle have been reported as such.
                let s := if s.mark? key = some .broken then s
                  else s.report (.brokenDependency key dep)
                resolveAll index chain key rest weight true s
termination_by deps => (offChain index chain, deps.length + 1)

end

def indexEntries : List Entry → List Entry × List BootError
  | entries => entries.foldl add ([], [])
where
  add : List Entry × List BootError → Entry → List Entry × List BootError
  | (index, errors), e =>
      if e.key.isEmpty then (index, errors ++ [.missingKey e.name])
      else if (findEntry index e.key).isSome then (index, errors ++ [.duplicateKey e.key])
      else (index ++ [e], errors)

structure Tree where
  entries : List (Int × Entry)
  deriving BEq, Repr, Inhabited

def resolveEntries (index : List Entry) :
    List Entry → Resolution → List (Int × Entry) × Resolution
  | [], s => ([], s)
  | e :: rest, s =>
      match resolve index [] e.key s with
      | (weight, s) =>
          match resolveEntries index rest s with
          | (found, s) =>
              ((match weight with | some w => (w, e) :: found | none => found), s)

namespace Tree

/-- The tree of a batch and the errors in the order found. Entries of one weight keep their
order. -/
def ofEntries (entries : List Entry) : Tree × List BootError :=
  let (index, errors) := indexEntries entries
  let (found, s) := resolveEntries index index ⟨[], errors⟩
  (⟨found.mergeSort fun a b => a.1 ≤ b.1⟩, s.errors)

def word (n : Int) : Int := (Int64.ofInt n).toInt

/-- The tree with its weights in words of 64 bits. The words of two numbers add up to the word of
their sum, so it is enough to cut down the weights in the end. -/
def inWords (entries : List Entry) : Tree :=
  let (index, errors) := indexEntries entries
  let (found, _) := resolveEntries index index ⟨[], errors⟩
  ⟨(found.map fun (w, e) => (word w, e)).mergeSort fun a b => a.1 ≤ b.1⟩

/-- A tree that has come of a batch, and no weight of it has overflown. -/
structure BuiltFrom (t : Tree) (batch : List Entry) : Prop where
  eq_inWords : t = inWords batch
  fits : ∀ w e, (w, e) ∈ (ofEntries batch).1.entries → w ≤ Int64.maxValue.toInt

def services (t : Tree) : List Entry := t.entries.map (·.2)

/-- The entries with a weight from `low` to below `high`; none for `high` is no bound. -/
def slice (t : Tree) (low : Int) (high : Option Int) : List Entry :=
  (t.entries.filter fun (w, _) => low ≤ w && high.all (w < ·)).map (·.2)

def weight? (t : Tree) (key : String) : Option Int :=
  (t.entries.find? (·.2.key == key)).map (·.1)

def size (t : Tree) : Nat := t.entries.length

def isEmpty (t : Tree) : Bool := t.entries.isEmpty

def cohorts (t : Tree) : List (List Entry) :=
  [t.slice Phase.init.weight (some Phase.net.weight),
    t.slice Phase.net.weight (some Phase.boot.weight),
    t.slice Phase.boot.weight none]

end Tree

end Overseer.Boot
