import Overseer.Proofs.Boot.Acceptance
import Overseer.Proofs.Boot.Return

/-!
# The chain of the resolver

At every moment of a run the chain holds the keys of the frames, each once, and is a path of needs
from the root to the key that is looked at. None of these keys has a weight, so a cycle is broken
without a mark being taken back.
-/

namespace Overseer.Boot

namespace Resolution

variable {chain : List String} {s : Resolution} {key : String}

theorem Clear.markOnce (clear : s.Clear chain) (off : key ∉ chain) (m : Mark) :
    (s.markOnce key m).Clear chain := by
  unfold Resolution.markOnce
  split
  · exact clear
  · exact clear.setMark off m

theorem Grows.markOnce (s : Resolution) (key : String) (m : Mark) :
    s.Grows (s.markOnce key m) := by
  unfold Resolution.markOnce
  split
  · exact fun _ _ mark => mark
  · rename_i unmarked
    exact .setMark_new m (Option.not_isSome_iff_eq_none.1 unmarked)

theorem mark?_of_marks {s' : Resolution} (same : s'.marks = s.marks) (key : String) :
    s'.mark? key = s.mark? key := by
  rw [mark?, same, mark?]

end Resolution

namespace Moment

open Relation Resolution

variable {index : List Entry} {m m' : Moment} {key : String}

theorem way_of_next (next : m.focus = .next) : m.way = m.chain := by
  rw [way, next]

theorem chain_prefix_way (m : Moment) : m.chain <+: m.way := by
  unfold way
  split
  · exact List.prefix_rfl
  · exact List.prefix_append _ _
  · exact List.prefix_append _ _
  · exact List.prefix_append _ _

def toBreak (m : Moment) : List String :=
  match m.focus with
  | .breaking _ members => members
  | _ => []

/-! ## What a step does -/

inductive Turn (index : List Entry) (m : Moment) : Moment → Prop
  | told {key : String} (weight : Option Int) (way : m.way = m.chain ++ [key]) :
      Turn index m { m with focus := .leave key weight }
  | cyclic {key : String} (entered : m.focus = .enter key) :
      Turn index m { m with focus := .breaking key (m.chain.dropWhile (· != key)) }
  | broken {key member : String} {rest : List String} (e : BootError)
      (breaking : m.focus = .breaking key (member :: rest)) :
      Turn index m { m with
        focus := .breaking key rest
        resolution := (m.resolution.setMark member .broken).report e }
  | free {key : String} (weight : Option Int) (mark : Mark) (entered : m.focus = .enter key)
      (fresh : m.resolution.mark? key = none) (off : key ∉ m.chain) :
      Turn index m { m with
        focus := .leave key weight
        resolution := m.resolution.setMark key mark }
  | pushed {key : String} {e : Entry} (entered : m.focus = .enter key)
      (fresh : m.resolution.mark? key = none) (off : key ∉ m.chain)
      (found : findEntry index key = some e) :
      Turn index m { m with
        frames := ⟨key, e.after, 0, false⟩ :: m.frames
        chain := m.chain ++ [key]
        focus := .next }
  | advanced {f g : Frame} {outer : List Frame} {s : Resolution} (opened : m.frames = f :: outer)
      (same : g.key = f.key) (fewer : g.rest ⊆ f.rest) (marks : s.marks = m.resolution.marks) :
      Turn index m { m with frames := g :: outer, focus := .next, resolution := s }
  | asked {f : Frame} {outer : List Frame} {dep : String} {rest : List String}
      (next : m.focus = .next) (opened : m.frames = f :: outer) (after : f.rest = dep :: rest)
      (untagged : Phase.ofTag? dep = none) :
      Turn index m { m with frames := { f with rest := rest } :: outer, focus := .enter dep }
  | popped {f : Frame} {outer : List Frame} (weight : Option Int) (mark : Mark)
      (next : m.focus = .next) (opened : m.frames = f :: outer) :
      Turn index m { m with
        frames := outer
        chain := m.chain.dropLast
        focus := .leave f.key weight
        resolution := m.resolution.markOnce f.key mark }
  | started {e : Entry} {rest : List Entry} (shut : m.frames = []) (root : m.roots = e :: rest) :
      Turn index m { m with focus := .enter e.key }
  | finished {e : Entry} {rest : List Entry} (found : List (Int × Entry)) (shut : m.frames = [])
      (root : m.roots = e :: rest) :
      Turn index m { m with roots := rest, found := found, focus := .next }

theorem turn_of_enter (entered : m.focus = .enter key) : Turn index m (m.enter index key) := by
  have way : m.way = m.chain ++ [key] := by rw [way, entered]
  unfold enter
  split
  · exact .told _ way
  · rename_i fresh
    split
    · exact .cyclic entered
    · rename_i apart
      have off : key ∉ m.chain := fun member => apart (List.contains_iff_mem.2 member)
      split
      · exact .told _ way
      · rename_i e found
        split
        · exact .free _ _ entered fresh off
        · exact .pushed entered fresh off found

theorem turn_of_breakOn {members : List String} (breaking : m.focus = .breaking key members) :
    Turn index m (m.breakOn key members) := by
  cases members with
  | nil => exact .told none (by rw [way, breaking])
  | cons member rest => exact .broken _ breaking

theorem turn_of_look {f : Frame} {outer : List Frame} (next : m.focus = .next)
    (opened : m.frames = f :: outer) : Turn index m (m.look index f outer) := by
  obtain ⟨roots, found, frames, chain, focus, s⟩ := m
  cases next
  unfold look
  split
  · exact .popped _ _ rfl opened
  · rename_i dep rest after
    have fewer : rest ⊆ f.rest := by
      rw [after]
      exact List.subset_cons_self _ _
    split
    · exact .advanced opened rfl fewer rfl
    · rename_i untagged
      split
      · exact .advanced opened rfl fewer rfl
      · exact .asked rfl opened after untagged

theorem turn_of_take {f : Frame} {outer : List Frame} (opened : m.frames = f :: outer)
    (weight : Option Int) : Turn index m (m.take key f outer weight) := by
  cases weight with
  | some w => exact .advanced opened rfl (List.Subset.refl _) rfl
  | none =>
      refine Turn.advanced (g := { f with broken := true }) opened rfl (List.Subset.refl _) ?_
      split
      · rfl
      · rfl

theorem turn_of_step (step : Step index m m') : Turn index m m' := by
  unfold Step step? at step
  split at step
  · rename_i entered
    cases step
    exact turn_of_enter entered
  · rename_i breaking
    cases step
    exact turn_of_breakOn breaking
  · rename_i next opened
    cases step
    exact turn_of_look next opened
  · rename_i opened
    cases step
    exact turn_of_take opened _
  · rename_i shut root
    cases step
    exact .started shut root
  · rename_i shut root
    cases step
    exact .finished _ shut root
  · cases step

/-! ## The invariant -/

structure Orderly (index : List Entry) (m : Moment) : Prop where
  remaining : m.roots <:+ index
  keys : m.chain = (m.frames.map (·.key)).reverse
  nodup : m.chain.Nodup
  path : m.way.IsChain (Needs (findEntry index))
  root : m.way ≠ [] → m.way.head? = m.roots.head?.map (·.key)
  clear : m.resolution.Clear m.chain
  opened : ∀ f ∈ m.frames, ∃ e, findEntry index f.key = some e ∧ f.rest ⊆ e.after
  breaks : m.toBreak ⊆ m.chain

namespace Orderly

theorem start (batch : List Entry) : Orderly (indexEntries batch).1 (start batch) where
  remaining := List.suffix_rfl
  keys := rfl
  nodup := List.nodup_nil
  path := .nil
  root nonempty := absurd rfl nonempty
  clear := nofun
  opened := nofun
  breaks := List.nil_subset _

theorem stays (orderly : Orderly index m) {focus : Focus} {s : Resolution}
    (same : way { m with focus := focus, resolution := s } = m.way) (clear : s.Clear m.chain)
    (breaks : toBreak { m with focus := focus, resolution := s } ⊆ m.chain) :
    Orderly index { m with focus := focus, resolution := s } where
  remaining := orderly.remaining
  keys := orderly.keys
  nodup := orderly.nodup
  path := by
    rw [same]
    exact orderly.path
  root := by
    rw [same]
    exact orderly.root
  clear := clear
  opened := orderly.opened
  breaks := breaks

theorem pushed (orderly : Orderly index m) {e : Entry} (entered : m.focus = .enter key)
    (fresh : m.resolution.mark? key = none) (off : key ∉ m.chain)
    (found : findEntry index key = some e) :
    Orderly index { m with
      frames := ⟨key, e.after, 0, false⟩ :: m.frames
      chain := m.chain ++ [key]
      focus := .next } := by
  have same : m.way = m.chain ++ [key] := by rw [way, entered]
  have path := orderly.path
  have root := orderly.root
  rw [same] at path root
  exact {
    remaining := orderly.remaining
    keys := by simp [orderly.keys]
    nodup := orderly.nodup.append (List.nodup_singleton _) (List.disjoint_singleton.2 off)
    path := path
    root := root
    clear := orderly.clear.append fresh
    opened := by
      intro f member
      rcases List.mem_cons.1 member with rfl | member
      · exact ⟨e, found, List.Subset.refl _⟩
      · exact orderly.opened f member
    breaks := List.nil_subset _ }

theorem path_chain (orderly : Orderly index m) : m.chain.IsChain (Needs (findEntry index)) :=
  orderly.path.prefix (chain_prefix_way m)

theorem root_chain (orderly : Orderly index m) (nonempty : m.chain ≠ []) :
    m.chain.head? = m.roots.head?.map (·.key) := by
  obtain ⟨further, way⟩ := chain_prefix_way m
  have root := orderly.root
  rw [← way, List.head?_append_of_ne_nil _ nonempty] at root
  exact root (List.append_ne_nil_of_left_ne_nil nonempty _)

theorem advanced (orderly : Orderly index m) {f g : Frame} {outer : List Frame} {s : Resolution}
    (opened : m.frames = f :: outer) (same : g.key = f.key) (fewer : g.rest ⊆ f.rest)
    (marks : s.marks = m.resolution.marks) :
    Orderly index { m with frames := g :: outer, focus := .next, resolution := s } where
  remaining := orderly.remaining
  keys := by simp [orderly.keys, opened, same]
  nodup := orderly.nodup
  path := orderly.path_chain
  root := orderly.root_chain
  clear := by
    intro key member
    rw [weightOf, mark?_of_marks marks]
    exact orderly.clear key member
  opened h member := by
    rcases List.mem_cons.1 member with rfl | member
    · obtain ⟨e, found, within⟩ := orderly.opened f (opened ▸ List.mem_cons_self)
      exact ⟨e, same ▸ found, List.Subset.trans fewer within⟩
    · exact orderly.opened h (opened ▸ List.mem_cons_of_mem _ member)
  breaks := List.nil_subset _

theorem entered (orderly : Orderly index m)
    (path : (m.chain ++ [key]).IsChain (Needs (findEntry index)))
    (root : (m.chain ++ [key]).head? = m.roots.head?.map (·.key)) :
    Orderly index { m with focus := .enter key } where
  remaining := orderly.remaining
  keys := orderly.keys
  nodup := orderly.nodup
  path := path
  root _ := root
  clear := orderly.clear
  opened := orderly.opened
  breaks := List.nil_subset _

theorem chain_concat (orderly : Orderly index m) {f : Frame} {outer : List Frame}
    (opened : m.frames = f :: outer) :
    m.chain = (outer.map (·.key)).reverse ++ [f.key] := by
  simp [orderly.keys, opened]

theorem asked (orderly : Orderly index m) {f : Frame} {outer : List Frame} {dep : String}
    {rest : List String} (opened : m.frames = f :: outer) (after : f.rest = dep :: rest)
    (untagged : Phase.ofTag? dep = none) :
    Orderly index { m with frames := { f with rest := rest } :: outer, focus := .enter dep } := by
  have chain := orderly.chain_concat opened
  obtain ⟨e, found, within⟩ := orderly.opened f (opened ▸ List.mem_cons_self)
  have needs : Needs (findEntry index) f.key dep := by
    refine ⟨e, found, List.mem_filter.2 ⟨within (after ▸ List.mem_cons_self), ?_⟩⟩
    rw [untagged]
    rfl
  have nonempty : m.chain ≠ [] := by simp [chain]
  have fewer : rest ⊆ f.rest := after ▸ List.subset_cons_self _ _
  apply (orderly.advanced (g := { f with rest := rest }) opened rfl fewer rfl).entered
  · apply List.isChain_append.2 ⟨orderly.path_chain, .singleton _, _⟩
    simpa [chain] using needs
  · rw [List.head?_append_of_ne_nil _ nonempty]
    exact orderly.root_chain nonempty

theorem popped (orderly : Orderly index m) {f : Frame} {outer : List Frame} (weight : Option Int)
    (mark : Mark) (next : m.focus = .next) (opened : m.frames = f :: outer) :
    Orderly index { m with
      frames := outer
      chain := m.chain.dropLast
      focus := .leave f.key weight
      resolution := m.resolution.markOnce f.key mark } := by
  have chain := orderly.chain_concat opened
  have shorter : m.chain.dropLast = (outer.map (·.key)).reverse := by
    rw [chain, List.dropLast_concat]
  -- The key is taken from the chain but still looked at, so the way stays as it is.
  have way : m.chain.dropLast ++ [f.key] = m.way := by
    rw [shorter, way_of_next next, chain]
  have off : f.key ∉ m.chain.dropLast := by
    have nodup := orderly.nodup
    rw [chain, List.nodup_append_comm] at nodup
    rw [shorter]
    exact (List.nodup_cons.1 nodup).1
  have clear : m.resolution.Clear m.chain.dropLast := fun key member =>
    orderly.clear key (List.mem_of_mem_dropLast member)
  exact {
    remaining := orderly.remaining
    keys := shorter
    nodup := orderly.nodup.sublist (List.dropLast_sublist _)
    path := (way ▸ orderly.path : (m.chain.dropLast ++ [f.key]).IsChain _)
    root := by
      have root := orderly.root
      rw [← way] at root
      exact root
    clear := clear.markOnce off mark
    opened := fun g member => orderly.opened g (opened ▸ List.mem_cons_of_mem _ member)
    breaks := List.nil_subset _ }

theorem chain_nil (orderly : Orderly index m) (shut : m.frames = []) : m.chain = [] := by
  rw [orderly.keys, shut]
  rfl

theorem started (orderly : Orderly index m) {e : Entry} {rest : List Entry}
    (shut : m.frames = []) (root : m.roots = e :: rest) :
    Orderly index { m with focus := .enter e.key } := by
  have empty := orderly.chain_nil shut
  apply orderly.entered
  · rw [empty]
    exact .singleton _
  · rw [empty, root]
    rfl

theorem finished (orderly : Orderly index m) {e : Entry} {rest : List Entry}
    (found : List (Int × Entry)) (shut : m.frames = []) (root : m.roots = e :: rest) :
    Orderly index { m with roots := rest, found := found, focus := .next } where
  remaining := (List.suffix_cons e rest).trans (root ▸ orderly.remaining)
  keys := orderly.keys
  nodup := orderly.nodup
  path := orderly.path_chain
  root nonempty := absurd (orderly.chain_nil shut) nonempty
  clear := orderly.clear
  opened := orderly.opened
  breaks := List.nil_subset _

theorem subset_of_breaking (orderly : Orderly index m) {members : List String}
    (breaking : m.focus = .breaking key members) : members ⊆ m.chain := by
  have breaks := orderly.breaks
  rw [toBreak, breaking] at breaks
  exact breaks

theorem turn (orderly : Orderly index m) (turn : Turn index m m') : Orderly index m' := by
  cases turn with
  | told weight same => exact orderly.stays same.symm orderly.clear (List.nil_subset _)
  | cyclic entered =>
      apply orderly.stays _ orderly.clear (List.dropWhile_sublist _).subset
      rw [way, way, entered]
  | @broken key member rest e breaking =>
      have members := orderly.subset_of_breaking breaking
      have clear : ((m.resolution.setMark member .broken).report e).Clear m.chain :=
        orderly.clear.setMark_broken member
      apply orderly.stays _ clear
      · intro other inside
        exact members (List.mem_cons_of_mem _ inside)
      · rw [way, way, breaking]
  | free weight mark entered fresh off =>
      apply orderly.stays _ (orderly.clear.setMark off mark) (List.nil_subset _)
      rw [way, way, entered]
  | pushed entered fresh off found => exact orderly.pushed entered fresh off found
  | advanced opened same fewer marks => exact orderly.advanced opened same fewer marks
  | asked next opened after untagged => exact orderly.asked opened after untagged
  | popped weight mark next opened => exact orderly.popped weight mark next opened
  | started shut root => exact orderly.started shut root
  | finished found shut root => exact orderly.finished found shut root

theorem grows (orderly : Orderly index m) (turn : Turn index m m') :
    m.resolution.Grows m'.resolution := by
  cases turn with
  | broken e breaking =>
      -- A member of the cycle is on the chain, so there is no weight to lose.
      have members := orderly.subset_of_breaking breaking
      exact .setMark_broken (orderly.clear _ (members List.mem_cons_self))
  | free weight mark entered fresh off => exact .setMark_new mark fresh
  | advanced opened same fewer marks =>
      intro key mark known
      rwa [mark?_of_marks marks]
  | popped weight mark next opened => exact .markOnce _ _ mark
  | told weight same => exact fun _ _ known => known
  | cyclic entered => exact fun _ _ known => known
  | pushed entered fresh off found => exact fun _ _ known => known
  | asked next opened after untagged => exact fun _ _ known => known
  | started shut root => exact fun _ _ known => known
  | finished found shut root => exact fun _ _ known => known

theorem run (orderly : Orderly index m) (reached : Reaches index m m') :
    Orderly index m' ∧ m.resolution.Grows m'.resolution := by
  induction reached with
  | refl => exact ⟨orderly, fun _ _ known => known⟩
  | tail _ step ih =>
      have turn := turn_of_step step
      exact ⟨ih.1.turn turn, ih.2.trans (ih.1.grows turn)⟩

theorem length_le {batch : List Entry} (orderly : Orderly (indexEntries batch).1 m) :
    m.chain.length ≤ ((batch.map (·.key)).toFinset.erase "").card := by
  rw [← List.toFinset_card_of_nodup orderly.nodup]
  apply Finset.card_le_card
  intro key member
  have framed : key ∈ m.frames.map (·.key) := by
    rw [List.mem_toFinset, orderly.keys, List.mem_reverse] at member
    exact member
  obtain ⟨f, inside, rfl⟩ := List.mem_map.1 framed
  obtain ⟨e, found, -⟩ := orderly.opened f inside
  rw [findEntry_indexEntries] at found
  obtain ⟨named, first⟩ := firstOf_eq_some.1 found
  obtain ⟨listed, same⟩ := findEntry_some first
  apply Finset.mem_erase.2 ⟨named, _⟩
  exact List.mem_toFinset.2 (List.mem_map.2 ⟨e, listed, same⟩)

end Orderly

theorem returns_iff {r : Moment} (entered : m.focus = .enter key) :
    Returns index m r ↔
      r = { m with
        focus := .leave key (resolve index m.chain key m.resolution).1
        resolution := (resolve index m.chain key m.resolution).2 } := by
  obtain ⟨roots, found, frames, chain, focus, s⟩ := m
  cases entered
  have returns := enter_returns index roots found frames chain key s
  constructor
  · intro other
    exact returns.unique other
  · intro same
    exact same ▸ returns

/-- Every run of the resolver ends, that of a batch with its tree. The answer about a key leaves the
chain as it was when the key was entered, and all the way the chain is a path without a key twice,
its keys have no weight, and no mark is taken back. -/
theorem resolver_disciplined (batch : List Entry) :
    let index := (indexEntries batch).1
    (WellFounded fun later earlier => Step index earlier later) ∧
    (∀ m key, m.focus = .enter key → ∀ r, Returns index m r ↔
      r = { m with
        focus := .leave key (resolve index m.chain key m.resolution).1
        resolution := (resolve index m.chain key m.resolution).2 }) ∧
    (∃ last, step? index last = none ∧ last.outcome = Tree.ofEntries batch ∧
      ∀ m, Reaches index (start batch) m → Reaches index m last) ∧
    ∀ m, Reaches index (start batch) m →
      m.chain = (m.frames.map (·.key)).reverse ∧ m.chain.Nodup ∧
      m.way.IsChain (Needs (firstOf batch)) ∧
      (m.way ≠ [] → m.way.head? = m.roots.head?.map (·.key)) ∧ m.roots <:+ index ∧
      m.chain.length ≤ ((batch.map (·.key)).toFinset.erase "").card ∧
      (∀ key ∈ m.chain, ∀ w, m.resolution.mark? key ≠ some (.resolved w)) ∧
      ∀ m', Reaches index m m' → ∀ key mark,
        m.resolution.mark? key = some mark → m'.resolution.mark? key = some mark := by
  intro index
  obtain ⟨last, run, stuck, tree⟩ := start_ends batch
  refine ⟨wellFounded_step index, fun m key entered r => returns_iff entered,
    ⟨last, stuck, tree, fun m => run.last_unique stuck⟩, ?_⟩
  intro m reached
  have orderly := ((Orderly.start batch).run reached).1
  have path := orderly.path
  rw [findEntry_indexEntries] at path
  have unresolved : ∀ key ∈ m.chain, ∀ w, m.resolution.mark? key ≠ some (.resolved w) := by
    intro key member w known
    have unweighed := orderly.clear key member
    rw [weightOf, known] at unweighed
    cases unweighed
  exact ⟨orderly.keys, orderly.nodup, path, orderly.root, orderly.remaining, orderly.length_le,
    unresolved, fun m' later => (orderly.run later).2⟩

def looped : List Entry :=
  [{ Entry.new "a" "test" with after := ["b"] }, { Entry.new "b" "test" with after := ["a"] },
    { Entry.new "c" "test" with after := ["c"] }]

def closing : Moment where
  roots := looped
  found := []
  frames := [⟨"b", [], 0, false⟩, ⟨"a", [], 0, false⟩]
  chain := ["a", "b"]
  focus := .enter "a"
  resolution := ⟨[], []⟩

theorem resolver_disciplined_looped :
    Reaches looped (start looped) closing ∧ closing.way.IsChain (Needs (firstOf looped)) ∧
    (∃ r, Returns looped closing r ∧ r.chain = closing.chain ∧
      r.resolution.mark? "b" = some .broken) ∧
    ∃ last, Reaches looped closing last ∧ last.outcome = Tree.ofEntries looped := by
  have index : (indexEntries looped).1 = looped := by rfl
  have reached : Reaches looped (start looped) closing :=
    .head rfl (.head rfl (.head rfl (.head rfl (.head rfl .refl))))
  obtain ⟨-, returns_iff, ⟨last, -, tree, on⟩, moments⟩ := resolver_disciplined looped
  rw [index] at returns_iff on moments
  have broken : (resolve looped ["a", "b"] "a" ⟨[], []⟩).2.mark? "b" = some .broken := by cbv
  exact ⟨reached, (moments closing reached).2.2.1,
    ⟨_, (returns_iff closing "a" rfl _).2 rfl, rfl, broken⟩, last, on closing reached, tree⟩

end Moment

end Overseer.Boot
