import Overseer.Proofs.Boot.Weight

/-!
# Which entries are accepted

Entries need one another by their keys. An entry is left out of the tree if and only if a key that
is missing from the batch, or a cycle, can be reached from it: an entry with a weight needs only
entries of smaller weights, and a mark as broken is set for a reason only.
-/

namespace Overseer.Boot

/-- The first entry of a batch with a key that is not empty. -/
def firstOf (batch : List Entry) (key : String) : Option Entry :=
  batch.find? fun e => !e.key.isEmpty && e.key == key

/-- The entry of a key comes after another key, which need not have an entry. -/
def Needs (find : String → Option Entry) (key dep : String) : Prop :=
  ∃ e, find key = some e ∧ dep ∈ e.dependencies

/-- A missing key, or a cycle, can be reached from a key. -/
def Faulty (find : String → Option Entry) (key : String) : Prop :=
  ∃ k, Relation.ReflTransGen (Needs find) key k ∧
    (find k = none ∨ Relation.TransGen (Needs find) k k)

section
variable {find : String → Option Entry} {key dep : String}

theorem Faulty.of_needs (needs : Needs find key dep) (faulty : Faulty find dep) :
    Faulty find key := by
  obtain ⟨k, reach, fault⟩ := faulty
  exact ⟨k, .head needs reach, fault⟩

theorem Faulty.of_missing (missing : find key = none) : Faulty find key :=
  ⟨key, .refl, .inl missing⟩

theorem Faulty.of_cycle (cycle : Relation.TransGen (Needs find) key key) : Faulty find key :=
  ⟨key, .refl, .inr cycle⟩

def Leads (find : String → Option Entry) (dep key : {k // ¬Faulty find k}) : Prop :=
  Relation.TransGen (Needs find) key.1 dep.1

instance : IsTrans {k // ¬Faulty find k} (Leads find) :=
  ⟨fun _ _ _ first second => second.trans first⟩

instance : Std.Irrefl (Leads find) := ⟨fun key cycle => key.2 (.of_cycle cycle)⟩

theorem acc_of_not_faulty (finite : {k | (find k).isSome = true}.Finite)
    (sound : ¬Faulty find key) : Acc (fun dep key => Needs find key dep) key := by
  have found : {k | ¬Faulty find k} ⊆ {k | (find k).isSome = true} := by
    intro k sound
    by_contra missing
    exact sound (.of_missing (by simpa using missing))
  have : Finite {k // ¬Faulty find k} := (finite.subset found).to_subtype
  have founded : WellFounded (Leads find) := Finite.wellFounded_of_trans_of_irrefl _
  suffices ∀ k : {k // ¬Faulty find k}, Acc (fun dep key => Needs find key dep) k.1 from
    this ⟨key, sound⟩
  intro k
  induction k using founded.induction with
  | _ k ih =>
      apply Acc.intro
      intro dep needs
      exact ih ⟨dep, fun faulty => k.2 (faulty.of_needs needs)⟩ (.single needs)

theorem not_faulty_of_falling {weightOf : String → Option Int}
    (falling : ∀ key w, weightOf key = some w → (find key).isSome = true ∧
      ∀ dep, Needs find key dep → ∃ w', weightOf dep = some w' ∧ w' < w)
    {w : Int} (weight : weightOf key = some w) : ¬Faulty find key := by
  rintro ⟨k, reach, fault⟩
  have weighed : ∃ v, weightOf k = some v := by
    clear fault
    induction reach with
    | refl => exact ⟨w, weight⟩
    | tail _ needs ih =>
        obtain ⟨v, known⟩ := ih
        obtain ⟨v', known', -⟩ := (falling _ v known).2 _ needs
        exact ⟨v', known'⟩
  obtain ⟨v, known⟩ := weighed
  rcases fault with missing | cycle
  · have found := (falling k v known).1
    rw [missing] at found
    cases found
  · have lighter : ∀ k', Relation.TransGen (Needs find) k k' →
        ∃ v', weightOf k' = some v' ∧ v' < v := by
      intro k' path
      induction path with
      | single needs => exact (falling k v known).2 _ needs
      | tail _ needs ih =>
          obtain ⟨v', known', less⟩ := ih
          obtain ⟨v'', known'', less'⟩ := (falling _ v' known').2 _ needs
          exact ⟨v'', known'', by omega⟩
    obtain ⟨v', known', less⟩ := lighter k cycle
    have same : v' = v := Option.some.inj (known'.symm.trans known)
    omega

end

theorem cycle_of_isChain {α : Type*} [BEq α] [LawfulBEq α] {R : α → α → Prop} {l : List α}
    {b m : α} (chain : (l ++ [b]).IsChain R) (back : b ∈ l)
    (member : m ∈ l.dropWhile (· != b)) : Relation.TransGen R m m := by
  have paths : (l ++ [b]).Pairwise (Relation.TransGen R) :=
    (chain.imp fun _ _ => Relation.TransGen.single).pairwise
  have closed : (l.dropWhile (· != b) ++ [b]).Pairwise (Relation.TransGen R) :=
    paths.sublist ((List.dropWhile_sublist _).append_right [b])
  obtain ⟨rest, split⟩ := Resolution.dropWhile_of_mem back
  rw [split] at closed member
  obtain ⟨inner, -, back⟩ := List.pairwise_append.1 closed
  have onward : Relation.TransGen R m b := back m member b (List.mem_singleton_self _)
  rcases List.mem_cons.1 member with rfl | later
  · exact onward
  · exact onward.trans ((List.pairwise_cons.1 inner).1 m later)

/-! ## The resolver -/

namespace Resolution

def Blames (index : List Entry) (s : Resolution) : Prop :=
  ∀ key, s.mark? key = some .broken → Faulty (findEntry index) key

variable {index : List Entry} {chain : List String} {s : Resolution} {key : String}

theorem Blames.report (blames : s.Blames index) (e : BootError) : (s.report e).Blames index :=
  blames

theorem Blames.reportUnless (blames : s.Blames index) (p : Prop) [Decidable p] (e : BootError) :
    Resolution.Blames index (if p then s else s.report e) := by
  split
  · exact blames
  · exact blames.report e

theorem Blames.setMark (blames : s.Blames index) {m : Mark}
    (faulty : m = .broken → Faulty (findEntry index) key) : (s.setMark key m).Blames index := by
  intro other mark
  rw [mark?_setMark] at mark
  split at mark
  · rename_i same
    rw [same]
    exact faulty (Option.some.inj mark)
  · exact blames other mark

theorem Blames.markOnce (blames : s.Blames index) {m : Mark}
    (faulty : m = .broken → Faulty (findEntry index) key) : (s.markOnce key m).Blames index := by
  unfold Resolution.markOnce
  split
  · exact blames
  · exact blames.setMark faulty

theorem Blames.breakAll (blames : s.Blames index) (cycle : List String) {members : List String}
    (faulty : ∀ m ∈ members, Faulty (findEntry index) m) :
    (members.foldl (fun s member => (s.setMark member .broken).report (.cyclic member cycle))
      s).Blames index := by
  induction members generalizing s with
  | nil => exact blames
  | cons first rest ih =>
      have one := blames.setMark (m := .broken) fun _ => faulty first List.mem_cons_self
      exact ih (one.report (.cyclic first cycle)) fun m member =>
        faulty m (List.mem_cons_of_mem _ member)

theorem Blames.breakCycle (blames : s.Blames index) (member : key ∈ chain)
    (path : (chain ++ [key]).IsChain (Needs (findEntry index))) :
    (s.breakCycle chain key).Blames index :=
  blames.breakAll _ fun _ inside => .of_cycle (cycle_of_isChain path member inside)

theorem mark?_eq_broken (marked : (s.mark? key).isSome = true) (unweighed : s.weightOf key = none) :
    s.mark? key = some .broken := by
  obtain ⟨m, mark⟩ := Option.isSome_iff_exists.1 marked
  rw [weightOf, mark, Option.bind_some] at unweighed
  cases m with
  | resolved w => cases unweighed
  | broken => exact mark

end Resolution

open Resolution

mutual

theorem resolve_blames (index : List Entry) (chain : List String) (key : String) (s : Resolution)
    (path : (chain ++ [key]).IsChain (Needs (findEntry index))) (clear : s.Clear chain)
    (sound : s.Sound index) (blames : s.Blames index) :
    (resolve index chain key s).2.Blames index := by
  rw [resolve]
  split
  · exact blames
  · rename_i fresh
    split
    · rename_i onChain
      exact blames.breakCycle (List.contains_iff_mem.1 onChain) path
    · rename_i apart
      split
      · exact blames
      · rename_i entry found
        split
        · exact blames.setMark nofun
        · have fewer : offChain index (chain ++ [key]) < offChain index chain :=
            offChain_lt found (by simpa using apart)
          have inner := resolveAll_blames index chain key entry found entry.after
            (fun _ member => member) 0 false s path (clear.append fresh) sound blames
          generalize resolveAll index (chain ++ [key]) key entry.after 0 false s = r at inner ⊢
          obtain ⟨weight, broken, s'⟩ := r
          refine inner.1.markOnce fun mark => ?_
          cases broken with
          | true => exact inner.2 rfl (by simp)
          | false => cases mark
termination_by (offChain index chain, 0)

theorem resolveAll_blames (index : List Entry) (chain : List String) (key : String) (entry : Entry)
    (found : findEntry index key = some entry) (deps : List String)
    (within : ∀ dep ∈ deps, dep ∈ entry.after) (weight : Int) (broken : Bool) (s : Resolution)
    (path : (chain ++ [key]).IsChain (Needs (findEntry index))) (clear : s.Clear (chain ++ [key]))
    (sound : s.Sound index) (blames : s.Blames index) :
    (resolveAll index (chain ++ [key]) key deps weight broken s).2.2.Blames index ∧
      ((resolveAll index (chain ++ [key]) key deps weight broken s).2.1 = true → broken ≠ true →
        Faulty (findEntry index) key) := by
  cases deps with
  | nil =>
      rw [resolveAll]
      exact ⟨blames, fun ends starts => absurd ends starts⟩
  | cons dep rest =>
      have inside : ∀ d ∈ rest, d ∈ entry.after := fun d member =>
        within d (List.mem_cons_of_mem _ member)
      rw [resolveAll]
      split
      · exact resolveAll_blames index chain key entry found rest inside _ broken s path clear sound
          blames
      · rename_i tag
        have needs : Needs (findEntry index) key dep := by
          refine ⟨entry, found, List.mem_filter.2 ⟨within dep List.mem_cons_self, ?_⟩⟩
          rw [tag]
          rfl
        split
        · rename_i missing
          have told := (Keeps.refl clear sound).report (.unknownDependency key dep)
          have later := resolveAll_blames index chain key entry found rest inside weight true
            (s.report (.unknownDependency key dep)) path told.clear told.sound (blames.report _)
          refine ⟨later.1, fun _ _ => ?_⟩
          exact .of_needs needs (.of_missing (Option.isNone_iff_eq_none.1 missing))
        · rename_i present
          have further : (chain ++ [key] ++ [dep]).IsChain (Needs (findEntry index)) := by
            refine List.isChain_append.2 ⟨path, .singleton _, ?_⟩
            simpa using needs
          have one := resolve_blames index (chain ++ [key]) dep s further clear sound blames
          have spec := resolve_spec index (chain ++ [key]) dep s clear sound
          split
          · rename_i w s' resolved
            rw [resolved] at one spec
            exact resolveAll_blames index chain key entry found rest inside _ broken s' path
              spec.1.clear spec.1.sound one
          · rename_i s' resolved
            rw [resolved] at one spec
            have unweighed : s'.weightOf dep = none := spec.2.1.symm
            have marked : (s'.mark? dep).isSome = true :=
              spec.2.2 (Option.ne_none_iff_isSome.1 fun none => present (by simp [none]))
            have faulty := one dep (mark?_eq_broken marked unweighed)
            have kept := spec.1.reportUnless (s'.mark? key = some .broken)
              (.brokenDependency key dep)
            have told := one.reportUnless (s'.mark? key = some .broken) (.brokenDependency key dep)
            have later := resolveAll_blames index chain key entry found rest inside weight true _
              path kept.clear kept.sound told
            exact ⟨later.1, fun _ _ => .of_needs needs faulty⟩
termination_by (offChain index (chain ++ [key]), deps.length + 1)

end

theorem resolveEntries_blames {index : List Entry} (distinct : (index.map (·.key)).Nodup)
    {roots : List Entry} (inside : ∀ e ∈ roots, e ∈ index) {s : Resolution} (sound : s.Sound index)
    (blames : s.Blames index) :
    (resolveEntries index roots s).2.Blames index ∧
      ∀ e ∈ roots, ((resolveEntries index roots s).2.mark? e.key).isSome = true := by
  induction roots generalizing s with
  | nil => exact ⟨blames, nofun⟩
  | cons root rest ih =>
      have found : findEntry index root.key = some root :=
        findEntry_of_mem distinct (inside root List.mem_cons_self)
      have one := resolve_spec index [] root.key s nofun sound
      have told := resolve_blames index [] root.key s (.singleton _) nofun sound blames
      have others : ∀ e ∈ rest, e ∈ index := fun e member =>
        inside e (List.mem_cons_of_mem _ member)
      have later := ih others one.1.sound told
      have spec := resolveEntries_spec distinct others one.1.sound
      have marked := one.2.2 (by simp [found])
      rw [resolveEntries]
      generalize resolve index [] root.key s = r at later spec marked ⊢
      obtain ⟨weight, s'⟩ := r
      simp only at later spec marked ⊢
      refine ⟨later.1, fun e member => ?_⟩
      rcases List.mem_cons.1 member with rfl | member
      · obtain ⟨m, mark⟩ := Option.isSome_iff_exists.1 marked
        rw [spec.1.grows _ m mark]
        rfl
      · exact later.2 e member

theorem resolveEntries_sublist (index roots : List Entry) (s : Resolution) :
    ((resolveEntries index roots s).1.map (·.2)).Sublist roots := by
  induction roots generalizing s with
  | nil => exact .slnil
  | cons root rest ih =>
      rw [resolveEntries]
      generalize resolve index [] root.key s = r
      obtain ⟨weight, s'⟩ := r
      cases weight with
      | none => exact (ih s').cons root
      | some w => exact (ih s').cons_cons root

/-! ## The index -/

theorem indexEntries_append (batch : List Entry) (e : Entry) :
    indexEntries (batch ++ [e]) = indexEntries.add (indexEntries batch) e := by
  simp [indexEntries]

theorem findEntry_indexEntries (batch : List Entry) :
    findEntry (indexEntries batch).1 = firstOf batch := by
  funext key
  induction batch using List.reverseRecOn with
  | nil => rfl
  | append_singleton batch e ih =>
      have first : firstOf (batch ++ [e]) key =
          (firstOf batch key).or (if !e.key.isEmpty && e.key == key then some e else none) := by
        simp [firstOf, List.find?_append]
      rw [indexEntries_append, first, ← ih]
      generalize indexEntries batch = r
      obtain ⟨index, errors⟩ := r
      simp only [indexEntries.add]
      split
      · rename_i empty
        simp [empty]
      · rename_i named
        by_cases same : e.key = key
        · subst same
          split
          · rename_i known
            obtain ⟨earlier, found⟩ := Option.isSome_iff_exists.1 known
            simp [found]
          · simp [findEntry, List.find?_append, named]
        · split <;> simp [findEntry, List.find?_append, same]

theorem firstOf_eq_some {batch : List Entry} {key : String} {e : Entry} :
    firstOf batch key = some e ↔
      key ≠ "" ∧ (batch.find? fun e => e.key == key) = some e := by
  by_cases empty : key = ""
  · subst empty
    simp only [firstOf, ne_eq, not_true_eq_false, false_and, iff_false]
    intro found
    have accepted := List.find?_some found
    simp at accepted
  · have same : (fun e : Entry => !e.key.isEmpty && e.key == key) = fun e => e.key == key := by
      funext e
      by_cases same : e.key = key <;> simp [same, empty]
    simp [firstOf, same, empty]

theorem firstOf_eq_some_of_nodup {batch : List Entry} (distinct : (batch.map (·.key)).Nodup)
    {key : String} {e : Entry} :
    firstOf batch key = some e ↔ key ≠ "" ∧ e ∈ batch ∧ e.key = key := by
  rw [firstOf_eq_some]
  refine and_congr_right fun _ => ⟨fun found => findEntry_some found, ?_⟩
  rintro ⟨member, rfl⟩
  exact findEntry_of_mem distinct member

theorem firstOf_perm {batch batch' : List Entry} (distinct : (batch.map (·.key)).Nodup)
    (perm : batch.Perm batch') : firstOf batch = firstOf batch' := by
  funext key
  have distinct' : (batch'.map (·.key)).Nodup := (perm.map _).nodup_iff.1 distinct
  apply Option.ext
  intro e
  rw [firstOf_eq_some_of_nodup distinct, firstOf_eq_some_of_nodup distinct', perm.mem_iff]

/-! ## The tree -/

namespace Tree

variable {batch batch' : List Entry} {key : String} {w : Int} {e : Entry}

def marks (batch : List Entry) : Resolution :=
  (resolveEntries (indexEntries batch).1 (indexEntries batch).1 ⟨[], (indexEntries batch).2⟩).2

theorem mem_entries : (w, e) ∈ (ofEntries batch).1.entries ↔
    firstOf batch e.key = some e ∧ (marks batch).weightOf e.key = some w := by
  have distinct := indexEntries_distinct batch
  have spec := resolveEntries_spec distinct (fun e member => member)
    (Sound.empty (indexEntries batch).2)
  have listed : e ∈ (indexEntries batch).1 ↔ firstOf batch e.key = some e := by
    rw [← findEntry_indexEntries]
    exact ⟨findEntry_of_mem distinct, fun found => (findEntry_some found).1⟩
  rw [← listed, marks, ← spec.2]
  exact List.mem_mergeSort

theorem mem_services : e ∈ (ofEntries batch).1.services ↔
    ∃ w, (w, e) ∈ (ofEntries batch).1.entries := by
  simp [services]

theorem exists_weight_or_faulty (first : firstOf batch e.key = some e) :
    (∃ w, (marks batch).weightOf e.key = some w) ∨ Faulty (firstOf batch) e.key := by
  have distinct := indexEntries_distinct batch
  have listed : e ∈ (indexEntries batch).1 := by
    rw [← findEntry_indexEntries] at first
    exact (findEntry_some first).1
  obtain ⟨blames, marked⟩ := resolveEntries_blames distinct (fun e member => member)
    (Sound.empty (indexEntries batch).2) (s := ⟨[], (indexEntries batch).2⟩) nofun
  cases weight : (marks batch).weightOf e.key with
  | some w => exact .inl ⟨w, rfl⟩
  | none =>
      have broken := blames e.key (mark?_eq_broken (marked e listed) weight)
      rw [findEntry_indexEntries] at broken
      exact .inr broken

theorem not_faulty_of_mem (member : (w, e) ∈ (ofEntries batch).1.entries) :
    ¬Faulty (firstOf batch) e.key := by
  have falling : ∀ key w, (ofEntries batch).1.weight? key = some w →
      (firstOf batch key).isSome = true ∧ ∀ dep, Needs (firstOf batch) key dep →
        ∃ w', (ofEntries batch).1.weight? dep = some w' ∧ w' < w := by
    intro key w weight
    obtain ⟨e, member, rfl⟩ := weight?_some weight
    have first := (mem_entries.1 member).1
    refine ⟨by simp [first], ?_⟩
    rintro dep ⟨other, found, needed⟩
    cases first.symm.trans found
    exact dependency_lt member needed
  exact not_faulty_of_falling falling (weight?_of_mem member)

theorem mem_services_iff : e ∈ (ofEntries batch).1.services ↔
    firstOf batch e.key = some e ∧ ¬Faulty (firstOf batch) e.key := by
  rw [mem_services]
  constructor
  · rintro ⟨w, member⟩
    exact ⟨(mem_entries.1 member).1, not_faulty_of_mem member⟩
  · rintro ⟨first, sound⟩
    obtain ⟨w, weight⟩ := (exists_weight_or_faulty first).resolve_right sound
    exact ⟨w, mem_entries.2 ⟨first, weight⟩⟩

theorem acc_needs (member : e ∈ (ofEntries batch).1.services) :
    Acc (fun dep key => Needs (firstOf batch) key dep) e.key := by
  apply acc_of_not_faulty
  · apply (List.finite_toSet (batch.map (·.key))).subset
    intro key known
    obtain ⟨d, found⟩ := Option.isSome_iff_exists.1 known
    obtain ⟨inside, rfl⟩ := findEntry_some (firstOf_eq_some.1 found).2
    exact List.mem_map_of_mem inside
  · exact (mem_services_iff.1 member).2

theorem nodup_keys (batch : List Entry) : ((ofEntries batch).1.services.map (·.key)).Nodup := by
  have found := (resolveEntries_sublist (indexEntries batch).1 (indexEntries batch).1
    ⟨[], (indexEntries batch).2⟩).map Entry.key
  have sorted : ((ofEntries batch).1.services).Perm _ := (List.mergeSort_perm _ _).map Prod.snd
  exact ((sorted.map Entry.key).nodup_iff).2 ((indexEntries_distinct batch).sublist found)

theorem mem_entries_of_perm (distinct : (batch.map (·.key)).Nodup) (perm : batch.Perm batch')
    (member : (w, e) ∈ (ofEntries batch).1.entries) : (w, e) ∈ (ofEntries batch').1.entries := by
  induction n : w.toNat using Nat.strong_induction_on generalizing w e with
  | _ n ih =>
      subst n
      have listed : e ∈ (ofEntries batch').1.services := by
        rw [mem_services_iff, ← firstOf_perm distinct perm, ← mem_services_iff, mem_services]
        exact ⟨w, member⟩
      obtain ⟨w', member'⟩ := mem_services.1 listed
      have same : ∀ dep ∈ e.after, Phase.ofTag? dep = none →
          (ofEntries batch).1.weight? dep = (ofEntries batch').1.weight? dep := by
        intro dep inside untagged
        have needed : dep ∈ e.dependencies := List.mem_filter.2 ⟨inside, by simp [untagged]⟩
        obtain ⟨v, weight, less⟩ := dependency_lt member needed
        obtain ⟨d, there, rfl⟩ := weight?_some weight
        have positive := (weighs there).1
        have there' := ih v.toNat (by omega) there rfl
        rw [weight, weight?_of_mem there']
      have sum := (weighs member).2
      rw [Entry.weightBy_congr same, (weighs member').2] at sum
      cases sum
      exact member'

/-- Exactly those entries are accepted that are the first of a key that is not empty and from which
neither a missing key nor a cycle can be reached; none is accepted twice; and as long as no key
occurs twice, neither what is accepted nor its weight depends on the order of the batch. -/
theorem accepts_exactly_sound (batch : List Entry) :
    (∀ e, e ∈ (ofEntries batch).1.services ↔
      e.key ≠ "" ∧ (batch.find? fun d => d.key == e.key) = some e ∧
        ¬Faulty (firstOf batch) e.key) ∧
    ((ofEntries batch).1.services.map (·.key)).Nodup ∧
    ((batch.map (·.key)).Nodup → ∀ batch', batch.Perm batch' → ∀ w e,
      (w, e) ∈ (ofEntries batch).1.entries ↔ (w, e) ∈ (ofEntries batch').1.entries) := by
  refine ⟨fun e => ?_, nodup_keys batch, fun distinct batch' perm w e => ?_⟩
  · rw [mem_services_iff, firstOf_eq_some, and_assoc]
  · have distinct' : (batch'.map (·.key)).Nodup := (perm.map _).nodup_iff.1 distinct
    exact ⟨mem_entries_of_perm distinct perm, mem_entries_of_perm distinct' perm.symm⟩

def entangled : List Entry :=
  [{ Entry.new "a" "test" with after := ["b"] },
    { Entry.new "b" "test" with after := ["net", "a"] },
    { Entry.new "c" "test" with after := ["a"] }, Entry.new "d" "test"]

theorem accepts_exactly_sound_entangled :
    (∀ w e, (w, e) ∈ (ofEntries entangled).1.entries ↔
      (w, e) ∈ (ofEntries entangled.reverse).1.entries) ∧
    { Entry.new "c" "test" with after := ["a"] } ∉ (ofEntries entangled).1.services := by
  obtain ⟨accepted_iff, -, any_order⟩ := accepts_exactly_sound entangled
  refine ⟨any_order (by decide) _ entangled.reverse_perm.symm, fun accepted => ?_⟩
  have there : Needs (firstOf entangled) "a" "b" := ⟨_, rfl, by decide⟩
  have back : Needs (firstOf entangled) "b" "a" := ⟨_, rfl, by decide⟩
  have cycle : Faulty (firstOf entangled) "a" := .of_cycle (.head there (.single back))
  have needs : Needs (firstOf entangled) "c" "a" := ⟨_, rfl, by decide⟩
  exact ((accepted_iff _).1 accepted).2.2 (cycle.of_needs needs)

end Tree

end Overseer.Boot
