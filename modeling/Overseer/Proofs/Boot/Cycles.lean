import Overseer.Proofs.Boot.Report

/-!
# Which cycles are reported

The resolver reports the members of a cycle when it comes back to one of them. A key that has a mark
by then ends the search, so it may leave out a cycle that goes through a member of another one. Still
no cycle is without a reported member: once a key is marked, all that is left of the needs below it
without the reported keys is well-founded.
-/

namespace Overseer.Boot

namespace Resolution

def Cyclic (s : Resolution) (key : String) : Prop := ∃ chain, .cyclic key chain ∈ s.errors

def Open (index : List Entry) (s : Resolution) (key dep : String) : Prop :=
  Needs (findEntry index) key dep ∧ ¬s.Cyclic dep

def Seen (index : List Entry) (s : Resolution) (key dep : String) : Prop :=
  findEntry index dep = none ∨ (s.mark? dep).isSome = true ∧
    ((∃ w, s.weightOf dep = some w) ∨ s.Cyclic key ∨ .brokenDependency key dep ∈ s.errors)

def Extends (s s' : Resolution) : Prop := s.Grows s' ∧ s.errors ⊆ s'.errors

/-- A key that is marked and not reported as a member of a cycle is done: there is no way to come
back to it but through reported keys. -/
structure Done (index : List Entry) (chain : List String) (s : Resolution) (key : String) : Prop where
  off : key ∉ chain
  grounded : Acc (fun dep key => s.Open index key dep) key
  seen : ∀ dep, Needs (findEntry index) key dep → s.Seen index key dep

structure Settled (index : List Entry) (chain : List String) (s : Resolution) : Prop where
  done : ∀ key, (s.mark? key).isSome = true → s.Cyclic key ∨ s.Done index chain key
  whole : ∀ key cycle, .cyclic key cycle ∈ s.errors → ∀ m ∈ cycle, .cyclic m cycle ∈ s.errors

variable {index : List Entry} {chain : List String} {s s' s'' : Resolution} {key dep : String}

theorem Extends.refl (s : Resolution) : s.Extends s := ⟨fun _ _ mark => mark, List.Subset.refl _⟩

theorem Extends.trans (first : s.Extends s') (second : s'.Extends s'') : s.Extends s'' :=
  ⟨first.1.trans second.1, List.Subset.trans first.2 second.2⟩

theorem Extends.marked (grown : s.Extends s') (marked : (s.mark? key).isSome = true) :
    (s'.mark? key).isSome = true := by
  obtain ⟨m, mark⟩ := Option.isSome_iff_exists.1 marked
  rw [grown.1 key m mark]
  rfl

theorem Extends.cyclic (grown : s.Extends s') (cyclic : s.Cyclic key) : s'.Cyclic key :=
  cyclic.imp fun _ member => grown.2 member

theorem Extends.open (grown : s.Extends s') (way : s'.Open index key dep) : s.Open index key dep :=
  ⟨way.1, fun cyclic => way.2 (grown.cyclic cyclic)⟩

theorem Extends.seen (grown : s.Extends s') (seen : s.Seen index key dep) :
    s'.Seen index key dep :=
  seen.imp_right fun ⟨marked, known⟩ => ⟨grown.marked marked, known.imp
    (fun ⟨w, weight⟩ => ⟨w, grown.1.weightOf weight⟩) (Or.imp grown.cyclic fun told => grown.2 told)⟩

theorem Extends.done (grown : s.Extends s') (done : s.Done index chain key) :
    s'.Done index chain key :=
  ⟨done.off, Subrelation.accessible (fun way => grown.open way) done.grounded,
    fun dep needs => grown.seen (done.seen dep needs)⟩

theorem Settled.extend (settled : s.Settled index chain) (grown : s.Extends s')
    (new : ∀ key, (s'.mark? key).isSome = true → (s.mark? key).isSome = true ∨
      s'.Cyclic key ∨ s'.Done index chain key)
    (whole : ∀ key cycle, .cyclic key cycle ∈ s'.errors → .cyclic key cycle ∈ s.errors ∨
      ∀ m ∈ cycle, .cyclic m cycle ∈ s'.errors) : s'.Settled index chain := by
  refine ⟨fun key marked => ?_, fun key cycle member m inside => ?_⟩
  · rcases new key marked with old | now
    · exact (settled.done key old).imp grown.cyclic grown.done
    · exact now
  · rcases whole key cycle member with old | now
    · exact grown.2 (settled.whole key cycle old m inside)
    · exact now m inside

theorem Settled.report (settled : s.Settled index chain) {error : BootError}
    (other : ∀ key cycle, error ≠ .cyclic key cycle) : (s.report error).Settled index chain := by
  refine settled.extend ⟨fun _ _ mark => mark, List.subset_append_left _ _⟩ (fun _ => .inl)
    fun key cycle member => ?_
  rcases List.mem_append.1 member with old | new
  · exact .inl old
  · exact absurd (List.mem_singleton.1 new).symm (other key cycle)

theorem Settled.setMark (settled : s.Settled index chain) (fresh : s.mark? key = none)
    (done : s.Done index chain key) (m : Mark) : (s.setMark key m).Settled index chain := by
  have grown : s.Extends (s.setMark key m) := ⟨Grows.setMark_new m fresh, List.Subset.refl _⟩
  refine settled.extend grown (fun k marked => ?_) fun _ _ => .inl
  rw [mark?_setMark] at marked
  split at marked
  · rename_i same
    exact .inr (.inr (same ▸ grown.done done))
  · exact .inl marked

theorem Settled.append (settled : s.Settled index chain) (fresh : s.mark? key = none) :
    s.Settled index (chain ++ [key]) := by
  refine ⟨fun k marked => (settled.done k marked).imp_right fun done => ?_, settled.whole⟩
  refine ⟨fun member => ?_, done.grounded, done.seen⟩
  rcases List.mem_append.1 member with earlier | last
  · exact done.off earlier
  · rw [List.mem_singleton.1 last, fresh] at marked
    cases marked

theorem Settled.shorten (settled : s.Settled index (chain ++ [key])) : s.Settled index chain :=
  ⟨fun k marked => (settled.done k marked).imp_right fun done =>
    ⟨fun member => done.off (List.mem_append_left _ member), done.grounded, done.seen⟩,
    settled.whole⟩

theorem Settled.finish {chain' : List String} (settled : s.Settled index chain') (off : key ∉ chain)
    (seen : ∀ dep, Needs (findEntry index) key dep → s.Seen index key dep) :
    s.Done index chain key := by
  refine ⟨off, .intro key fun dep way => ?_, seen⟩
  rcases seen dep way.1 with missing | ⟨marked, -⟩
  · refine .intro dep fun _ further => ?_
    obtain ⟨e, found, -⟩ := further.1
    rw [missing] at found
    cases found
  · exact ((settled.done dep marked).resolve_left way.2).grounded

theorem Settled.markOnce (settled : s.Settled index (chain ++ [key])) (off : key ∉ chain)
    (seen : ∀ dep, Needs (findEntry index) key dep → s.Seen index key dep) (m : Mark) :
    (s.markOnce key m).Settled index chain := by
  unfold Resolution.markOnce
  split
  · exact settled.shorten
  · rename_i unmarked
    exact settled.shorten.setMark (Option.not_isSome_iff_eq_none.1 unmarked)
      (settled.finish off seen) m

/-! ## Breaking a cycle -/

theorem errors_breakAll (members cycle : List String) (s : Resolution) :
    (members.foldl (fun s member => (s.setMark member .broken).report (.cyclic member cycle))
      s).errors = s.errors ++ members.map (.cyclic · cycle) := by
  induction members generalizing s with
  | nil => simp
  | cons first rest ih =>
      rw [List.foldl_cons, ih]
      simp [Resolution.report, Resolution.setMark]

theorem mark?_breakAll (members cycle : List String) (s : Resolution) (key : String) :
    (members.foldl (fun s member => (s.setMark member .broken).report (.cyclic member cycle))
      s).mark? key = if key ∈ members then some .broken else s.mark? key := by
  induction members generalizing s with
  | nil => simp
  | cons first rest ih =>
      rw [List.foldl_cons, ih, mark?_report, mark?_setMark]
      by_cases later : key ∈ rest
      · simp [later]
      · simp [later]

theorem Settled.breakCycle (settled : s.Settled index chain) (clear : s.Clear chain)
    (sound : s.Sound index) (member : key ∈ chain) :
    (s.breakCycle chain key).Settled index chain := by
  have grows := (breakCycle_keeps clear sound member).1.grows
  obtain ⟨rest, split⟩ := dropWhile_of_mem member
  unfold Resolution.breakCycle at grows ⊢
  simp only at grows ⊢
  rw [split] at grows ⊢
  have errors := errors_breakAll (key :: rest) (key :: rest ++ [key]) s
  have marks := mark?_breakAll (key :: rest) (key :: rest ++ [key]) s
  refine settled.extend ⟨grows, ?_⟩ (fun k marked => ?_) fun k cycle told => ?_
  · rw [errors]
    exact List.subset_append_left _ _
  · rw [marks] at marked
    split at marked
    · rename_i inside
      refine .inr (.inl ⟨key :: rest ++ [key], ?_⟩)
      rw [errors]
      exact List.mem_append_right _ (List.mem_map.2 ⟨k, inside, rfl⟩)
    · exact .inl marked
  · rw [errors] at told ⊢
    rcases List.mem_append.1 told with old | new
    · exact .inl old
    · obtain ⟨k', -, same⟩ := List.mem_map.1 new
      cases same
      refine .inr fun m inside => List.mem_append_right _ (List.mem_map.2 ⟨m, ?_, rfl⟩)
      rcases List.mem_append.1 inside with among | back
      · exact among
      · rw [List.mem_singleton.1 back]
        exact List.mem_cons_self

end Resolution

open Resolution

theorem resolveAll_extends {index : List Entry} {chain : List String} {key : String}
    {entry : Entry} (found : findEntry index key = some entry) {deps : List String}
    (within : ∀ dep ∈ deps, dep ∈ entry.after) (weight : Int) (broken : Bool) {s : Resolution}
    (path : (chain ++ [key]).IsChain (Needs (findEntry index))) (clear : s.Clear (chain ++ [key]))
    (sound : s.Sound index) :
    s.Extends (resolveAll index (chain ++ [key]) key deps weight broken s).2.2 :=
  ⟨(resolveAll_spec index (chain ++ [key]) key deps weight broken s clear sound).1.grows,
    (resolveAll_accounts index chain key entry found deps within weight broken s path clear
      sound).accounts.kept⟩

mutual

theorem resolve_settled (index : List Entry) (chain : List String) (key : String) (s : Resolution)
    (path : (chain ++ [key]).IsChain (Needs (findEntry index))) (clear : s.Clear chain)
    (sound : s.Sound index) (settled : s.Settled index chain) :
    (resolve index chain key s).2.Settled index chain := by
  rw [resolve]
  split
  · exact settled
  · rename_i fresh
    split
    · rename_i onChain
      exact settled.breakCycle clear sound (List.contains_iff_mem.1 onChain)
    · rename_i apart
      have off : key ∉ chain := fun member => apart (List.contains_iff_mem.2 member)
      split
      · exact settled
      · rename_i entry found
        have needed : ∀ dep, Needs (findEntry index) key dep →
            dep ∈ entry.after ∧ Phase.ofTag? dep = none := by
          rintro dep ⟨e, found', member⟩
          cases found.symm.trans found'
          exact (List.mem_filter.1 member).imp_right Option.isNone_iff_eq_none.1
        split
        · rename_i free
          refine settled.setMark fresh (settled.finish off fun dep needs => ?_) _
          have member := (needed dep needs).1
          rw [List.isEmpty_iff.1 free] at member
          cases member
        · have fewer : offChain index (chain ++ [key]) < offChain index chain :=
            offChain_lt found (by simpa using apart)
          have inner := resolveAll_settled index chain key entry found entry.after
            (fun _ member => member) 0 false s path (clear.append fresh) sound
            (settled.append fresh)
          generalize resolveAll index (chain ++ [key]) key entry.after 0 false s = r at inner ⊢
          obtain ⟨weight, broken, s'⟩ := r
          exact inner.1.markOnce off
            (fun dep needs => inner.2 dep (needed dep needs).1 (needed dep needs).2) _
termination_by (offChain index chain, 0)

theorem resolveAll_settled (index : List Entry) (chain : List String) (key : String)
    (entry : Entry) (found : findEntry index key = some entry) (deps : List String)
    (within : ∀ dep ∈ deps, dep ∈ entry.after) (weight : Int) (broken : Bool) (s : Resolution)
    (path : (chain ++ [key]).IsChain (Needs (findEntry index))) (clear : s.Clear (chain ++ [key]))
    (sound : s.Sound index) (settled : s.Settled index (chain ++ [key])) :
    (resolveAll index (chain ++ [key]) key deps weight broken s).2.2.Settled index
        (chain ++ [key]) ∧
      ∀ dep ∈ deps, Phase.ofTag? dep = none →
        (resolveAll index (chain ++ [key]) key deps weight broken s).2.2.Seen index key dep := by
  cases deps with
  | nil =>
      rw [resolveAll]
      exact ⟨settled, nofun⟩
  | cons dep rest =>
      have inside : ∀ d ∈ rest, d ∈ entry.after := fun d member =>
        within d (List.mem_cons_of_mem _ member)
      -- What is seen of one dependency stays so while the others are looked at.
      have onward : ∀ weight broken s', Keeps index (chain ++ [key]) s s' →
          s'.Settled index (chain ++ [key]) → (Phase.ofTag? dep = none → s'.Seen index key dep) →
          (resolveAll index (chain ++ [key]) key rest weight broken s').2.2.Settled index
              (chain ++ [key]) ∧
            ∀ d ∈ dep :: rest, Phase.ofTag? d = none →
              (resolveAll index (chain ++ [key]) key rest weight broken s').2.2.Seen index key
                d := by
        intro weight broken s' kept settled' seen
        have later := resolveAll_settled index chain key entry found rest inside weight broken s'
          path kept.clear kept.sound settled'
        refine ⟨later.1, fun d member untagged => ?_⟩
        rcases List.mem_cons.1 member with rfl | member
        · exact (resolveAll_extends found inside weight broken path kept.clear kept.sound).seen
            (seen untagged)
        · exact later.2 d member untagged
      have unchanged := Keeps.refl clear sound
      rw [resolveAll]
      split
      · rename_i phase tag
        refine onward _ broken s unchanged settled fun untagged => ?_
        cases tag.symm.trans untagged
      · rename_i tag
        have needs : Needs (findEntry index) key dep := by
          refine ⟨entry, found, List.mem_filter.2 ⟨within dep List.mem_cons_self, ?_⟩⟩
          rw [tag]
          rfl
        split
        · rename_i missing
          exact onward weight true _ (unchanged.report _) (settled.report nofun) fun _ =>
            .inl (Option.isNone_iff_eq_none.1 missing)
        · rename_i present
          have further : (chain ++ [key] ++ [dep]).IsChain (Needs (findEntry index)) := by
            refine List.isChain_append.2 ⟨path, .singleton _, ?_⟩
            simpa using needs
          have one := resolve_settled index (chain ++ [key]) dep s further clear sound settled
          have spec := resolve_spec index (chain ++ [key]) dep s clear sound
          have marked := spec.2.2 (Option.ne_none_iff_isSome.1 fun none => present (by simp [none]))
          split
          · rename_i w s' resolved
            rw [resolved] at one spec marked
            exact onward _ broken s' spec.1 one fun _ => .inr ⟨marked, .inl ⟨w, spec.2.1.symm⟩⟩
          · rename_i s' resolved
            rw [resolved] at one spec marked
            by_cases broken : s'.mark? key = some .broken
            · rw [if_pos broken]
              -- A key that is marked while it is on the chain was found on a cycle.
              have cyclic : s'.Cyclic key :=
                (one.done key (by simp [broken])).resolve_right fun done =>
                  done.off (List.mem_append_right _ (List.mem_singleton_self _))
              exact onward weight true s' spec.1 one fun _ => .inr ⟨marked, .inr (.inl cyclic)⟩
            · rw [if_neg broken]
              exact onward weight true _ (spec.1.report _) (one.report nofun) fun _ =>
                .inr ⟨marked, .inr (.inr (List.mem_append_right _ (List.mem_singleton_self _)))⟩
termination_by (offChain index (chain ++ [key]), deps.length + 1)

end

theorem resolveEntries_settled {index : List Entry} {roots : List Entry} {s : Resolution}
    (sound : s.Sound index) (settled : s.Settled index []) :
    (resolveEntries index roots s).2.Settled index [] := by
  induction roots generalizing s with
  | nil => exact settled
  | cons root rest ih =>
      have spec := resolve_spec index [] root.key s nofun sound
      have one := resolve_settled index [] root.key s (.singleton _) nofun sound settled
      rw [resolveEntries]
      exact ih spec.1.sound one

/-! ## Loops -/

section
variable {α : Type*} {R : α → α → Prop} {P : α → Prop} {a b c : α} {loop : List α}

theorem not_transGen_of_acc (grounded : Acc (fun b a => R a b) a) : ¬Relation.TransGen R a a := by
  induction grounded with
  | intro a _ ih =>
      intro cycle
      obtain ⟨b, step, back⟩ := Relation.TransGen.head'_iff.1 cycle
      exact ih b step (.tail' back step)

theorem transGen_avoids_or_meets (way : Relation.TransGen R a c) :
    Relation.TransGen (fun a b => R a b ∧ ¬P b) a c ∨
      ∃ b, P b ∧ Relation.ReflTransGen R a b ∧ Relation.ReflTransGen R b c := by
  induction way with
  | @single b step =>
      by_cases met : P b
      · exact .inr ⟨b, met, .single step, .refl⟩
      · exact .inl (.single ⟨step, met⟩)
  | @tail b c way step ih =>
      rcases ih with avoids | ⟨m, met, before, after⟩
      · by_cases met : P c
        · exact .inr ⟨c, met, way.to_reflTransGen.tail step, .refl⟩
        · exact .inl (avoids.tail ⟨step, met⟩)
      · exact .inr ⟨m, met, before, after.tail step⟩

theorem exists_loop (long : 2 ≤ loop.length) (closed : loop.head? = loop.getLast?) :
    ∃ first rest, loop = first :: rest ++ [first] := by
  rcases List.eq_nil_or_concat loop with rfl | ⟨front, last, rfl⟩
  · simp at long
  · cases front with
    | nil => simp at long
    | cons first rest =>
        rw [List.concat_eq_append, List.getLast?_concat] at closed
        cases closed
        exact ⟨_, rest, List.concat_eq_append⟩

theorem transGen_of_loop (long : 2 ≤ loop.length) (closed : loop.head? = loop.getLast?)
    (path : loop.IsChain R) (from_member : a ∈ loop) (to_member : b ∈ loop) :
    Relation.TransGen R a b := by
  obtain ⟨first, rest, rfl⟩ := exists_loop long closed
  have ways : (first :: rest ++ [first]).Pairwise (Relation.TransGen R) :=
    (path.imp fun _ _ => Relation.TransGen.single).pairwise
  have onward : ∀ x ∈ first :: rest, Relation.TransGen R x first := fun x member =>
    (List.pairwise_append.1 ways).2.2 x member first (List.mem_singleton_self _)
  have start := onward first List.mem_cons_self
  have outward : ∀ x ∈ first :: rest ++ [first], Relation.TransGen R first x := by
    intro x member
    rcases List.mem_cons.1 member with rfl | later
    · exact start
    · exact (List.pairwise_cons.1 ways).1 x later
  refine .trans ?_ (outward b to_member)
  rcases List.mem_append.1 from_member with inner | last
  · exact onward a inner
  · exact List.mem_singleton.1 last ▸ start

theorem exists_next_of_loop (long : 2 ≤ loop.length) (closed : loop.head? = loop.getLast?)
    (path : loop.IsChain R) (member : a ∈ loop) : ∃ b ∈ loop, R a b := by
  obtain ⟨first, rest, rfl⟩ := exists_loop long closed
  have inner : a ∈ first :: rest := by
    rcases List.mem_append.1 member with inner | last
    · exact inner
    · exact List.mem_singleton.1 last ▸ List.mem_cons_self
  obtain ⟨before, after, split⟩ := List.append_of_mem inner
  rw [split, List.append_assoc] at path ⊢
  have onward := (List.isChain_append.1 path).2.1
  cases after with
  | nil => exact ⟨first, by simp, by simpa using onward⟩
  | cons next after => exact ⟨next, by simp, (List.isChain_cons_cons.1 onward).1⟩

end

/-! ## The tree -/

namespace Tree

variable {batch : List Entry} {key dep : String}

/-- An error tells that a key is on a cycle. -/
def ReportsCycle (batch : List Entry) (key : String) : Prop :=
  ∃ chain, .cyclic key chain ∈ (ofEntries batch).2

theorem marks_settled (batch : List Entry) :
    (marks batch).Settled (indexEntries batch).1 [] := by
  refine resolveEntries_settled (Sound.empty (indexEntries batch).2) ⟨nofun, ?_⟩
  intro key cycle about_keys
  cases (mem_indexEntries.1 about_keys).1

theorem reported_or_done {e : Entry} (first : firstOf batch key = some e) :
    ReportsCycle batch key ∨ (marks batch).Done (indexEntries batch).1 [] key :=
  (marks_settled batch).done key (marked_of_first first)

theorem cycle_of_reportsCycle (reported : ReportsCycle batch key) :
    Relation.TransGen (Needs (firstOf batch)) key key := by
  obtain ⟨chain, member⟩ := reported
  obtain ⟨⟨long, closed, inside⟩, path⟩ := isTrue_of_mem member
  exact transGen_of_loop long closed path inside inside

theorem no_unreported_cycle : ¬Relation.TransGen
    (fun key dep => Needs (firstOf batch) key dep ∧ ¬ReportsCycle batch dep) key key := by
  intro cycle
  obtain ⟨-, ⟨⟨e, first, -⟩, -⟩, -⟩ := Relation.TransGen.head'_iff.1 cycle
  obtain ⟨-, -, -, unreported⟩ := Relation.TransGen.tail'_iff.1 cycle
  have done := (reported_or_done first).resolve_left unreported
  have grounded := done.grounded
  simp only [Resolution.Open, findEntry_indexEntries] at grounded
  exact not_transGen_of_acc grounded cycle

theorem reportsCycle_or_broken (needs : Needs (firstOf batch) key dep)
    (back : Relation.ReflTransGen (Needs (firstOf batch)) dep key) :
    ReportsCycle batch key ∨ .brokenDependency key dep ∈ (ofEntries batch).2 := by
  obtain ⟨e, first, -⟩ := id needs
  have faulty : Faulty (firstOf batch) dep := .of_cycle (.tail' back needs)
  obtain ⟨-, ⟨d, first', -⟩, -⟩ := Relation.TransGen.head'_iff.1 (.tail' back needs)
  refine (reported_or_done first).elim .inl fun done => ?_
  rcases done.seen dep (by rwa [findEntry_indexEntries]) with missing | ⟨-, weighed | known⟩
  · rw [findEntry_indexEntries, first'] at missing
    cases missing
  · obtain ⟨w, weight⟩ := weighed
    obtain rfl := (firstOf_eq_some.1 first').2 |> findEntry_some |>.2
    exact absurd faulty (not_faulty_of_mem (mem_entries.2 ⟨first', weight⟩))
  · exact known

theorem reportsCycle_of_single (cycle : Relation.TransGen (Needs (firstOf batch)) key key)
    (single : ∀ k d d', Relation.ReflTransGen (Needs (firstOf batch)) key k →
      Needs (firstOf batch) k d → Relation.ReflTransGen (Needs (firstOf batch)) d key →
      Needs (firstOf batch) k d' → Relation.ReflTransGen (Needs (firstOf batch)) d' key → d = d') :
    ReportsCycle batch key := by
  obtain ⟨m, ⟨chain, member⟩, there, back⟩ :=
    (transGen_avoids_or_meets (P := ReportsCycle batch) cycle).resolve_left no_unreported_cycle
  obtain ⟨⟨long, closed, inside⟩, path⟩ := isTrue_of_mem member
  -- The ways from the reported member to the key do not leave its loop.
  have stays : ∀ k, Relation.ReflTransGen (Needs (firstOf batch)) m k →
      Relation.ReflTransGen (Needs (firstOf batch)) k key → k ∈ chain := by
    intro k way
    induction way with
    | refl => exact fun _ => inside
    | @tail k d way step ih =>
        intro home
        have here := ih (home.head step)
        obtain ⟨next, onLoop, step'⟩ := exists_next_of_loop long closed path here
        have home' := (transGen_of_loop long closed path onLoop inside).to_reflTransGen.trans back
        exact single k d next (there.trans way) step home step' home' ▸ onLoop
  exact ⟨chain, (marks_settled batch).whole m chain member key (stays key back .refl)⟩

/-- A key that is reported as a member of a cycle is one, and no cycle is without a reported member.
A member that is not reported has an error about every key that it needs on a cycle. Where no member
needs more than one of those, all are reported. -/
theorem cycles_reported (batch : List Entry) :
    (∀ key, ReportsCycle batch key → Relation.TransGen (Needs (firstOf batch)) key key) ∧
    (∀ key, ¬Relation.TransGen
      (fun key dep => Needs (firstOf batch) key dep ∧ ¬ReportsCycle batch dep) key key) ∧
    (∀ key dep, Needs (firstOf batch) key dep →
      Relation.ReflTransGen (Needs (firstOf batch)) dep key →
      ReportsCycle batch key ∨ .brokenDependency key dep ∈ (ofEntries batch).2) ∧
    (∀ key, Relation.TransGen (Needs (firstOf batch)) key key →
      (∀ k d d', Relation.ReflTransGen (Needs (firstOf batch)) key k →
        Needs (firstOf batch) k d → Relation.ReflTransGen (Needs (firstOf batch)) d key →
        Needs (firstOf batch) k d' → Relation.ReflTransGen (Needs (firstOf batch)) d' key →
        d = d') → ReportsCycle batch key) :=
  ⟨fun _ => cycle_of_reportsCycle, fun _ => no_unreported_cycle,
    fun _ _ => reportsCycle_or_broken, fun _ => reportsCycle_of_single⟩

def overlapping : List Entry :=
  [{ Entry.new "a" "test" with after := ["b", "c"] }, { Entry.new "b" "test" with after := ["a"] },
    { Entry.new "c" "test" with after := ["a"] }]

theorem cycles_reported_overlapping :
    ReportsCycle overlapping "c" ∨ .brokenDependency "c" "a" ∈ (ofEntries overlapping).2 := by
  have there : Needs (firstOf overlapping) "c" "a" := ⟨_, rfl, by decide⟩
  have back : Needs (firstOf overlapping) "a" "c" := ⟨_, rfl, by decide⟩
  exact (cycles_reported overlapping).2.2.1 "c" "a" there (.single back)

/-- Once the first cycle is broken, the second one is not seen, unless the search starts there. -/
theorem cycle_member_left_out :
    (overlapping.map (·.key)).Nodup ∧ (∀ e ∈ overlapping, e.key ≠ "") ∧
    Relation.TransGen (Needs (firstOf overlapping)) "c" "c" ∧ ¬ReportsCycle overlapping "c" ∧
    overlapping.Perm (overlapping.rotate 2) ∧ ReportsCycle (overlapping.rotate 2) "c" := by
  have there : Needs (firstOf overlapping) "c" "a" := ⟨_, rfl, by decide⟩
  have back : Needs (firstOf overlapping) "a" "c" := ⟨_, rfl, by decide⟩
  have errors : (ofEntries overlapping).2 = [.cyclic "a" ["a", "b", "a"],
      .cyclic "b" ["a", "b", "a"], .brokenDependency "c" "a"] := by cbv
  have errors' : (ofEntries (overlapping.rotate 2)).2 = [.cyclic "a" ["a", "b", "a"],
      .cyclic "b" ["a", "b", "a"], .cyclic "c" ["c", "a", "c"], .cyclic "a" ["c", "a", "c"]] := by
    cbv
  refine ⟨by decide, by decide, .head there (.single back), ?_, ?_, ?_⟩
  · rintro ⟨chain, member⟩
    simp [errors] at member
  · exact (List.rotate_perm overlapping 2).symm
  · exact ⟨["c", "a", "c"], by simp [errors']⟩

end Tree

end Overseer.Boot
