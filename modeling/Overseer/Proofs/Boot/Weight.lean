import Mathlib
import Overseer.Boot.Cohort
import Overseer.Boot.Tree

/-!
# Weights

The resolver marks a key when it knows its weight, and never takes a mark back. A weight is the sum
over what the entry comes after, so it is greater than the weights of all its dependencies.
-/

namespace Overseer.Boot

def addUp (weightOf : String → Option Int) : List String → Option Int
  | [] => some 0
  | dep :: rest =>
      match Phase.ofTag? dep with
      | some phase => (addUp weightOf rest).map (phase.weight + ·)
      | none => (weightOf dep).bind fun w => (addUp weightOf rest).map (w + 1 + ·)

def Entry.weightBy (weightOf : String → Option Int) (e : Entry) : Option Int :=
  if e.after.isEmpty then some Phase.boot.weight else addUp weightOf e.after

theorem Phase.weight_pos (phase : Phase) : 1 ≤ phase.weight := by
  cases phase <;> decide

section
variable {weightOf weightOf' : String → Option Int} {deps : List String} {total : Int}

theorem addUp_mono (more : ∀ key w, weightOf key = some w → weightOf' key = some w)
    (sum : addUp weightOf deps = some total) : addUp weightOf' deps = some total := by
  induction deps generalizing total with
  | nil => exact sum
  | cons dep rest ih =>
      unfold addUp at sum ⊢
      split
      · rename_i phase tag
        rw [tag] at sum
        obtain ⟨later, known, rfl⟩ := Option.map_eq_some_iff.1 sum
        rw [ih known, Option.map_some]
      · rename_i tag
        rw [tag] at sum
        obtain ⟨w, weight, sum⟩ := Option.bind_eq_some_iff.1 sum
        obtain ⟨later, known, rfl⟩ := Option.map_eq_some_iff.1 sum
        rw [more dep w weight, ih known, Option.bind_some, Option.map_some]

theorem addUp_congr
    (same : ∀ dep ∈ deps, Phase.ofTag? dep = none → weightOf dep = weightOf' dep) :
    addUp weightOf deps = addUp weightOf' deps := by
  induction deps with
  | nil => rfl
  | cons dep rest ih =>
      have later := ih fun d member => same d (List.mem_cons_of_mem _ member)
      unfold addUp
      split
      · rw [later]
      · rename_i tag
        rw [later, same dep List.mem_cons_self tag]

theorem addUp_lt (positive : ∀ key w, weightOf key = some w → 1 ≤ w)
    (sum : addUp weightOf deps = some total) :
    (deps.length : Int) ≤ total ∧ ∀ dep ∈ deps, Phase.ofTag? dep = none →
      ∃ w, weightOf dep = some w ∧ w < total := by
  induction deps generalizing total with
  | nil =>
      cases sum
      exact ⟨Int.le_refl _, nofun⟩
  | cons dep rest ih =>
      unfold addUp at sum
      split at sum
      · rename_i phase tag
        obtain ⟨later, known, rfl⟩ := Option.map_eq_some_iff.1 sum
        obtain ⟨length, parts⟩ := ih known
        have weight := phase.weight_pos
        refine ⟨by simp only [List.length_cons]; omega, fun d member untagged => ?_⟩
        rcases List.mem_cons.1 member with rfl | member
        · cases tag.symm.trans untagged
        · obtain ⟨w, found, less⟩ := parts d member untagged
          exact ⟨w, found, by omega⟩
      · obtain ⟨w, found, sum⟩ := Option.bind_eq_some_iff.1 sum
        obtain ⟨later, known, rfl⟩ := Option.map_eq_some_iff.1 sum
        obtain ⟨length, parts⟩ := ih known
        have weight := positive dep w found
        refine ⟨by simp only [List.length_cons]; omega, fun d member untagged => ?_⟩
        rcases List.mem_cons.1 member with rfl | member
        · exact ⟨w, found, by omega⟩
        · obtain ⟨w', found', less⟩ := parts d member untagged
          exact ⟨w', found', by omega⟩

end

theorem Entry.weightBy_mono {weightOf weightOf' : String → Option Int} {e : Entry} {w : Int}
    (more : ∀ key w, weightOf key = some w → weightOf' key = some w)
    (weight : e.weightBy weightOf = some w) : e.weightBy weightOf' = some w := by
  unfold weightBy at weight ⊢
  split
  · rename_i free
    rwa [if_pos free] at weight
  · rename_i bound
    rw [if_neg bound] at weight
    exact addUp_mono more weight

theorem Entry.weightBy_congr {weightOf weightOf' : String → Option Int} {e : Entry}
    (same : ∀ dep ∈ e.after, Phase.ofTag? dep = none → weightOf dep = weightOf' dep) :
    e.weightBy weightOf = e.weightBy weightOf' := by
  rw [weightBy, weightBy, addUp_congr same]

theorem Entry.weightBy_lt {weightOf : String → Option Int} {e : Entry} {w : Int}
    (positive : ∀ key w, weightOf key = some w → 1 ≤ w) (weight : e.weightBy weightOf = some w) :
    1 ≤ w ∧ ∀ dep ∈ e.after, Phase.ofTag? dep = none →
      ∃ w', weightOf dep = some w' ∧ w' < w := by
  unfold weightBy at weight
  split at weight
  · rename_i free
    cases weight
    exact ⟨by decide, by simp [List.isEmpty_iff.1 free]⟩
  · rename_i bound
    obtain ⟨length, parts⟩ := addUp_lt positive weight
    refine ⟨?_, parts⟩
    cases after : e.after with
    | nil => simp [after] at bound
    | cons dep rest =>
        rw [after, List.length_cons] at length
        omega

/-! ## Marks -/

namespace Resolution

def weightOf (s : Resolution) (key : String) : Option Int := (s.mark? key).bind Mark.weight?

def Grows (s s' : Resolution) : Prop := ∀ key m, s.mark? key = some m → s'.mark? key = some m

def Clear (s : Resolution) (chain : List String) : Prop := ∀ key ∈ chain, s.weightOf key = none

structure Sound (index : List Entry) (s : Resolution) : Prop where
  weighed : ∀ key w, s.weightOf key = some w →
    ∃ e, findEntry index key = some e ∧ e.weightBy s.weightOf = some w
  positive : ∀ key w, s.weightOf key = some w → 1 ≤ w

structure Keeps (index : List Entry) (chain : List String) (s s' : Resolution) : Prop where
  grows : s.Grows s'
  clear : s'.Clear chain
  sound : s'.Sound index

variable {index : List Entry} {chain : List String} {s s' s'' : Resolution} {key : String}

theorem mark?_of_weightOf {w : Int} (weight : s.weightOf key = some w) :
    s.mark? key = some (.resolved w) := by
  obtain ⟨m, mark, weight⟩ := Option.bind_eq_some_iff.1 weight
  cases m <;> cases weight
  exact mark

theorem Grows.weightOf (grows : s.Grows s') {w : Int} (weight : s.weightOf key = some w) :
    s'.weightOf key = some w := by
  rw [Resolution.weightOf, grows key _ (mark?_of_weightOf weight)]
  rfl

theorem Grows.trans (first : s.Grows s') (second : s'.Grows s'') : s.Grows s'' :=
  fun key m mark => second key m (first key m mark)

theorem Keeps.trans (first : Keeps index chain s s') (second : Keeps index chain s' s'') :
    Keeps index chain s s'' := ⟨first.grows.trans second.grows, second.clear, second.sound⟩

theorem Keeps.refl (clear : s.Clear chain) (sound : s.Sound index) : Keeps index chain s s :=
  ⟨fun _ _ mark => mark, clear, sound⟩

@[simp] theorem mark?_report (s : Resolution) (e : BootError) (key : String) :
    (s.report e).mark? key = s.mark? key := rfl

theorem Sound.empty (errors : List BootError) : Sound index ⟨[], errors⟩ := by
  constructor <;> intro key w known <;> cases known

theorem Keeps.report (keeps : Keeps index chain s s') (e : BootError) :
    Keeps index chain s (s'.report e) :=
  ⟨keeps.grows, keeps.clear, keeps.sound.weighed, keeps.sound.positive⟩

theorem Keeps.reportUnless (keeps : Keeps index chain s s') (p : Prop) [Decidable p]
    (e : BootError) : Keeps index chain s (if p then s' else s'.report e) := by
  split
  · exact keeps
  · exact keeps.report e

theorem mark?_setMark (s : Resolution) (key other : String) (m : Mark) :
    (s.setMark key m).mark? other = if other = key then some m else s.mark? other := by
  unfold mark? setMark
  rw [List.lookup_cons]
  by_cases same : other = key
  · rw [if_pos same, beq_iff_eq.2 same]
  · rw [if_neg same, beq_eq_false_iff_ne.2 same]

theorem weightOf_setMark (s : Resolution) (key other : String) (m : Mark) :
    (s.setMark key m).weightOf other = if other = key then m.weight? else s.weightOf other := by
  rw [weightOf, mark?_setMark]
  split
  · rfl
  · rfl

theorem Grows.setMark_new (m : Mark) (fresh : s.mark? key = none) : s.Grows (s.setMark key m) := by
  intro other m' mark
  rw [mark?_setMark]
  split
  · rename_i same
    rw [same, fresh] at mark
    cases mark
  · exact mark

theorem Grows.setMark_broken (unweighed : s.weightOf key = none) :
    s.Grows (s.setMark key .broken) := by
  intro other m mark
  rw [mark?_setMark]
  split
  · rename_i same
    rw [same] at mark
    rw [Resolution.weightOf, mark, Option.bind_some] at unweighed
    cases m <;> cases unweighed
    rfl
  · exact mark

theorem Sound.setMark (sound : s.Sound index) {m : Mark} (grows : s.Grows (s.setMark key m))
    (right : ∀ w, m.weight? = some w →
      1 ≤ w ∧ ∃ e, findEntry index key = some e ∧ e.weightBy s.weightOf = some w) :
    (s.setMark key m).Sound index := by
  refine ⟨fun other w weight => ?_, fun other w weight => ?_⟩
  · have weighed : ∃ e, findEntry index other = some e ∧ e.weightBy s.weightOf = some w := by
      rw [weightOf_setMark] at weight
      split at weight
      · rename_i same
        exact same ▸ (right w weight).2
      · exact sound.weighed other w weight
    obtain ⟨e, found, sum⟩ := weighed
    exact ⟨e, found, Entry.weightBy_mono (fun _ _ weight => grows.weightOf weight) sum⟩
  · rw [weightOf_setMark] at weight
    split at weight
    · exact (right w weight).1
    · exact sound.positive other w weight

theorem Sound.right_of_sum (sound : s.Sound index) {e : Entry} {w : Int}
    (found : findEntry index key = some e) (bound : ¬e.after.isEmpty = true)
    (sum : addUp s.weightOf e.after = some w) :
    1 ≤ w ∧ ∃ e, findEntry index key = some e ∧ e.weightBy s.weightOf = some w := by
  have weighs : e.weightBy s.weightOf = some w := by
    rw [Entry.weightBy, if_neg bound]
    exact sum
  exact ⟨(Entry.weightBy_lt sound.positive weighs).1, e, found, weighs⟩

theorem Clear.append (clear : s.Clear chain) (fresh : s.mark? key = none) :
    s.Clear (chain ++ [key]) := by
  intro other member
  rcases List.mem_append.1 member with member | member
  · exact clear other member
  · rw [List.mem_singleton.1 member, Resolution.weightOf, fresh]
    rfl

theorem Clear.setMark_broken (clear : s.Clear chain) (key : String) :
    (s.setMark key .broken).Clear chain := by
  intro other member
  rw [weightOf_setMark]
  split
  · rfl
  · exact clear other member

theorem Clear.setMark (clear : s.Clear chain) (off : key ∉ chain) (m : Mark) :
    (s.setMark key m).Clear chain := by
  intro other member
  have apart : other ≠ key := fun same => off (same ▸ member)
  rw [weightOf_setMark, if_neg apart]
  exact clear other member

theorem Keeps.breakMember (clear : s.Clear chain) (sound : s.Sound index) (member : key ∈ chain) :
    Keeps index chain s (s.setMark key .broken) := by
  have grows := Grows.setMark_broken (clear key member)
  exact ⟨grows, clear.setMark_broken key, sound.setMark grows nofun⟩

theorem Keeps.settle (clear : s.Clear chain) (off : key ∉ chain) (sound : s.Sound index)
    (fresh : s.mark? key = none) {m : Mark}
    (right : ∀ w, m.weight? = some w →
      1 ≤ w ∧ ∃ e, findEntry index key = some e ∧ e.weightBy s.weightOf = some w) :
    Keeps index chain s (s.setMark key m) := by
  have grows := Grows.setMark_new m fresh
  exact ⟨grows, clear.setMark off m, sound.setMark grows right⟩

theorem Keeps.markOnce (inner : Keeps index (chain ++ [key]) s s') (off : key ∉ chain) {m : Mark}
    (right : ∀ w, m.weight? = some w →
      1 ≤ w ∧ ∃ e, findEntry index key = some e ∧ e.weightBy s'.weightOf = some w) :
    Keeps index chain s (s'.markOnce key m) ∧ ((s'.markOnce key m).mark? key).isSome = true := by
  have clear : s'.Clear chain := fun other inside =>
    inner.clear other (List.mem_append_left _ inside)
  unfold Resolution.markOnce
  split
  · rename_i marked
    exact ⟨⟨inner.grows, clear, inner.sound⟩, marked⟩
  · rename_i fresh
    have settled := Keeps.settle clear off inner.sound (Option.not_isSome_iff_eq_none.1 fresh) right
    exact ⟨⟨inner.grows.trans settled.grows, settled.clear, settled.sound⟩, by
      rw [mark?_setMark, if_pos rfl]
      rfl⟩

theorem Keeps.breakAll (members : List String) (inside : ∀ m ∈ members, m ∈ chain)
    (clear : s.Clear chain) (sound : s.Sound index) (cycle : List String) :
    let broken := members.foldl
      (fun s member => (s.setMark member .broken).report (.cyclic member cycle)) s
    Keeps index chain s broken ∧ ∀ m ∈ members, broken.mark? m = some .broken := by
  induction members generalizing s with
  | nil => exact ⟨.refl clear sound, nofun⟩
  | cons first rest ih =>
      have one := (Keeps.breakMember clear sound (inside first List.mem_cons_self)).report
        (.cyclic first cycle)
      have others := ih (fun m member => inside m (List.mem_cons_of_mem _ member)) one.clear
        one.sound
      refine ⟨one.trans others.1, fun m member => ?_⟩
      rcases List.mem_cons.1 member with rfl | member
      · exact others.1.grows m _ (by rw [mark?_report, mark?_setMark, if_pos rfl])
      · exact others.2 m member

theorem dropWhile_of_mem {α : Type*} [BEq α] [LawfulBEq α] {l : List α} {b : α} (member : b ∈ l) :
    ∃ rest, l.dropWhile (· != b) = b :: rest := by
  induction l with
  | nil => cases member
  | cons first rest ih =>
      rw [List.dropWhile_cons]
      by_cases same : first = b
      · exact ⟨rest, by simp [same]⟩
      · rw [if_pos (by simpa using same)]
        exact ih ((List.mem_cons.1 member).resolve_left (Ne.symm same))

theorem breakCycle_keeps (clear : s.Clear chain) (sound : s.Sound index) (member : key ∈ chain) :
    Keeps index chain s (s.breakCycle chain key) ∧
      (s.breakCycle chain key).mark? key = some .broken := by
  have broken := Keeps.breakAll (chain.dropWhile (· != key))
    (fun m inside => (List.dropWhile_sublist _).subset inside) clear sound
    (chain.dropWhile (· != key) ++ [key])
  obtain ⟨rest, split⟩ := dropWhile_of_mem member
  exact ⟨broken.1, broken.2 key (split ▸ List.mem_cons_self)⟩

end Resolution

/-! ## The resolver -/

open Resolution

mutual

theorem resolve_spec (index : List Entry) (chain : List String) (key : String) (s : Resolution)
    (clear : s.Clear chain) (sound : s.Sound index) :
    Keeps index chain s (resolve index chain key s).2 ∧
      (resolve index chain key s).1 = (resolve index chain key s).2.weightOf key ∧
      ((findEntry index key).isSome = true →
        ((resolve index chain key s).2.mark? key).isSome = true) := by
  rw [resolve]
  split
  · rename_i mark known
    exact ⟨.refl clear sound, by simp [weightOf, known], fun _ => by simp [known]⟩
  · rename_i fresh
    split
    · rename_i onChain
      have broken := breakCycle_keeps clear sound (List.contains_iff_mem.1 onChain)
      exact ⟨broken.1, by simp [weightOf, broken.2, Mark.weight?], fun _ => by simp [broken.2]⟩
    · rename_i offChain
      split
      · rename_i missing
        exact ⟨.refl clear sound, by simp [weightOf, fresh],
          fun found => by simp [missing] at found⟩
      · rename_i entry found
        have off : key ∉ chain := fun member => offChain (List.contains_iff_mem.2 member)
        split
        · rename_i free
          refine ⟨Keeps.settle clear off sound fresh (fun w weight => ?_), ?_, fun _ => ?_⟩
          · cases weight
            exact ⟨by decide, entry, found, if_pos free⟩
          · rw [weightOf_setMark, if_pos rfl]
            rfl
          · rw [mark?_setMark, if_pos rfl]
            rfl
        · rename_i bound
          have inner := resolveAll_spec index (chain ++ [key]) key entry.after 0 false s
            (clear.append fresh) sound
          generalize resolveAll index (chain ++ [key]) key entry.after 0 false s = r at inner ⊢
          obtain ⟨weight, broken, s'⟩ := r
          have marked := inner.1.markOnce off (m := if broken then .broken else .resolved weight) ?_
          · exact ⟨marked.1, rfl, fun _ => marked.2⟩
          · intro w weighed
            cases broken with
            | true => cases weighed
            | false =>
                obtain ⟨-, total, sum, result⟩ := inner.2 rfl
                cases weighed
                have same : weight = total := result.trans (Int.zero_add total)
                subst same
                exact inner.1.sound.right_of_sum found bound sum
termination_by (offChain index chain, 0)
decreasing_by
  exact Prod.Lex.left _ _ (offChain_lt ‹_› (by simpa using ‹_›))

theorem resolveAll_spec (index : List Entry) (chain : List String) (key : String)
    (deps : List String) (weight : Int) (broken : Bool) (s : Resolution) (clear : s.Clear chain)
    (sound : s.Sound index) :
    Keeps index chain s (resolveAll index chain key deps weight broken s).2.2 ∧
      ((resolveAll index chain key deps weight broken s).2.1 = false →
        broken = false ∧ ∃ total,
          addUp (resolveAll index chain key deps weight broken s).2.2.weightOf deps = some total ∧
          (resolveAll index chain key deps weight broken s).1 = weight + total) := by
  cases deps with
  | nil =>
      rw [resolveAll]
      exact ⟨.refl clear sound, fun whole => ⟨whole, 0, rfl, by simp⟩⟩
  | cons dep rest =>
      rw [resolveAll]
      split
      · rename_i phase tag
        have later :=
          resolveAll_spec index chain key rest (weight + phase.weight) broken s clear sound
        refine ⟨later.1, fun whole => ?_⟩
        obtain ⟨intact, total, sum, result⟩ := later.2 whole
        refine ⟨intact, phase.weight + total, ?_, by rw [result]; omega⟩
        rw [addUp, tag]
        simp only [sum, Option.map_some]
      · rename_i tag
        split
        · have told := (Keeps.refl clear sound).report (.unknownDependency key dep)
          have later := resolveAll_spec index chain key rest weight true _ told.clear told.sound
          exact ⟨told.trans later.1, fun whole => absurd (later.2 whole).1 (by simp)⟩
        · have one := resolve_spec index chain dep s clear sound
          split
          · rename_i w s' resolved
            rw [resolved] at one
            have later := resolveAll_spec index chain key rest (weight + (w + 1)) broken s'
              one.1.clear one.1.sound
            refine ⟨one.1.trans later.1, fun whole => ?_⟩
            obtain ⟨intact, total, sum, result⟩ := later.2 whole
            refine ⟨intact, w + 1 + total, ?_, by rw [result]; omega⟩
            rw [addUp, tag]
            simp only [later.1.grows.weightOf one.2.1.symm, sum, Option.bind_some, Option.map_some]
          · rename_i s' resolved
            rw [resolved] at one
            have kept := one.1.reportUnless (s'.mark? key = some .broken)
              (.brokenDependency key dep)
            have later := resolveAll_spec index chain key rest weight true _ kept.clear kept.sound
            exact ⟨kept.trans later.1, fun whole => absurd (later.2 whole).1 (by simp)⟩
termination_by (offChain index chain, deps.length + 1)

end

/-! ## The index -/

theorem indexEntries_distinct (entries : List Entry) :
    ((indexEntries entries).1.map (·.key)).Nodup := by
  -- The induction is on the entries still to be added, to any index without doubles.
  have fold : ∀ (entries : List Entry) (r : List Entry × List BootError),
      (r.1.map (·.key)).Nodup → ((entries.foldl indexEntries.add r).1.map (·.key)).Nodup := by
    intro entries
    induction entries with
    | nil => exact fun r distinct => distinct
    | cons e rest ih =>
        intro ⟨index, errors⟩ distinct
        refine ih _ ?_
        simp only [indexEntries.add]
        split
        · exact distinct
        · split
          · exact distinct
          · rename_i missing
            have absent := List.find?_eq_none.1 (Option.not_isSome_iff_eq_none.1 missing)
            rw [List.map_append, List.nodup_append]
            refine ⟨distinct, List.nodup_singleton _, fun key listed other new same => ?_⟩
            obtain ⟨x, member, rfl⟩ := List.mem_map.1 listed
            rw [List.map_singleton, List.mem_singleton] at new
            exact absent x member (by simpa using same.trans new)
  exact fold entries ([], []) List.nodup_nil

theorem findEntry_of_mem {index : List Entry} (distinct : (index.map (·.key)).Nodup) {e : Entry}
    (member : e ∈ index) : findEntry index e.key = some e := by
  have known : (findEntry index e.key).isSome = true :=
    List.find?_isSome.2 ⟨e, member, by simp⟩
  obtain ⟨other, found⟩ := Option.isSome_iff_exists.1 known
  have same : other.key = e.key := by simpa using List.find?_some found
  rw [found, List.inj_on_of_nodup_map distinct (List.mem_of_find?_eq_some found) member same]

theorem findEntry_some {index : List Entry} {key : String} {e : Entry}
    (found : findEntry index key = some e) : e ∈ index ∧ e.key = key :=
  ⟨List.mem_of_find?_eq_some found, by simpa using List.find?_some found⟩

theorem resolveEntries_spec {index : List Entry} (distinct : (index.map (·.key)).Nodup)
    {roots : List Entry} (inside : ∀ e ∈ roots, e ∈ index) {s : Resolution}
    (sound : s.Sound index) :
    Keeps index [] s (resolveEntries index roots s).2 ∧
      ∀ w e, (w, e) ∈ (resolveEntries index roots s).1 ↔
        e ∈ roots ∧ (resolveEntries index roots s).2.weightOf e.key = some w := by
  induction roots generalizing s with
  | nil => exact ⟨.refl nofun sound, by simp [resolveEntries]⟩
  | cons root rest ih =>
      have one := resolve_spec index [] root.key s nofun sound
      have later := ih (fun e member => inside e (List.mem_cons_of_mem _ member)) one.1.sound
      have marked := one.2.2 (by
        rw [findEntry_of_mem distinct (inside root List.mem_cons_self)]
        rfl)
      rw [resolveEntries]
      generalize resolve index [] root.key s = r at one later marked ⊢
      obtain ⟨weight, s'⟩ := r
      obtain ⟨keeps, result, -⟩ := one
      simp only at keeps result later marked ⊢
      generalize resolveEntries index rest s' = r at later ⊢
      obtain ⟨found, last⟩ := r
      simp only at later ⊢
      -- The mark of the root is the last word on it.
      have final : last.weightOf root.key = weight := by
        obtain ⟨mark, marked⟩ := Option.isSome_iff_exists.1 marked
        rw [result, weightOf, weightOf, later.1.grows _ _ marked, marked]
      refine ⟨keeps.trans later.1, fun w e => ?_⟩
      cases weight with
      | none =>
          rw [later.2]
          refine ⟨fun ⟨member, known⟩ => ⟨List.mem_cons_of_mem _ member, known⟩, ?_⟩
          rintro ⟨member, known⟩
          rcases List.mem_cons.1 member with rfl | member
          · cases known.symm.trans final
          · exact ⟨member, known⟩
      | some v =>
          simp only [List.mem_cons, Prod.mk.injEq, later.2]
          constructor
          · rintro (⟨rfl, rfl⟩ | ⟨member, known⟩)
            · exact ⟨.inl rfl, final⟩
            · exact ⟨.inr member, known⟩
          · rintro ⟨rfl | member, known⟩
            · exact .inl ⟨Option.some.inj (known.symm.trans final), rfl⟩
            · exact .inr ⟨member, known⟩

/-! ## The tree -/

namespace Tree

theorem ofEntries_resolution (batch : List Entry) :
    ∃ index s, (index.map (·.key)).Nodup ∧ Sound index s ∧
      ∀ w e, (w, e) ∈ (ofEntries batch).1.entries ↔ e ∈ index ∧ s.weightOf e.key = some w := by
  have distinct := indexEntries_distinct batch
  have spec := resolveEntries_spec distinct (fun e member => member)
    (Sound.empty (indexEntries batch).2)
  refine ⟨_, _, distinct, spec.1.sound, fun w e => ?_⟩
  rw [← spec.2]
  exact List.mem_mergeSort

variable {batch : List Entry} {key : String} {w w' : Int} {e e' : Entry}

theorem weight?_some {t : Tree} (weight : t.weight? key = some w) :
    ∃ e, (w, e) ∈ t.entries ∧ e.key = key := by
  obtain ⟨⟨w, e⟩, found, rfl⟩ := Option.map_eq_some_iff.1 weight
  exact ⟨e, List.mem_of_find?_eq_some found, by simpa using List.find?_some found⟩

theorem entry_unique (member : (w, e) ∈ (ofEntries batch).1.entries)
    (member' : (w', e') ∈ (ofEntries batch).1.entries) (same : e.key = e'.key) :
    w = w' ∧ e = e' := by
  obtain ⟨index, s, distinct, -, mem_iff⟩ := ofEntries_resolution batch
  rw [mem_iff] at member member'
  have one := List.inj_on_of_nodup_map distinct member.1 member'.1 same
  subst one
  exact ⟨Option.some.inj (member.2.symm.trans member'.2), rfl⟩

theorem weight?_of_mem (member : (w, e) ∈ (ofEntries batch).1.entries) :
    (ofEntries batch).1.weight? e.key = some w := by
  have known : ((ofEntries batch).1.entries.find? fun x => x.2.key == e.key).isSome = true :=
    List.find?_isSome.2 ⟨_, member, by simp⟩
  obtain ⟨⟨w', e'⟩, found⟩ := Option.isSome_iff_exists.1 known
  have same : e'.key = e.key := by simpa using List.find?_some found
  obtain ⟨rfl, -⟩ := entry_unique (List.mem_of_find?_eq_some found) member same
  rw [weight?, found, Option.map_some]

theorem weighs (member : (w, e) ∈ (ofEntries batch).1.entries) :
    1 ≤ w ∧ e.weightBy (ofEntries batch).1.weight? = some w := by
  obtain ⟨index, s, distinct, sound, mem_iff⟩ := ofEntries_resolution batch
  have same : ∀ key w, s.weightOf key = some w → (ofEntries batch).1.weight? key = some w := by
    intro key w known
    obtain ⟨e, found, -⟩ := sound.weighed key w known
    obtain ⟨inside, rfl⟩ := findEntry_some found
    exact weight?_of_mem ((mem_iff w e).2 ⟨inside, known⟩)
  obtain ⟨inside, known⟩ := (mem_iff w e).1 member
  obtain ⟨other, found, sum⟩ := sound.weighed e.key w known
  rw [findEntry_of_mem distinct inside] at found
  cases found
  exact ⟨sound.positive e.key w known, Entry.weightBy_mono same sum⟩

theorem weight?_pos (weight : (ofEntries batch).1.weight? key = some w) : 1 ≤ w := by
  obtain ⟨e, member, -⟩ := weight?_some weight
  exact (weighs member).1

theorem dependency_lt (member : (w, e) ∈ (ofEntries batch).1.entries) {dep : String}
    (needed : dep ∈ e.dependencies) :
    ∃ w', (ofEntries batch).1.weight? dep = some w' ∧ w' < w := by
  obtain ⟨after, untagged⟩ := List.mem_filter.1 needed
  exact (Entry.weightBy_lt (fun _ _ => weight?_pos) (weighs member).2).2 dep after
    (Option.isNone_iff_eq_none.1 untagged)

/-! ## Weights in words -/

theorem word_of_fits (positive : 1 ≤ w) (fits : w ≤ Int64.maxValue.toInt) : word w = w := by
  rw [Int64.toInt_maxValue] at fits
  exact Int64.toInt_ofInt_of_le (by omega) (by omega)

theorem inWords_eq_ofEntries
    (fits : ∀ w e, (w, e) ∈ (ofEntries batch).1.entries → w ≤ Int64.maxValue.toInt) :
    inWords batch = (ofEntries batch).1 := by
  let found := (resolveEntries (indexEntries batch).1 (indexEntries batch).1
    ⟨[], (indexEntries batch).2⟩).1
  have kept : found.map (fun x => (word x.1, x.2)) = found := by
    refine (List.map_congr_left ?_).trans (List.map_id' found)
    rintro ⟨w, e⟩ resolved
    have member : (w, e) ∈ (ofEntries batch).1.entries := List.mem_mergeSort.2 resolved
    rw [word_of_fits (weighs member).1 (fits w e member)]
  exact congrArg (fun l => Tree.mk (l.mergeSort fun a b => a.1 ≤ b.1)) kept

theorem BuiltFrom.of_fits
    (fits : ∀ w e, (w, e) ∈ (ofEntries batch).1.entries → w ≤ Int64.maxValue.toInt) :
    (ofEntries batch).1.BuiltFrom batch :=
  ⟨(inWords_eq_ofEntries fits).symm, fits⟩

theorem BuiltFrom.eq_ofEntries {t : Tree} (built : t.BuiltFrom batch) : t = (ofEntries batch).1 :=
  built.eq_inWords.trans (inWords_eq_ofEntries built.fits)

/-! ## Cohorts -/

def cohortOf (w : Int) : Nat :=
  if w < Phase.net.weight then 0 else if w < Phase.boot.weight then 1 else 2

theorem cohortOf_mono (le : w' ≤ w) : cohortOf w' ≤ cohortOf w := by
  unfold cohortOf
  repeat' split
  all_goals omega

theorem mem_slice {t : Tree} {low : Int} {high : Option Int} :
    e ∈ t.slice low high ↔ ∃ w, (w, e) ∈ t.entries ∧ low ≤ w ∧ high.all (w < ·) = true := by
  simp only [slice, List.mem_map, List.mem_filter, Bool.and_eq_true, decide_eq_true_eq]
  constructor
  · rintro ⟨⟨w, _⟩, ⟨member, inside⟩, rfl⟩
    exact ⟨w, member, inside⟩
  · rintro ⟨w, member, inside⟩
    exact ⟨(w, e), ⟨member, inside⟩, rfl⟩

theorem mem_cohort {k : Nat} {es : List Entry}
    (cohort : (ofEntries batch).1.cohorts[k]? = some es) :
    e ∈ es ↔ ∃ w, (w, e) ∈ (ofEntries batch).1.entries ∧ cohortOf w = k := by
  have bounds : ∃ low high, es = (ofEntries batch).1.slice low high ∧
      ∀ w : Int, 1 ≤ w → (low ≤ w ∧ high.all (w < ·) = true ↔ cohortOf w = k) := by
    match k, cohort with
    | 0, rfl => exact ⟨_, _, rfl, fun w positive => by grind [cohortOf, Phase.weight]⟩
    | 1, rfl => exact ⟨_, _, rfl, fun w positive => by grind [cohortOf, Phase.weight]⟩
    | 2, rfl => exact ⟨_, _, rfl, fun w positive => by grind [cohortOf, Phase.weight]⟩
  obtain ⟨low, high, rfl, bounds⟩ := bounds
  rw [mem_slice]
  constructor
  · rintro ⟨w, member, inside⟩
    exact ⟨w, member, (bounds w (weighs member).1).1 inside⟩
  · rintro ⟨w, member, rfl⟩
    exact ⟨w, member, (bounds w (weighs member).1).2 rfl⟩

theorem exists_cohort (member : (w, e) ∈ (ofEntries batch).1.entries) :
    ∃ es, (ofEntries batch).1.cohorts[cohortOf w]? = some es ∧ e ∈ es := by
  have bound : cohortOf w < (ofEntries batch).1.cohorts.length := by
    unfold cohortOf cohorts
    repeat' split
    all_goals simp
  exact ⟨_, List.getElem?_eq_getElem bound,
    (mem_cohort (List.getElem?_eq_getElem bound)).2 ⟨w, member, rfl⟩⟩

theorem dependency_cohort {k : Nat} {es : List Entry}
    (cohort : (ofEntries batch).1.cohorts[k]? = some es) (member : e ∈ es)
    (needed : e'.key ∈ e.dependencies) (listed : e' ∈ (ofEntries batch).1.services) :
    ∃ k' es', k' ≤ k ∧ (ofEntries batch).1.cohorts[k']? = some es' ∧ e' ∈ es' := by
  obtain ⟨w, inside, rfl⟩ := (mem_cohort cohort).1 member
  obtain ⟨⟨w', _⟩, inside', rfl⟩ := List.mem_map.1 listed
  obtain ⟨w'', weight, less⟩ := dependency_lt inside needed
  cases (weight?_of_mem inside').symm.trans weight
  obtain ⟨es', cohort', member'⟩ := exists_cohort inside'
  exact ⟨_, es', cohortOf_mono (Int.le_of_lt less), cohort', member'⟩

end Tree

end Overseer.Boot
