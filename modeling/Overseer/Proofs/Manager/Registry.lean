import Overseer.Proofs.Manager.Move

/-!
# The registry

A job is in the registry from its start until its runner leaves, and the jobs of the registry have
different ids.
-/

namespace Overseer.Manager

section
variable {α : Type} {runners : List Runner} {i : Nat} {r next : Runner}

theorem map_set_eq {f : Runner → α} (found : runners[i]? = some r) (same : f next = f r) :
    (runners.set i next).map f = runners.map f := by
  obtain ⟨bound, rfl⟩ := List.getElem?_eq_some_iff.1 found
  rw [List.map_set, same, ← List.getElem_map f (h := by simpa using bound), List.set_getElem_self]

theorem map_askToEnd {f : Runner → α} (same : ∀ r killed, f { r with killed } = f r)
    (asked : Nat → Bool) (runners : List Runner) :
    (askToEnd asked runners).map f = runners.map f := by
  unfold askToEnd
  induction runners generalizing asked with
  | nil => rfl
  | cons r rest ih =>
      rw [List.mapIdx_cons, List.map_cons, List.map_cons, same]
      exact congrArg _ (ih fun i => asked (i + 1))

end

namespace System

def roll (s : System) : List (String × Bool) :=
  s.runners.map fun r => (r.command.id, r.phase.hasLeft)

structure Enlisted (s : System) : Prop where
  mem_iff : ∀ id i, (id, i) ∈ s.registry ↔ s.roll[i]? = some (id, false)
  distinct : (s.registry.map Prod.fst).Nodup

theorem getElem?_roll (s : System) (i : Nat) :
    s.roll[i]? = s.runners[i]?.map fun r => (r.command.id, r.phase.hasLeft) := by
  rw [roll, List.getElem?_map]

variable {config : Config} {dawn : Int} {s next : System}

theorem Enlisted.found (enlisted : s.Enlisted) {id : String} {i : Nat}
    (member : (id, i) ∈ s.registry) :
    ∃ r, s.runners[i]? = some r ∧ r.command.id = id ∧ r.phase.hasLeft = false := by
  have listed := (enlisted.mem_iff id i).1 member
  rw [getElem?_roll, Option.map_eq_some_iff] at listed
  obtain ⟨r, found, standing⟩ := listed
  exact ⟨r, found, congrArg Prod.fst standing, congrArg Prod.snd standing⟩

theorem Enlisted.listed (enlisted : s.Enlisted) {i : Nat} {r : Runner}
    (found : s.runners[i]? = some r) (staying : r.phase.hasLeft = false) :
    (r.command.id, i) ∈ s.registry := by
  rw [enlisted.mem_iff, getElem?_roll, found, Option.map_some, staying]

theorem Enlisted.index_eq (enlisted : s.Enlisted) {id : String} {i j : Nat}
    (one : (id, i) ∈ s.registry) (other : (id, j) ∈ s.registry) : i = j := by
  have same := List.inj_on_of_nodup_map enlisted.distinct one other rfl
  exact congrArg Prod.snd same

/-! ## What keeps it -/

theorem Enlisted.congr (enlisted : s.Enlisted) (registry : next.registry = s.registry)
    (roll : next.roll = s.roll) : next.Enlisted :=
  ⟨by rw [registry, roll]; exact enlisted.mem_iff, by rw [registry]; exact enlisted.distinct⟩

theorem Enlisted.join (enlisted : s.Enlisted) {c : Command} {factory : Nat} {hooks : List Hook}
    {origin : Runner.Origin} (free : s.registry.lookup c.id = none) :
    (s.join c factory hooks origin).Enlisted := by
  have roll : (s.join c factory hooks origin).roll = s.roll ++ [(c.id, false)] := by
    simp [System.roll, System.join, Runner.new, Runner.Phase.hasLeft]
  have length : s.roll.length = s.runners.length := List.length_map _
  refine ⟨fun id i => ?_, ?_⟩
  · rw [roll, List.getElem?_append, length]
    show (id, i) ∈ (c.id, s.runners.length) :: s.registry ↔ _
    rw [List.mem_cons, Prod.mk.injEq, enlisted.mem_iff]
    by_cases below : i < s.runners.length
    · rw [if_pos below]
      have other : i ≠ s.runners.length := Nat.ne_of_lt below
      simp [other]
    · have beyond : s.roll[i]? = none := List.getElem?_eq_none (by omega)
      rw [if_neg below, beyond]
      by_cases last : i = s.runners.length
      · simp [last, eq_comm]
      · have beyond : [(c.id, false)][i - s.runners.length]? = none :=
          List.getElem?_eq_none (by simp; omega)
        simp [last, beyond]
  · show (c.id :: s.registry.map Prod.fst).Nodup
    refine List.nodup_cons.2 ⟨fun member => ?_, enlisted.distinct⟩
    obtain ⟨⟨id, i⟩, listed, rfl⟩ := List.mem_map.1 member
    exact absurd (List.lookup_eq_none_iff.1 free _ listed) (by simp)

theorem Enlisted.leave (enlisted : s.Enlisted) {i : Nat} {r r' : Runner}
    (found : s.runners[i]? = some r) (staying : r.phase.hasLeft = false)
    (left : r'.phase.hasLeft = true) :
    { s with
      runners := s.runners.set i r'
      registry := s.registry.filter fun job => job.1 != r.command.id }.Enlisted := by
  have listed := enlisted.listed found staying
  have bound : i < s.runners.length := (List.getElem?_eq_some_iff.1 found).1
  refine ⟨fun id j => ?_, ?_⟩
  · rw [List.mem_filter, getElem?_roll, List.getElem?_set]
    by_cases same_index : i = j
    · -- The job that leaves: all of its id go, and it was the only one.
      subst same_index
      have gone : (id, i) ∈ s.registry → id = r.command.id := fun member => by
        obtain ⟨job, found', rfl, -⟩ := enlisted.found member
        rw [Option.some.inj (found'.symm.trans found)]
      simp only [if_true, bound, Option.map_some, left]
      simpa using gone
    · rw [if_neg same_index, ← getElem?_roll, ← enlisted.mem_iff]
      have stays : (id, j) ∈ s.registry → id ≠ r.command.id := fun member same_id =>
        same_index (enlisted.index_eq listed (same_id ▸ member))
      simpa using stays
  · exact enlisted.distinct.sublist (List.filter_sublist.map _)

theorem Enlisted.length_leave (enlisted : s.Enlisted) {id : String} {i : Nat}
    (listed : (id, i) ∈ s.registry) :
    (s.registry.filter fun job => job.1 != id).length + 1 = s.live := by
  have once : s.registry.countP (fun job => job.1 == id) = 1 := by
    have once := List.count_eq_one_of_mem enlisted.distinct (List.mem_map.2 ⟨_, listed, rfl⟩)
    rwa [List.count_eq_countP, List.countP_map] at once
  have parts := List.length_eq_countP_add_countP (fun job : String × Nat => job.1 == id)
    (l := s.registry)
  have others : s.registry.countP (fun job => job.1 != id) =
      s.registry.countP fun job => ¬(job.1 == id) :=
    List.countP_congr fun job _ => by simp
  rw [← List.countP_eq_length_filter, live, others]
  omega

theorem Move.enlisted {act : Action} (move : Move s act next) (enlisted : s.Enlisted) :
    next.Enlisted := by
  cases move with
  | run direct known free => exact (enlisted.join free).congr rfl rfl
  | enroll holding known free => exact (enlisted.join free).congr rfl rfl
  | @leave i r result found phase =>
      exact enlisted.leave found (by rw [phase]; rfl) rfl
  | kill => exact enlisted.congr rfl (map_askToEnd (fun _ _ => rfl) _ _)
  | @work i r r' act effects slices log found rule staying =>
      refine enlisted.congr rfl (map_set_eq found ?_)
      rw [rule.command_eq, (rule.standing_eq staying).1]
  | release found phase | awaken found phase | publish found phase =>
      exact enlisted.congr rfl (map_set_eq found (by rw [phase]; rfl))
  | _ => exact enlisted.congr rfl rfl

theorem enlisted (reach : Reachable config dawn s) : s.Enlisted := by
  induction reach with
  | new => exact ⟨by simp [System.new, roll], List.nodup_nil⟩
  | next _ step ih => exact (move_of_step step).enlisted ih

end System

end Overseer.Manager
