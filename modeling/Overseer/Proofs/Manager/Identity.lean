import Overseer.Proofs.Manager.Chronicle
import Overseer.Proofs.Manager.Registry

/-!
# One running job for an id

Jobs are started by who runs a command, by the boots and by the admission, in any order with the
ends of other jobs. The registry stays exact through all of this: it knows every runner that has not
left by its id, and a command is refused as a duplicate exactly when it would make two of them.
-/

namespace Overseer.Manager.System

def submits? (s : System) : Action → Option Command
  | .enroll =>
      match s.admission with
      | .holding c _ => some c
      | _ => none
  | act => s.direct? act

def Runs (s : System) (i : Nat) (id : String) : Prop :=
  ∃ r, s.runners[i]? = some r ∧ r.command.id = id ∧ r.phase.hasLeft = false

variable {config : Config} {dawn : Int} {s next : System} {act : Action} {c : Command} {i : Nat}
  {id : String}

/-! ## The registry and the runners -/

theorem Enlisted.mem_iff_runs (enlisted : s.Enlisted) : (id, i) ∈ s.registry ↔ s.Runs i id := by
  constructor
  · exact enlisted.found
  · rintro ⟨r, found, rfl, staying⟩
    exact enlisted.listed found staying

theorem Enlisted.lookup_eq_some_iff (enlisted : s.Enlisted) :
    s.registry.lookup id = some i ↔ s.Runs i id := by
  rw [← enlisted.mem_iff_runs]
  constructor
  · intro found
    obtain ⟨before, after, split, -⟩ := List.lookup_eq_some_iff.1 found
    simp [split]
  · intro member
    cases found : s.registry.lookup id with
    | none => simpa using List.lookup_eq_none_iff.1 found _ member
    | some j =>
        obtain ⟨before, after, split, -⟩ := List.lookup_eq_some_iff.1 found
        have other : (id, j) ∈ s.registry := by simp [split]
        rw [enlisted.index_eq other member]

theorem Enlisted.refusal?_duplicate (enlisted : s.Enlisted) (c : Command) :
    s.refusal? c = some .duplicateId ↔
      (s.factories.lookup c.command).isSome = true ∧ ∃ i, s.Runs i c.id := by
  have taken : (s.registry.lookup c.id).isSome = true ↔ ∃ i, s.Runs i c.id := by
    rw [Option.isSome_iff_exists]
    exact exists_congr fun i => enlisted.lookup_eq_some_iff
  rw [← taken]
  unfold refusal?
  cases s.factories.lookup c.command with
  | none => simp
  | some factory => cases s.registry.lookup c.id <;> simp

/-! ## What a submission is told -/

theorem announcement_inj {routes : List String} {c : Command} {r r' : JobResult}
    (same : announcement routes c r = announcement routes c r') : r = r' :=
  Event.result.inj (List.cons.inj same).1

theorem calls_of_submission (submits : s.submits? act = some c) (step : s.step? act = some next) :
    next.calls = s.calls ++ announcement s.routes c (.new c .duplicateId) ↔
      s.refusal? c = some .duplicateId := by
  -- The handlers hear of the submission why it is refused, and nothing if it is not.
  have heard : (s.refusal? c = none ∧ next.calls = s.calls) ∨
      ∃ state, s.refusal? c = some state ∧
        next.calls = s.calls ++ announcement s.routes c (.new c state) := by
    by_cases admitted : act = .enroll
    · subst admitted
      simp only [submits?] at submits
      split at submits
      · rename_i c' origin holding
        cases submits
        rcases step_of_enroll holding step with
          ⟨fits, factory, rfl⟩ | ⟨state, log, refused, -, told⟩
        · exact .inl ⟨fits, rfl⟩
        · exact .inr ⟨state, refused, told⟩
      · cases submits
    · have direct : s.direct? act = some c := by
        unfold submits? at submits
        split at submits
        · exact absurd rfl admitted
        · exact submits
      rcases step_of_direct direct step with
        ⟨fits, factory, hooks, slices, rfl⟩ | ⟨state, slices, log, refused, -, told⟩
      · exact .inl ⟨fits, rfl⟩
      · exact .inr ⟨state, refused, told⟩
  rcases heard with ⟨fits, told⟩ | ⟨state, refused, told⟩
  · rw [fits, told]
    simp [announcement]
  · rw [refused, told, List.append_cancel_left_eq, Option.some.injEq]
    constructor
    · intro same
      exact congrArg JobResult.state (announcement_inj same)
    · intro same
      rw [same]

theorem run_duplicate (s : System) (c : Command) (hooks : List Hook) :
    (s.run c hooks).2 = .error (.duplicateId c.id) ↔ s.refusal? c = some .duplicateId := by
  unfold run spawn refusal?
  cases s.factories.lookup c.command with
  | none => simp
  | some factory => cases s.registry.lookup c.id <;> simp

/-! ## Who leaves the registry -/

theorem Enlisted.leaves_iff (enlisted : s.Enlisted) (step : s.step? act = some next)
    (member : (id, i) ∈ s.registry) :
    (id, i) ∉ next.registry ↔
      act = .runner i .farewell ∧
        ∃ r result, s.runners[i]? = some r ∧ r.phase = .closing result .leave := by
  constructor
  · intro gone
    cases move_of_step step with
    | @leave j r result found phase =>
        have own : id = r.command.id := by
          simpa [member] using gone
        have listed := enlisted.listed found (by rw [phase]; rfl)
        rw [← own] at listed
        cases enlisted.index_eq member listed
        exact ⟨rfl, r, result, found, phase⟩
    | run | enroll => exact absurd (List.mem_cons_of_mem _ member) gone
    | _ => exact absurd member gone
  · rintro ⟨rfl, r, result, found, phase⟩ stays
    obtain ⟨r', found', rfl, -⟩ := enlisted.found member
    cases found.symm.trans found'
    have left : s.step? (.runner i .farewell) =
        some { s with
          runners := s.runners.set i { r with phase := .closing result .release }
          registry := s.registry.filter fun job => job.1 != r.command.id } := by
      have farewell : r.step? s.config s.clock .farewell = some _ :=
        Runner.step?_eq_some_iff.2 (.farewell phase)
      simp only [step?, stepRunner?, found, farewell]
      rfl
    cases left.symm.trans step
    simp at stays

theorem told_of_published (reach : Reachable config dawn s) {r : Runner} {result : JobResult}
    (found : s.runners[i]? = some r) (published : r.published? = some result) :
    ∃ before routes, routes <+: s.routes ∧
      s.eventsOf i = before ++ announcement routes r.command result ∧
      ∀ e ∈ before, e.isCall = false := by
  obtain ⟨past, routes, history, part, told⟩ := (chronicle reach i).2 r found
  obtain ⟨before, split, quiet⟩ := history.trace_eq
  have finale : r.phase.finale = [.result result, .left, .released, .woke] := by
    rw [Runner.phase_of_published published]
    rfl
  refine ⟨_, routes, part, ?_, Event.ofEffects_quiet quiet routes r.command⟩
  rw [told, split, finale, Event.ofEffects_append]
  simp [Event.ofEffects, Event.ofEffect]

/-! ## The registry is exact -/

/-- In every reachable state the runners that have not left have different ids, and the registry
knows each of them by its id. A submission is refused as a duplicate when its kind is known and a
job of its id has not left. A runner takes its own entry out of the registry and no other; when its
result is published, the entry is gone and the handlers have been told. -/
theorem registry_exact (reach : Reachable config dawn s) :
    (∀ i j id, s.Runs i id → s.Runs j id → i = j) ∧
    (∀ id i, s.registry.lookup id = some i ↔ s.Runs i id) ∧
    (∀ act c next, s.submits? act = some c → s.step? act = some next →
      (next.calls = s.calls ++ announcement s.routes c (.new c .duplicateId) ↔
        (s.factories.lookup c.command).isSome = true ∧ ∃ i, s.Runs i c.id)) ∧
    (∀ c hooks, (s.run c hooks).2 = .error (.duplicateId c.id) ↔
      (s.factories.lookup c.command).isSome = true ∧ ∃ i, s.Runs i c.id) ∧
    (∀ act next id i, s.step? act = some next → (id, i) ∈ s.registry →
      ((id, i) ∉ next.registry ↔ act = .runner i .farewell ∧
        ∃ r result, s.runners[i]? = some r ∧ r.phase = .closing result .leave)) ∧
    ∀ i r result, s.runners[i]? = some r → r.published? = some result →
      (∀ id, (id, i) ∉ s.registry) ∧
      ∃ before routes, routes <+: s.routes ∧
        s.eventsOf i = before ++ announcement routes r.command result ∧
        ∀ e ∈ before, e.isCall = false := by
  have exact := enlisted reach
  refine ⟨fun i j id one other => ?_, fun id i => exact.lookup_eq_some_iff,
    fun act c next submits step => ?_, fun c hooks => ?_,
    fun act next id i step member => exact.leaves_iff step member, fun i r result found published =>
      ⟨fun id member => ?_, told_of_published reach found published⟩⟩
  · exact exact.index_eq (exact.mem_iff_runs.2 one) (exact.mem_iff_runs.2 other)
  · rw [calls_of_submission submits step, exact.refusal?_duplicate]
  · rw [run_duplicate, exact.refusal?_duplicate]
  · obtain ⟨r', found', -, staying⟩ := exact.found member
    cases found.symm.trans found'
    rw [Runner.phase_of_published published] at staying
    cases staying

def succession : List Action :=
  [.call (.register "test" 0), .call (.run (.new "job" "test") []),
    .runner 0 (.launch ⟨[], some "no"⟩), .runner 0 .collect, .runner 0 .report,
    .runner 0 .farewell, .call (.run (.new "job" "test") []), .runner 0 .farewell,
    .runner 0 .farewell, .runner 0 .farewell]

theorem registry_exact_succession :
    ∃ s result, (System.new .default 0).after? succession = some s ∧
      s.registry.lookup "job" = some 1 ∧
      (s.run (.new "job" "test") []).2 = .error (.duplicateId "job") ∧
      s.runners[0]?.bind Runner.published? = some result ∧ ∀ id, (id, 0) ∉ s.registry := by
  have run : (System.new .default 0).after? succession = some _ := rfl
  obtain ⟨-, known, -, duplicate, -, done⟩ := registry_exact (reachable_after .new run)
  refine ⟨_, _, run, (known "job" 1).2 ⟨_, rfl, rfl, rfl⟩,
    (duplicate _ _).2 ⟨rfl, 1, _, rfl, rfl, rfl⟩, rfl, ?_⟩
  exact (done 0 _ _ rfl rfl).1

end Overseer.Manager.System
