import Overseer.Proofs.Manager.Capacity
import Overseer.Proofs.Manager.Handlers
import Overseer.Proofs.Runner.Trace

/-!
# What the manager notices of a runner

Whatever else goes on, every runner of a manager has a history of its own, as if it ran alone, and
what the log says of it is what the effects of this history make others notice.
-/

namespace Overseer.Manager

def Event.ofEffect (routes : List String) (c : Command) : Runner.Effect → List Event
  | .launched => [.launched]
  | .terminated => [.terminated]
  | .fired index hook f => if hook.flag.isSome then [] else [.fired index f]
  | .message m => [.message m]
  | .flushed s => [.flushed s]
  | .result r => announcement routes c r
  | .left | .released | .woke => []

def Event.ofEffects (routes : List String) (c : Command) (effects : List Runner.Effect) :
    List Event :=
  effects.flatMap (Event.ofEffect routes c)

theorem Event.ofEffects_append (routes : List String) (c : Command)
    (first second : List Runner.Effect) :
    Event.ofEffects routes c (first ++ second) =
      Event.ofEffects routes c first ++ Event.ofEffects routes c second :=
  List.flatMap_append

theorem Event.ofEffects_routes {effects : List Runner.Effect}
    (silent : ∀ e ∈ effects, ∀ result, e ≠ .result result) (routes routes' : List String)
    (c : Command) : Event.ofEffects routes c effects = Event.ofEffects routes' c effects := by
  apply List.flatMap_congr
  intro e member
  cases e with
  | result r => exact absurd rfl (silent _ member r)
  | _ => rfl

theorem Event.ofEffects_quiet {effects : List Runner.Effect}
    (quiet : ∀ e ∈ effects, e.isQuiet = true) (routes : List String) (c : Command) :
    ∀ e ∈ Event.ofEffects routes c effects, e.isCall = false := by
  intro event member
  obtain ⟨e, known, member⟩ := List.mem_flatMap.1 member
  have inner := quiet e known
  cases e with
  | fired index hook f =>
      simp only [Event.ofEffect] at member
      split at member
      · cases member
      · rw [List.mem_singleton.1 member]
        rfl
  | launched | terminated | message | flushed =>
      rw [List.mem_singleton.1 member]
      rfl
  | result | left | released | woke => cases inner

namespace System

def eventsOf (s : System) (i : Nat) : List Event :=
  ((s.log.filter fun e => e.runner == some i).map LogEntry.event).reverse

variable {config : Config} {dawn : Int} {s next : System} {act : Action} {i : Nat}

/-! ## What is written to the log -/

theorem eventsOf_note (s : System) (id : String) (runner : Option Nat) (e : Event) (i : Nat) :
    (s.note id runner e).eventsOf i = s.eventsOf i ++ if runner = some i then [e] else [] := by
  by_cases own : runner = some i <;> simp [eventsOf, note, own]

theorem eventsOf_report (s : System) (c : Command) (runner : Option Nat) (r : JobResult) (i : Nat) :
    (s.report c runner r).eventsOf i =
      s.eventsOf i ++ if runner = some i then announcement s.routes c r else [] := by
  have routed : ∀ (routes : List String) (s : System),
      (routes.foldl (fun s route => s.note c.id runner (.routed route r)) s).eventsOf i =
        s.eventsOf i ++
          if runner = some i then routes.map fun route => .routed route r else [] := by
    intro routes
    induction routes with
    | nil => simp
    | cons route rest ih =>
        intro s
        rw [List.foldl_cons, ih, eventsOf_note]
        by_cases own : runner = some i <;> simp [own]
  rw [report, routed, eventsOf_note]
  by_cases own : runner = some i <;> simp [own, announcement]

theorem absorb_frame (s : System) (i : Nat) (r : Runner) (e : Runner.Effect) :
    (absorb i r s e).routes = s.routes ∧ (absorb i r s e).runners = s.runners := by
  cases e with
  | fired index hook f =>
      simp only [absorb]
      split <;> exact ⟨rfl, rfl⟩
  | result result =>
      obtain ⟨log, reported⟩ := report_eq s r.command (some i) result
      rw [absorb, reported]
      exact ⟨rfl, rfl⟩
  | released =>
      simp only [absorb]
      split <;> exact ⟨rfl, rfl⟩
  | woke =>
      rw [absorb, wakeAdmission_eq]
      exact ⟨rfl, rfl⟩
  | launched | terminated | message | flushed | left => exact ⟨rfl, rfl⟩

theorem eventsOf_absorb (s : System) (i : Nat) (r : Runner) (e : Runner.Effect) (j : Nat) :
    (absorb i r s e).eventsOf j =
      s.eventsOf j ++ if i = j then Event.ofEffect s.routes r.command e else [] := by
  have noted (id : String) (e : Event) : (s.note id (some i) e).eventsOf j =
      s.eventsOf j ++ if i = j then [e] else [] := by
    rw [eventsOf_note]
    by_cases own : i = j <;> simp [own]
  cases e with
  | launched | terminated | message | flushed => exact noted _ _
  | fired index hook f =>
      cases flag : hook.flag with
      | none => simpa [absorb, flag, Event.ofEffect] using noted r.command.id (.fired index f)
      | some flag' => simp [absorb, flag, Event.ofEffect, eventsOf, release]
  | result result =>
      rw [absorb, eventsOf_report]
      by_cases own : i = j <;> simp [own, Event.ofEffect]
  | left => simp [absorb, Event.ofEffect, eventsOf]
  | released =>
      simp only [absorb]
      split <;> simp [Event.ofEffect, eventsOf]
  | woke => simp [absorb, wakeAdmission_eq, Event.ofEffect, eventsOf]

theorem foldl_absorb_frame (s : System) (i : Nat) (r : Runner) (effects : List Runner.Effect) :
    (effects.foldl (absorb i r) s).routes = s.routes ∧
      (effects.foldl (absorb i r) s).runners = s.runners := by
  induction effects generalizing s with
  | nil => exact ⟨rfl, rfl⟩
  | cons e rest ih =>
      obtain ⟨routes, runners⟩ := absorb_frame s i r e
      rw [List.foldl_cons, (ih _).1, (ih _).2]
      exact ⟨routes, runners⟩

theorem eventsOf_foldl_absorb (s : System) (i : Nat) (r : Runner) (effects : List Runner.Effect)
    (j : Nat) :
    (effects.foldl (absorb i r) s).eventsOf j =
      s.eventsOf j ++ if i = j then Event.ofEffects s.routes r.command effects else [] := by
  induction effects generalizing s with
  | nil => simp [Event.ofEffects]
  | cons e rest ih =>
      rw [List.foldl_cons, ih, eventsOf_absorb, (absorb_frame s i r e).1]
      by_cases own : i = j <;> simp [own, Event.ofEffects]

theorem noticed_of_runner {j : Nat} {work : Runner.Action}
    (step : s.step? (.runner j work) = some next) :
    ∃ q q' effects, s.runners[j]? = some q ∧ q.step? s.config s.clock work = some (q', effects) ∧
      next.runners = s.runners.set j q' ∧ next.routes = s.routes ∧
      ∀ i, next.eventsOf i =
        s.eventsOf i ++ if j = i then Event.ofEffects s.routes q.command effects else [] := by
  obtain ⟨q, q', effects, found, taken, rfl⟩ := stepRunner?_eq_some step
  obtain ⟨routes, runners⟩ :=
    foldl_absorb_frame { s with runners := s.runners.set j q' } j q effects
  exact ⟨q, q', effects, found, taken, runners, routes, eventsOf_foldl_absorb _ j q effects⟩

theorem spares_of_foreign (step : s.step? act = some next)
    (foreign : ∀ j work, act ≠ .runner j work) (i : Nat) :
    next.eventsOf i = s.eventsOf i ∧ s.routes <+: next.routes := by
  have untold {log : List LogEntry} (mute : Mute s.log log) :
      eventsOf { s with log } i = s.eventsOf i := by
    rw [eventsOf, mute i, eventsOf]
  cases move_of_step step with
  | aside _ routed mute => exact ⟨untold mute, routed⟩
  | enterQueue _ _ mute | enterLine _ _ _ _ _ mute | refuse _ _ _ mute | reject _ mute =>
      exact ⟨untold mute, List.prefix_refl _⟩
  | work | leave | release | awaken | publish => exact absurd rfl (foreign _ _)
  | _ => exact ⟨rfl, List.prefix_refl _⟩

theorem runner_of_foreign {r : Runner} (step : s.step? act = some next)
    (foreign : ∀ j work, act ≠ .runner j work) (found : next.runners[i]? = some r) :
    (∃ q, s.runners[i]? = some q ∧ (r = q ∨ r = { q with killed := true })) ∨
      s.runners[i]? = none ∧
        ∃ c factory hooks origin, r = .new s.config s.now c factory hooks origin := by
  have joined {c : Command} {factory : Nat} {hooks : List Hook} {origin : Runner.Origin}
      (found : (s.runners ++ [.new s.config s.now c factory hooks origin])[i]? = some r) :
      (∃ q, s.runners[i]? = some q ∧ (r = q ∨ r = { q with killed := true })) ∨
        s.runners[i]? = none ∧
          ∃ c factory hooks origin, r = .new s.config s.now c factory hooks origin := by
    rw [List.getElem?_append] at found
    split at found
    · exact .inl ⟨r, found, .inl rfl⟩
    · rename_i beyond
      refine .inr ⟨List.getElem?_eq_none (by omega), c, factory, hooks, origin, ?_⟩
      exact List.mem_singleton.1 (List.mem_of_getElem? found)
  cases move_of_step step with
  | run => exact joined found
  | enroll => exact joined found
  | @kill c asked =>
      have found : (askToEnd asked s.runners)[i]? = some r := found
      rw [askToEnd, List.getElem?_mapIdx, Option.map_eq_some_iff] at found
      obtain ⟨q, known, rfl⟩ := found
      refine .inl ⟨q, known, ?_⟩
      cases asked i <;> simp
  | work | leave | release | awaken | publish => exact absurd rfl (foreign _ _)
  | _ => exact .inl ⟨r, found, .inl rfl⟩

theorem length_runners_of_foreign (step : s.step? act = some next)
    (foreign : ∀ j work, act ≠ .runner j work) : s.runners.length ≤ next.runners.length := by
  cases move_of_step step with
  | run | enroll => simp [join]
  | kill => simp [askToEnd]
  | work | leave | release | awaken | publish => exact absurd rfl (foreign _ _)
  | _ => exact Nat.le_refl _

/-! ## A runner among others -/

def Chronicled (config : Config) (s : System) (i : Nat) (r : Runner) : Prop :=
  ∃ past routes, Runner.History config past r ∧ routes <+: s.routes ∧
    s.eventsOf i = Event.ofEffects routes r.command (Runner.trace config past)

theorem Chronicled.keep {r : Runner} (chronicled : Chronicled config s i r)
    (routes : s.routes <+: next.routes) (events : next.eventsOf i = s.eventsOf i) :
    Chronicled config next i r := by
  obtain ⟨past, known, history, part, told⟩ := chronicled
  exact ⟨past, known, history, part.trans routes, events.trans told⟩

theorem Chronicled.work {r r' : Runner} {work : Runner.Action} {effects : List Runner.Effect}
    (chronicled : Chronicled config s i r)
    (taken : r.step? config s.clock work = some (r', effects)) (routes : s.routes <+: next.routes)
    (events : next.eventsOf i =
      s.eventsOf i ++ Event.ofEffects s.routes r.command effects) :
    Chronicled config next i r' := by
  obtain ⟨past, known, history, part, told⟩ := chronicled
  have rule := Runner.step?_eq_some_iff.1 taken
  have longer : Runner.trace config (⟨s.clock, r, work⟩ :: past) =
      Runner.trace config past ++ effects := by
    rw [Runner.trace_cons, Runner.Taken.effects_eq taken]
  by_cases silent : work = .report
  · -- The runner has told no result before, so that the routes of now do for all of its events.
    have unreported : ∀ e ∈ Runner.trace config past, ∀ result, e ≠ .result result := by
      obtain ⟨before, split, quiet⟩ := history.trace_eq
      subst silent
      cases rule with
      | report phase =>
          have going : r.phase.finale = [] := by rw [phase]; rfl
          rw [going, List.append_nil] at split
          rintro e member result rfl
          rw [split] at member
          cases quiet _ member
    refine ⟨_, s.routes, history.next taken, routes, ?_⟩
    rw [events, told, longer, Event.ofEffects_append, rule.command_eq,
      Event.ofEffects_routes unreported]
  · refine ⟨_, known, history.next taken, part.trans routes, ?_⟩
    rw [events, told, longer, Event.ofEffects_append, rule.command_eq,
      Event.ofEffects_routes (rule.no_result silent) s.routes known]

theorem chronicle (reach : Reachable config dawn s) (i : Nat) :
    (s.runners[i]? = none → s.eventsOf i = []) ∧
      ∀ r, s.runners[i]? = some r → Chronicled config s i r := by
  induction reach with
  | new => exact ⟨fun _ => rfl, fun r found => by simp [System.new] at found⟩
  | @next s next act reach step ih =>
      obtain ⟨unnoticed, chronicled⟩ := ih
      by_cases own : ∃ j work, act = .runner j work
      · obtain ⟨j, work, rfl⟩ := own
        obtain ⟨q, q', effects, found, taken, runners, routes, events⟩ := noticed_of_runner step
        have events := events i
        have unchanged : s.routes <+: next.routes := by
          rw [routes]
        rw [runners]
        by_cases same : j = i
        · subst same
          have bound := (List.getElem?_eq_some_iff.1 found).1
          rw [List.getElem?_set_self bound]
          refine ⟨fun missing => ?_, fun r' known => ?_⟩
          · cases missing
          · rw [if_pos rfl] at events
            rw [config_eq reach] at taken
            rw [← Option.some.inj known]
            exact (chronicled q found).work taken unchanged events
        · rw [List.getElem?_set_ne same]
          rw [if_neg same, List.append_nil] at events
          refine ⟨fun missing => events.trans (unnoticed missing), fun r known => ?_⟩
          exact (chronicled r known).keep unchanged events
      · have foreign (j : Nat) (work : Runner.Action) : act ≠ .runner j work :=
          fun same => own ⟨j, work, same⟩
        obtain ⟨events, routes⟩ := spares_of_foreign step foreign i
        refine ⟨fun missing => ?_, fun r found => ?_⟩
        · rw [events]
          apply unnoticed
          have longer := length_runners_of_foreign step foreign
          rw [List.getElem?_eq_none_iff] at missing ⊢
          omega
        · rcases runner_of_foreign step foreign found with
            ⟨q, before, rfl | rfl⟩ | ⟨missing, c, factory, hooks, origin, rfl⟩
          · exact (chronicled r before).keep routes events
          · have asked : q.step? config s.clock .kill = some ({ q with killed := true }, []) := rfl
            refine (chronicled q before).work asked routes ?_
            rw [events]
            exact (List.append_nil _).symm
          · rw [config_eq reach]
            refine ⟨[], [], .new _ _ _ _ _, List.nil_prefix, ?_⟩
            rw [events, unnoticed missing]
            rfl

end System

end Overseer.Manager
