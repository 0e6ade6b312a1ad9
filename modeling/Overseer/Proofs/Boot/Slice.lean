import Overseer.Proofs.Boot.Rendezvous
import Overseer.Proofs.Manager.Move

/-!
# Slices on their way

A flag that is released keeps its value, and a slice keeps its entries. `BootMove` says what a step
does to the slices and to the boots, and `bootMove_of_step` that every step is such a move.
-/

namespace Overseer.Boot

namespace Slice

structure Grows (a b : Slice) : Prop where
  tasks : b.tasks.map (fun t => (t.entry, t.waiter)) = a.tasks.map fun t => (t.entry, t.waiter)
  flags : ∀ {key v}, a.rendezvous.get? key = some v → b.rendezvous.get? key = some v

variable {a b c : Slice}

theorem Grows.refl (a : Slice) : a.Grows a := ⟨rfl, id⟩

theorem Grows.trans (first : a.Grows b) (second : b.Grows c) : a.Grows c :=
  ⟨second.tasks.trans first.tasks, fun known => second.flags (first.flags known)⟩

theorem grows_release (a : Slice) (key : String) (value : Bool) : a.Grows (a.release key value) :=
  ⟨rfl, Rendezvous.get?_release⟩

theorem grows_finish (a : Slice) (i : Nat) : a.Grows (a.finish i) := by
  refine ⟨List.ext_getElem? fun j => ?_, id⟩
  rw [List.getElem?_map, List.getElem?_map, Slice.finish, List.getElem?_modify]
  cases a.tasks[j]? with
  | none => rfl
  | some t => by_cases same : i = j <;> simp [same]

theorem Grows.provided (grows : a.Grows b) : b.provided = a.provided := by
  have keys := congrArg (List.map fun t : Entry × Waiter => t.1.key) grows.tasks
  simpa [Slice.provided, List.map_map, Function.comp_def] using keys

theorem Grows.isUp (grows : a.Grows b) (up : a.isUp = true) : b.isUp = true := by
  unfold Slice.isUp at up ⊢
  rw [grows.provided, List.all_eq_true]
  intro key member
  obtain ⟨v, known⟩ := Option.isSome_iff_exists.1 (List.all_eq_true.1 up key member)
  rw [grows.flags known]
  rfl

theorem provided_start (entries : List Entry) :
    (Slice.start entries).provided = entries.map (·.key) := by
  simp [Slice.provided, Slice.start, List.map_map, Function.comp_def]

theorem Grows.of_start {entries : List Entry} (grows : (Slice.start entries).Grows a) {i : Nat}
    {t : Task} (task : a.tasks[i]? = some t) :
    t.entry ∈ entries ∧ t.waiter = .start .allTrue t.entry.dependencies := by
  have member := List.mem_map_of_mem (f := fun t : Task => (t.entry, t.waiter))
    (List.mem_of_getElem? task)
  rw [grows.tasks, Slice.start, List.map_map] at member
  obtain ⟨e, inside, same⟩ := List.mem_map.1 member
  have origin : e = t.entry := congrArg Prod.fst same
  subst origin
  exact ⟨inside, (congrArg Prod.snd same).symm⟩

theorem all_true_of_verdict {t : Task} (waits : t.waiter = .start .allTrue t.entry.dependencies)
    (verdict : a.verdict? t = some true) :
    ∀ dep ∈ t.entry.dependencies, a.rendezvous.get? dep = some true := by
  unfold Slice.verdict? at verdict
  split at verdict
  · cases verdict
  · rw [waits] at verdict
    exact Waiter.all_true verdict

end Slice

end Overseer.Boot

namespace Overseer.Manager

open Boot

def SlicesGrow (l l' : List Slice) : Prop :=
  ∀ (n : Nat) (a : Slice), l[n]? = some a → ∃ b, l'[n]? = some b ∧ a.Grows b

section
variable {l l' l'' : List Slice} {n : Nat}

theorem SlicesGrow.refl (l : List Slice) : SlicesGrow l l := fun _ a found => ⟨a, found, .refl a⟩

theorem SlicesGrow.trans (first : SlicesGrow l l') (second : SlicesGrow l' l'') :
    SlicesGrow l l'' := by
  intro n a found
  obtain ⟨b, found, grows⟩ := first n a found
  obtain ⟨c, found, grows'⟩ := second n b found
  exact ⟨c, found, grows.trans grows'⟩

theorem SlicesGrow.set {a b : Slice} (found : l[n]? = some a) (grows : a.Grows b) :
    SlicesGrow l (l.set n b) := by
  intro m x known
  rw [List.getElem?_set]
  split
  · rename_i same
    subst same
    cases known.symm.trans found
    exact ⟨b, if_pos (List.getElem?_eq_some_iff.1 found).1, grows⟩
  · exact ⟨x, known, .refl x⟩

theorem SlicesGrow.modify {f : Slice → Slice} (grows : ∀ a : Slice, a.Grows (f a)) (l : List Slice)
    (n : Nat) : SlicesGrow l (l.modify n f) := by
  intro m x known
  rw [List.getElem?_modify, known]
  by_cases same : n = m
  · exact ⟨f x, by simp [same], grows x⟩
  · exact ⟨x, by simp [same], .refl x⟩

theorem SlicesGrow.append (l new : List Slice) : SlicesGrow l (l ++ new) :=
  fun _ a found => ⟨a, by
    rw [List.getElem?_append_left (List.getElem?_eq_some_iff.1 found).1, found], .refl a⟩

end

namespace System

structure GoesOn (s next : System) : Prop where
  grow : SlicesGrow s.slices next.slices
  length : next.slices.length = s.slices.length
  boots : next.boots = s.boots

variable {s next last : System}

theorem GoesOn.trans (first : s.GoesOn next) (second : next.GoesOn last) : s.GoesOn last :=
  ⟨first.grow.trans second.grow, second.length.trans first.length, second.boots.trans first.boots⟩

theorem GoesOn.still (slices : next.slices = s.slices) (boots : next.boots = s.boots) :
    s.GoesOn next :=
  ⟨by rw [slices]; exact .refl _, by rw [slices], boots⟩

theorem goesOn_release (s : System) (flag : FlagRef) (value : Bool) :
    s.GoesOn (s.release flag value) :=
  ⟨.modify (fun a => a.grows_release _ _) _ _, List.length_modify .., rfl⟩

theorem goesOn_spawn (s : System) (c : Command) (hooks : List Hook) (origin : Runner.Origin) :
    s.GoesOn (s.spawn c hooks origin).1 := by
  rcases s.spawn_cases c hooks origin with ⟨log, e, spawned, -⟩ | ⟨factory, -, -, spawned⟩ <;>
    rw [spawned] <;> exact .still rfl rfl

theorem goesOn_absorb (s : System) (i : Nat) (r : Runner) (e : Runner.Effect) :
    s.GoesOn (absorb i r s e) := by
  cases e with
  | launched | terminated | message | flushed | left => exact .still rfl rfl
  | fired index hook f =>
      unfold absorb
      cases flag : hook.flag with
      | none =>
          simp only [flag]
          exact .still rfl rfl
      | some flag' =>
          simp only [flag]
          exact goesOn_release s flag' _
  | result result =>
      obtain ⟨log, reported⟩ := report_eq s r.command (some i) result
      rw [absorb, reported]
      exact .still rfl rfl
  | released =>
      rw [absorb]
      split <;> exact .still rfl rfl
  | woke =>
      rw [absorb, wakeAdmission_eq]
      exact .still rfl rfl

theorem goesOn_absorbAll (s : System) (i : Nat) (r : Runner) (effects : List Runner.Effect) :
    s.GoesOn (effects.foldl (absorb i r) s) := by
  induction effects generalizing s with
  | nil => exact .still rfl rfl
  | cons e rest ih => exact (goesOn_absorb s i r e).trans (ih _)

theorem goesOn_enroll (s : System) (c : Command) (origin : Runner.Origin) :
    s.GoesOn (s.enroll c origin) := by
  have spawned := goesOn_spawn s c [] origin
  unfold enroll
  split <;> rename_i result <;> rw [result] at spawned <;>
    exact spawned.trans (.still rfl rfl)

inductive BootMove (s : System) : Action → System → Prop where
  | on {act : Action} {next : System} (goesOn : s.GoesOn next) : BootMove s act next
  | called (cohorts : List (List Entry)) : BootMove s (.call (.boot cohorts)) (s.boot cohorts)
  | up {i n : Nat} {b : Sequence} {slice : Slice} (found : s.boots[i]? = some b)
      (current : b.current = some n) (coming : s.slices[n]? = some slice)
      (isUp : slice.isUp = true) :
      BootMove s (.boot i) { s with boots := s.boots.set i { b with current := none } }
  | ended {i : Nat} {b : Sequence} {log : List LogEntry} (found : s.boots[i]? = some b) :
      BootMove s (.boot i) { s with boots := s.boots.set i { b with finished := true }, log }
  | begun {i : Nat} {b : Sequence} {entries : List Entry} {rest : List (List Entry)}
      (found : s.boots[i]? = some b) (current : b.current = none)
      (pending : b.pending = entries :: rest) :
      BootMove s (.boot i)
        { s with
          slices := s.slices ++ [.start entries]
          boots := s.boots.set i ⟨rest, some s.slices.length, false⟩ }

theorem goesOn_answer {c : Call} (other : ∀ cohorts, c ≠ .boot cohorts) :
    s.GoesOn (s.answer c) := by
  cases c with
  | start =>
      cases started : s.started <;> simp only [answer, System.start, started] <;>
        exact .still rfl rfl
  | run c hooks => exact goesOn_spawn s c hooks .direct
  | kill id =>
      simp only [answer, System.kill]
      split <;> exact .still rfl rfl
  | killAll =>
      obtain ⟨asked, killed⟩ := s.killAll_eq
      rw [answer, killed]
      exact .still rfl rfl
  | boot cohorts => exact absurd rfl (other cohorts)
  | cancel | push | handleRoute | register | unregister => exact .still rfl rfl

theorem goesOn_entry {n i : Nat} (step : s.stepEntry? n i = some next) : s.GoesOn next := by
  have finished (slices : List Slice) (grow : SlicesGrow s.slices slices)
      (length : slices.length = s.slices.length) : s.GoesOn { s with slices } :=
    ⟨grow, length, rfl⟩
  obtain ⟨slice, t, found, -, ⟨-, rfl⟩ | ⟨-, q, outcome, spawned, rfl⟩⟩ :=
    stepEntry?_eq_some step
  · exact finished _ (.set found ((slice.grows_finish i).trans (Slice.grows_release ..)))
      List.length_set
  · have begun := finished _ (.set found (slice.grows_finish i)) List.length_set
    have ran := begun.trans (goesOn_spawn _ t.entry.toCommand
      (t.entry.readinessHooks ⟨n, t.entry.key⟩) .direct)
    rw [spawned] at ran
    cases outcome with
    | ok => exact ran
    | error => exact ran.trans (goesOn_release ..)

theorem goesOn_enter {i : Nat} (step : s.enter? i = some next) : s.GoesOn next := by
  obtain ⟨c, queue, commands, accepted, rfl⟩ := enter?_eq_some step
  exact .still rfl rfl

theorem bootMove_of_boot {i : Nat} (step : s.stepBoot? i = some next) :
    BootMove s (.boot i) next := by
  obtain ⟨b, found, ⟨_, _, current, coming, up, rfl⟩ | rfl | ⟨_, _, current, pending, rfl⟩⟩ :=
    stepBoot?_eq_some step
  · exact .up found current coming up
  · exact .ended found
  · exact .begun found current pending

theorem bootMove_of_step {act : Action} (step : s.step? act = some next) : BootMove s act next := by
  cases act with
  | call c =>
      cases step
      cases c with
      | boot cohorts => exact .called cohorts
      | _ => exact .on (goesOn_answer nofun)
  | runner i act =>
      obtain ⟨r, r', effects, -, -, rfl⟩ := stepRunner?_eq_some step
      have moved : s.GoesOn { s with runners := s.runners.set i r' } := .still rfl rfl
      exact .on (moved.trans (goesOn_absorbAll _ i r effects))
  | boot i => exact bootMove_of_boot step
  | entry n i => exact .on (goesOn_entry step)
  | enter i => exact .on (goesOn_enter step)
  | enroll =>
      simp only [step?] at step
      split at step <;> cases step
      rename_i c origin _
      exact .on (goesOn_enroll s c origin)
  | pass ms =>
      cases step
      exact .on (.still rfl rfl)
  | dispatch | produce | deliver | stopDispatcher | stopProducer =>
      obtain ⟨queue, -, rfl⟩ := Option.map_eq_some_iff.1 step
      exact .on (.still rfl rfl)
  | arm | count | wake | takeDirect | takeReleased | stopAdmission =>
      simp only [step?] at step
      split at step <;> cases step
      exact .on (.still rfl rfl)

end System

end Overseer.Manager
