import Overseer.Proofs.Boot.Rendezvous
import Overseer.Proofs.Manager.Chronicle
import Overseer.Proofs.Runner.Sights

/-!
# Flags, tasks and hooks

What a step does to the flags of the slices, to their tasks and to the hooks of the runners. `Turn`
tells the kinds of steps apart, and `turn_of_step` says that there are no others, so that what is
kept by a boot is proved by cases on the turn.
-/

namespace Overseer

/-! ## Hooks that fire -/

namespace Hook

def purpose (h : Hook) : Trigger × Option FlagRef := (h.trigger, h.flag)

variable {h k : Hook} {s sight : Sight} {hooks : List Hook} {sights : List Sight} {i : Nat}
  {f : Firing}

theorem purpose_observe (h : Hook) (s : Sight) : (h.observe s).1.purpose = h.purpose := by
  unfold observe
  split
  · rfl
  · split <;> rfl

theorem fired_observe (fired : (h.observe s).1.fired = true) :
    h.fired = true ∨ (h.observe s).2.isSome = true := by
  unfold observe at fired ⊢
  split
  · exact .inl ‹_›
  · split
    · rename_i idle _ silent
      rw [if_neg idle, silent] at fired
      exact .inl fired
    · exact .inr rfl

theorem observe_of_pulled (fresh : h.fired = false) (pulled : Trigger.pull? h.trigger s = some f) :
    (h.observe s).2 = some f := by
  unfold observe
  rw [if_neg (by simp [fresh]), pulled]

theorem observeAll_fst (hooks : List Hook) (s : Sight) :
    (observeAll hooks s).1 = hooks.map fun h => (h.observe s).1 :=
  List.map_map

theorem observeEach_cons (hooks : List Hook) (s : Sight) (rest : List Sight) :
    observeEach hooks (s :: rest) =
      ((observeEach (observeAll hooks s).1 rest).1,
        (observeAll hooks s).2 ++ (observeEach (observeAll hooks s).1 rest).2) :=
  rfl

theorem mem_observeAll :
    (i, k, f) ∈ (observeAll hooks s).2 ↔ ∃ h, hooks[i]? = some h ∧ h.observe s = (k, some f) := by
  simp only [observeAll, List.mem_filterMap, Prod.exists, Option.map_eq_some_iff,
    List.mem_zipIdx_iff_getElem?, List.getElem?_map]
  constructor
  · rintro ⟨k', f', i', ⟨h, there, seen⟩, f'', rfl, same⟩
    cases same
    exact ⟨h, there, seen⟩
  · rintro ⟨h, there, seen⟩
    exact ⟨k, some f, i, ⟨h, there, seen⟩, f, rfl, rfl⟩

theorem observeEach_purpose (hooks : List Hook) (sights : List Sight) :
    (observeEach hooks sights).1.map purpose = hooks.map purpose := by
  induction sights generalizing hooks with
  | nil => rfl
  | cons s rest ih =>
      rw [observeEach, ih, observeAll_fst, List.map_map]
      exact List.map_congr_left fun h _ => purpose_observe h s

theorem purpose_of_fired {x : Nat × Hook × Firing} (member : x ∈ (observeEach hooks sights).2) :
    ∃ h ∈ hooks, h.purpose = x.2.1.purpose := by
  induction sights generalizing hooks with
  | nil => cases member
  | cons s rest ih =>
      obtain ⟨i, k, f⟩ := x
      rw [observeEach_cons] at member
      rcases List.mem_append.1 member with now | later
      · obtain ⟨h, there, seen⟩ := mem_observeAll.1 now
        exact ⟨h, List.mem_of_getElem? there, by rw [← purpose_observe h s, seen]⟩
      · obtain ⟨k', inside, same⟩ := ih later
        rw [observeAll_fst] at inside
        obtain ⟨h, member, rfl⟩ := List.mem_map.1 inside
        exact ⟨h, member, by rw [← same, purpose_observe]⟩

theorem observed_fires (member : h ∈ hooks) (fires : (h.observe s).2.isSome = true) :
    ∃ x ∈ (observeAll hooks s).2, x.2.1.purpose = h.purpose := by
  obtain ⟨f, fires⟩ := Option.isSome_iff_exists.1 fires
  obtain ⟨i, there⟩ := List.mem_iff_getElem?.1 member
  exact ⟨(i, (h.observe s).1, f), mem_observeAll.2 ⟨h, there, Prod.ext rfl fires⟩,
    purpose_observe h s⟩

theorem fires_of_pulled (member : h ∈ hooks) (shown : sight ∈ sights)
    (pulled : (Trigger.pull? h.trigger sight).isSome = true) :
    h.fired = true ∨ ∃ x ∈ (observeEach hooks sights).2, x.2.1.purpose = h.purpose := by
  induction sights generalizing hooks h with
  | nil => cases shown
  | cons s rest ih =>
      cases idle : h.fired with
      | true => exact .inl rfl
      | false =>
          have now (fires : (h.observe s).2.isSome = true) :
              ∃ x ∈ (observeEach hooks (s :: rest)).2, x.2.1.purpose = h.purpose := by
            obtain ⟨x, inside, same⟩ := observed_fires member fires
            exact ⟨x, List.mem_append_left _ inside, same⟩
          refine .inr ?_
          rcases List.mem_cons.1 shown with rfl | later
          · obtain ⟨f, pulled⟩ := Option.isSome_iff_exists.1 pulled
            exact now (by rw [observe_of_pulled idle pulled]; rfl)
          · have same := purpose_observe h s
            have trigger : (h.observe s).1.trigger = h.trigger := congrArg Prod.fst same
            have after : (h.observe s).1 ∈ (observeAll hooks s).1 := by
              rw [observeAll_fst]
              exact List.mem_map_of_mem member
            rcases ih after later (trigger ▸ pulled) with fired | ⟨x, inside, own⟩
            · rcases fired_observe fired with before | fires
              · simp [idle] at before
              · exact now fires
            · exact ⟨x, List.mem_append_right _ inside, own.trans same⟩

theorem fires_of_fired (member : k ∈ (observeEach hooks sights).1) (fired : k.fired = true) :
    (∃ h ∈ hooks, h.purpose = k.purpose ∧ h.fired = true) ∨
      ∃ x ∈ (observeEach hooks sights).2, x.2.1.purpose = k.purpose := by
  induction sights generalizing hooks with
  | nil => exact .inl ⟨k, member, rfl, fired⟩
  | cons s rest ih =>
      rw [observeEach_cons] at member ⊢
      rcases ih member with ⟨h', after, same, fired⟩ | ⟨x, inside, same⟩
      · rw [observeAll_fst] at after
        obtain ⟨h, inside, rfl⟩ := List.mem_map.1 after
        have own : h.purpose = k.purpose := (purpose_observe h s).symm.trans same
        rcases fired_observe fired with before | fires
        · exact .inl ⟨h, inside, own, before⟩
        · obtain ⟨x, now, fires⟩ := observed_fires inside fires
          exact .inr ⟨x, List.mem_append_left _ now, fires.trans own⟩
      · exact .inr ⟨x, List.mem_append_right _ inside, same⟩

end Hook

/-! ## Flags and tasks -/

namespace Boot

def Task.close (t : Task) : Task := { t with done := true }

end Boot

def Manager.Action.isBystander : Manager.Action → Bool
  | .runner _ _ | .entry _ _ => false
  | _ => true

namespace Manager.System

open Boot

def flag? (s : System) (g : FlagRef) : Option Bool :=
  s.slices[g.slice]?.bind fun slice => slice.rendezvous.get? g.key

def tasks (s : System) (n : Nat) : List Task := (s.slices[n]?.map Slice.tasks).getD []

def close (s : System) (n i : Nat) : System :=
  { s with slices := s.slices.modify n fun slice => slice.finish i }

variable {s middle next : System} {act : Action} {g other : FlagRef} {n m i : Nat} {v : Bool}
  {slice : Slice} {fired more : List (Nat × Hook × Firing)}

theorem flag?_congr (slices : next.slices = s.slices) (g : FlagRef) : next.flag? g = s.flag? g := by
  rw [flag?, flag?, slices]

theorem tasks_congr (slices : next.slices = s.slices) (n : Nat) : next.tasks n = s.tasks n := by
  rw [tasks, tasks, slices]

theorem flag?_of_slice (found : s.slices[n]? = some slice) (key : String) :
    s.flag? ⟨n, key⟩ = slice.rendezvous.get? key := by
  rw [flag?, found]
  rfl

theorem tasks_of_slice (found : s.slices[n]? = some slice) : s.tasks n = slice.tasks := by
  rw [tasks, found]
  rfl

theorem flag?_close (s : System) (n i : Nat) (g : FlagRef) : (s.close n i).flag? g = s.flag? g := by
  rw [flag?, flag?, close, List.getElem?_modify]
  cases s.slices[g.slice]? with
  | none => rfl
  | some slice => by_cases own : n = g.slice <;> simp [own, Slice.finish]

theorem tasks_close (s : System) (n i m : Nat) :
    (s.close n i).tasks m = if m = n then (s.tasks n).modify i Task.close else s.tasks m := by
  rw [tasks, tasks, close, List.getElem?_modify]
  by_cases own : n = m
  · subst own
    cases s.slices[n]? with
    | none => simp
    | some slice =>
        simp only [if_true, Slice.finish, Option.map_some, Option.getD_some]
        rfl
  · rw [if_neg (Ne.symm own), tasks]
    cases s.slices[m]? <;> simp [own]

theorem tasks_release (s : System) (g : FlagRef) (value : Bool) (n : Nat) :
    (s.release g value).tasks n = s.tasks n := by
  rw [tasks, tasks, release, List.getElem?_modify]
  cases s.slices[n]? with
  | none => rfl
  | some slice => by_cases own : g.slice = n <;> simp [own, Slice.release]

theorem flag?_release (s : System) (g other : FlagRef) (value : Bool) :
    (s.release g value).flag? other =
      if other = g ∧ g.slice < s.slices.length then some ((s.flag? g).getD value)
      else s.flag? other := by
  obtain ⟨n, key⟩ := g
  obtain ⟨m, key'⟩ := other
  simp only [flag?, release, List.getElem?_modify, FlagRef.mk.injEq]
  by_cases own : n = m
  · subst own
    cases found : s.slices[n]? with
    | none =>
        have beyond : ¬n < s.slices.length := by simpa using found
        simp [beyond]
    | some slice =>
        have bound := (List.getElem?_eq_some_iff.1 found).1
        simp [bound, Slice.release, Rendezvous.get?_release_eq]
  · have apart : ¬m = n := Ne.symm own
    cases s.slices[m]? <;> simp [own, apart]

theorem flag?_release_of_known (g' : FlagRef) (value : Bool)
    (known : s.flag? g = some v) : (s.release g' value).flag? g = some v := by
  rw [flag?_release]
  split
  · rename_i own
    rw [← own.1, known]
    rfl
  · exact known

structure Flagged (s next : System) (fired : List (Nat × Hook × Firing)) : Prop where
  tasks : ∀ n, next.tasks n = s.tasks n
  length : next.slices.length = s.slices.length
  stays : ∀ {g v}, s.flag? g = some v → next.flag? g = some v
  cause : ∀ {g v}, next.flag? g = some v →
    s.flag? g = some v ∨ ∃ x ∈ fired, x.2.1.flag = some g ∧ Hook.releaseValue x.2.2 = v
  works : ∀ {x g}, x ∈ fired → x.2.1.flag = some g → g.slice < s.slices.length →
    (next.flag? g).isSome = true

theorem Flagged.still (slices : next.slices = s.slices)
    (unflagged : ∀ x ∈ fired, x.2.1.flag = none) : s.Flagged next fired := by
  refine ⟨tasks_congr slices, by rw [slices], fun known => (flag?_congr slices _).trans known,
    fun known => .inl ((flag?_congr slices _).symm.trans known), fun member flag => ?_⟩
  cases (unflagged _ member).symm.trans flag

theorem Flagged.quiet (slices : next.slices = s.slices) : s.Flagged next [] :=
  .still slices nofun

theorem Flagged.isSome_stays (flagged : s.Flagged next fired)
    (known : (s.flag? g).isSome = true) : (next.flag? g).isSome = true := by
  obtain ⟨v, known⟩ := Option.isSome_iff_exists.1 known
  rw [flagged.stays known]
  rfl

theorem Flagged.trans (first : s.Flagged middle fired) (second : middle.Flagged next more) :
    s.Flagged next (fired ++ more) := by
  refine ⟨fun n => (second.tasks n).trans (first.tasks n), second.length.trans first.length,
    fun known => second.stays (first.stays known), fun known => ?_, fun member flag bound => ?_⟩
  · rcases second.cause known with known | ⟨x, member, released⟩
    · rcases first.cause known with known | ⟨x, member, released⟩
      · exact .inl known
      · exact .inr ⟨x, List.mem_append_left _ member, released⟩
    · exact .inr ⟨x, List.mem_append_right _ member, released⟩
  · rcases List.mem_append.1 member with early | late
    · exact second.isSome_stays (first.works early flag bound)
    · exact second.works late flag (first.length ▸ bound)

theorem flagged_release (s : System) (index : Nat) (hook : Hook) (f : Firing)
    (flag : hook.flag = some g) :
    s.Flagged (s.release g (Hook.releaseValue f)) [(index, hook, f)] := by
  refine ⟨tasks_release s g _, List.length_modify .., flag?_release_of_known g _,
    fun {other v} known => ?_, fun {x other} member own bound => ?_⟩
  · rw [flag?_release] at known
    split at known
    · rename_i own
      obtain ⟨rfl, -⟩ := own
      cases before : s.flag? other with
      | some w =>
          rw [before] at known
          exact .inl known
      | none =>
          rw [before] at known
          exact .inr ⟨_, List.mem_singleton_self _, flag, Option.some.inj known⟩
    · exact .inl known
  · rw [List.mem_singleton.1 member] at own
    cases flag.symm.trans own
    rw [flag?_release, if_pos ⟨rfl, bound⟩]
    rfl

theorem flagged_absorb (s : System) (i : Nat) (r : Runner) (e : Runner.Effect) :
    s.Flagged (absorb i r s e) e.firing?.toList := by
  cases e with
  | launched | terminated | message | flushed | left => exact .quiet rfl
  | fired index hook f =>
      have alone : (Runner.Effect.fired index hook f).firing?.toList = [(index, hook, f)] := rfl
      rw [alone]
      cases flag : hook.flag with
      | some g =>
          simp only [absorb, flag]
          exact flagged_release s index hook f flag
      | none =>
          simp only [absorb, flag]
          exact .still rfl (by simpa using flag)
  | result result =>
      obtain ⟨log, reported⟩ := report_eq s r.command (some i) result
      rw [absorb, reported]
      exact .quiet rfl
  | released =>
      rw [absorb]
      split <;> exact .quiet rfl
  | woke =>
      rw [absorb, wakeAdmission_eq]
      exact .quiet rfl

theorem flagged_foldl_absorb (s : System) (i : Nat) (r : Runner) (effects : List Runner.Effect) :
    s.Flagged (effects.foldl (absorb i r) s) (effects.filterMap Runner.Effect.firing?) := by
  induction effects generalizing s with
  | nil => exact .quiet rfl
  | cons e rest ih =>
      have both := (flagged_absorb s i r e).trans (ih _)
      cases fires : e.firing? <;> simpa [fires] using both

/-! ## Every step is a turn -/

structure Untouched (s : System) (act : Action) (next : System) : Prop where
  length : s.runners.length ≤ next.runners.length
  hooks : ∀ (i : Nat) (r' : Runner), next.runners[i]? = some r' →
    (∃ r, s.runners[i]? = some r ∧ r'.hooks = r.hooks) ∨
      s.runners[i]? = none ∧ ∀ h ∈ r'.hooks, ∃ c hooks, act = .call (.run c hooks) ∧ h ∈ hooks

inductive Turn (s : System) : Action → System → Prop where
  | aside {act : Action} {next : System} (foreign : act.isBystander = true)
      (slices : next.slices = s.slices) (runners : s.Untouched act next) : Turn s act next
  | watched {i : Nat} {r r' : Runner} {work : Runner.Action} {effects : List Runner.Effect}
      {next : System} (found : s.runners[i]? = some r)
      (rule : Runner.Rule s.config s.clock r work r' effects)
      (runners : next.runners = s.runners.set i r')
      (flagged : s.Flagged next (effects.filterMap Runner.Effect.firing?)) :
      Turn s (.runner i work) next
  | begun {i : Nat} {b : Sequence} {entries : List Entry} {rest : List (List Entry)}
      (found : s.boots[i]? = some b) (current : b.current = none)
      (pending : b.pending = entries :: rest) :
      Turn s (.boot i)
        { s with
          slices := s.slices ++ [.start entries]
          boots := s.boots.set i ⟨rest, some s.slices.length, false⟩ }
  | givenUp {n i : Nat} {slice : Slice} {t : Task} (found : s.slices[n]? = some slice)
      (task : slice.tasks[i]? = some t) (verdict : slice.verdict? t = some false) :
      Turn s (.entry n i) ((s.close n i).release ⟨n, t.entry.key⟩ false)
  | started {n i factory : Nat} {slice : Slice} {t : Task} (found : s.slices[n]? = some slice)
      (task : slice.tasks[i]? = some t) (verdict : slice.verdict? t = some true)
      (accepted : s.refusal? t.entry.toCommand = none) :
      Turn s (.entry n i)
        ((s.close n i).join t.entry.toCommand factory (t.entry.readinessHooks ⟨n, t.entry.key⟩)
          .direct)
  | refused {n i : Nat} {slice : Slice} {t : Task} {state : JobState} {log : List LogEntry}
      (found : s.slices[n]? = some slice) (task : slice.tasks[i]? = some t)
      (verdict : slice.verdict? t = some true)
      (refused : s.refusal? t.entry.toCommand = some state) :
      Turn s (.entry n i) { (s.close n i).release ⟨n, t.entry.key⟩ false with log }

theorem Turn.still (foreign : act.isBystander = true) (slices : next.slices = s.slices)
    (runners : next.runners = s.runners) : s.Turn act next :=
  .aside foreign slices
    ⟨by rw [runners], fun i r' known => .inl ⟨r', runners ▸ known, rfl⟩⟩

theorem Turn.asked {asked : Nat → Bool} (foreign : act.isBystander = true)
    (slices : next.slices = s.slices) (runners : next.runners = askToEnd asked s.runners) :
    Turn s act next := by
  refine .aside foreign slices ⟨by simp [runners, askToEnd], fun i r' known => .inl ?_⟩
  rw [runners, askToEnd, List.getElem?_mapIdx, Option.map_eq_some_iff] at known
  obtain ⟨r, found, rfl⟩ := known
  exact ⟨r, found, rfl⟩

theorem Turn.joined {c : Command} {factory : Nat} {hooks : List Hook} {origin : Runner.Origin}
    (foreign : act.isBystander = true) (slices : next.slices = s.slices)
    (runners : next.runners = (s.join c factory hooks origin).runners)
    (source : ∀ h ∈ hooks, ∃ c' hooks', act = .call (.run c' hooks') ∧ h ∈ hooks') :
    Turn s act next := by
  refine .aside foreign slices ⟨by simp [runners, join], fun i r' known => ?_⟩
  rw [runners, join, List.getElem?_append] at known
  split at known
  · exact .inl ⟨r', known, rfl⟩
  · rename_i beyond
    rw [List.mem_singleton.1 (List.mem_of_getElem? known)]
    exact .inr ⟨List.getElem?_eq_none (by omega), source⟩

theorem turn_of_call (c : Call) : Turn s (.call c) (s.answer c) := by
  cases c with
  | start =>
      by_cases started : s.started = true
      · simp only [answer, System.start, started, if_true]
        exact .still rfl rfl rfl
      · simp only [answer, System.start, started]
        exact .still rfl rfl rfl
  | run c hooks =>
      rcases s.spawn_cases c hooks .direct with ⟨log, e, spawned, -⟩ | ⟨factory, -, -, spawned⟩
      · simp only [answer, System.run, spawned]
        exact .still rfl rfl rfl
      · simp only [answer, System.run, spawned]
        exact .joined rfl rfl rfl fun h member => ⟨c, hooks, rfl, member⟩
  | kill id =>
      simp only [answer, System.kill]
      split
      · rw [killRunner_eq]
        exact .asked rfl rfl rfl
      · exact .still rfl rfl rfl
  | killAll =>
      obtain ⟨asked, killed⟩ := s.killAll_eq
      simp only [answer, killed]
      exact .asked rfl rfl rfl
  | cancel | push | handleRoute | register | unregister | boot => exact .still rfl rfl rfl

theorem turn_of_runner {work : Runner.Action} (step : s.stepRunner? i work = some next) :
    Turn s (.runner i work) next := by
  obtain ⟨r, r', effects, found, taken, rfl⟩ := stepRunner?_eq_some step
  have flagged := flagged_foldl_absorb { s with runners := s.runners.set i r' } i r effects
  exact .watched found (Runner.step?_eq_some_iff.1 taken) (foldl_absorb_frame _ i r effects).2
    ⟨flagged.tasks, flagged.length, flagged.stays, flagged.cause, flagged.works⟩

theorem turn_of_enter (step : s.enter? i = some next) : Turn s (.enter i) next := by
  obtain ⟨c, queue, commands, accepted, rfl⟩ := enter?_eq_some step
  exact .still rfl rfl rfl

theorem turn_of_enroll (c : Command) (origin : Runner.Origin) :
    Turn s .enroll (s.enroll c origin) := by
  unfold enroll
  rcases s.spawn_cases c [] origin with ⟨log, e, spawned, -⟩ | ⟨factory, -, -, spawned⟩
  · rw [spawned]
    exact .still rfl rfl rfl
  · rw [spawned]
    exact .joined rfl rfl rfl nofun

theorem turn_of_boot (step : s.stepBoot? i = some next) : Turn s (.boot i) next := by
  obtain ⟨b, found, ⟨_, _, -, -, -, rfl⟩ | rfl | ⟨_, _, current, pending, rfl⟩⟩ :=
    stepBoot?_eq_some step
  · exact .still rfl rfl rfl
  · exact .still rfl rfl rfl
  · exact .begun found current pending

theorem close_eq (found : s.slices[n]? = some slice) (i : Nat) :
    { s with slices := s.slices.set n (slice.finish i) } = s.close n i := by
  rw [close, List.modify_eq_set_getElem?, found]
  rfl

theorem release_close_eq (found : s.slices[n]? = some slice) (i : Nat) (key : String)
    (value : Bool) :
    { s with slices := s.slices.set n ((slice.finish i).release key value) } =
      (s.close n i).release ⟨n, key⟩ value := by
  have bound := (List.getElem?_eq_some_iff.1 found).1
  rw [← close_eq found, release, List.modify_eq_set_getElem?, List.getElem?_set_self bound]
  simp

theorem turn_of_entry (step : s.stepEntry? n i = some next) : Turn s (.entry n i) next := by
  obtain ⟨slice, t, found, task, ⟨verdict, rfl⟩ | ⟨verdict, q, outcome, ran, rfl⟩⟩ :=
    stepEntry?_eq_some step
  · rw [release_close_eq found]
    exact .givenUp found task verdict
  · rw [close_eq found] at ran
    cases refused : s.refusal? t.entry.toCommand with
    | none =>
        have same : (s.close n i).refusal? t.entry.toCommand = none := refused
        obtain ⟨factory, spawned⟩ := spawn_accepted same _ .direct
        cases ran.symm.trans spawned
        exact .started found task verdict refused
    | some state =>
        have same : (s.close n i).refusal? t.entry.toCommand = some state := refused
        obtain ⟨log, e, spawned, -⟩ := spawn_refused same _ .direct
        cases ran.symm.trans spawned
        exact .refused found task verdict refused

theorem turn_of_step (step : s.step? act = some next) : Turn s act next := by
  cases act with
  | pass ms =>
      cases step
      exact .still rfl rfl rfl
  | call c =>
      cases step
      exact turn_of_call c
  | runner i work => exact turn_of_runner step
  | enter i => exact turn_of_enter step
  | dispatch | produce | deliver | stopDispatcher | stopProducer =>
      obtain ⟨queue, -, rfl⟩ := Option.map_eq_some_iff.1 step
      exact .still rfl rfl rfl
  | arm | count | wake | takeDirect | takeReleased | stopAdmission =>
      simp only [step?] at step
      split at step <;> cases step
      exact .still rfl rfl rfl
  | enroll =>
      simp only [step?] at step
      split at step <;> cases step
      exact turn_of_enroll _ _
  | boot i => exact turn_of_boot step
  | entry n i => exact turn_of_entry step

theorem Turn.of_runner {k : Nat} {r : Runner} {work : Runner.Action}
    (turn : Turn s (.runner k work) next) (found : s.runners[k]? = some r) :
    ∃ r' effects, Runner.Rule s.config s.clock r work r' effects ∧
      next.runners = s.runners.set k r' ∧
      s.Flagged next (effects.filterMap Runner.Effect.firing?) := by
  cases turn with
  | aside bystander => cases bystander
  | watched found' rule runners flagged =>
      cases found.symm.trans found'
      exact ⟨_, _, rule, runners, flagged⟩

end Manager.System

end Overseer
