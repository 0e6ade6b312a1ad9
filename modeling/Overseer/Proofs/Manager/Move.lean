import Overseer.Manager.Step
import Overseer.Proofs.Runner.Rule

/-!
# The moves of the manager

`Move` says what a step does to the jobs and to the commands on their way, with one constructor for
each kind of step. The clock, the factories, the routes, the boots and the log are bystanders: a
move says of them only that routes are added and that the log tells of a runner what the runner
does. `move_of_step` says that every step is such a move.
-/

namespace Overseer.Manager

def Action.isDirect : Action → Bool
  | .call (.run _ _) | .entry _ _ => true
  | _ => false

def Action.isAdmission : Action → Bool
  | .arm | .count | .wake | .takeDirect | .takeReleased | .enroll | .stopAdmission => true
  | _ => false

def Admission.awoken : Admission → Admission
  | .armed _ => .armed true
  | .waiting _ => .waiting true
  | a => a

def askToEnd (asked : Nat → Bool) (runners : List Runner) : List Runner :=
  runners.mapIdx fun i r => { r with killed := r.killed || asked i }

/-- What was written between two logs tells of no runner. -/
def Mute (before after : List LogEntry) : Prop :=
  ∀ i, (after.filter fun e => e.runner == some i) = before.filter fun e => e.runner == some i

theorem Mute.refl (log : List LogEntry) : Mute log log := fun _ => rfl

theorem Mute.trans {first second third : List LogEntry} (one : Mute first second)
    (other : Mute second third) : Mute first third :=
  fun i => (other i).trans (one i)

namespace System

def join (s : System) (c : Command) (factory : Nat) (hooks : List Hook) (origin : Runner.Origin) :
    System :=
  { s with
    runners := s.runners ++ [.new s.config s.now c factory hooks origin]
    registry := (c.id, s.runners.length) :: s.registry }

/-- What a step does to the jobs and to the commands on their way. -/
inductive Move (s : System) : Action → System → Prop where
  | aside {act : Action} {now : Nat} {factories : List (String × Nat)} {routes : List String}
      {slices : List Boot.Slice} {boots : List Boot.Sequence} {log : List LogEntry}
      (foreign : act.isAdmission = false) (routed : s.routes <+: routes) (mute : Mute s.log log) :
      Move s act { s with now, factories, routes, slices, boots, log }
  | start (fresh : s.started = false) :
      Move s (.call .start)
        { s with started := true, admission := .idle, queue := s.queue.start.1 }
  | cancel : Move s (.call .cancel) { s with queue := s.queue.cancel }
  | push {c : Command} : Move s (.call (.push c)) { s with pushes := s.pushes ++ [⟨c, .waiting⟩] }
  | kill {c : Call} {asked : Nat → Bool} :
      Move s (.call c) { s with runners := askToEnd asked s.runners }
  | run {act : Action} {c : Command} {factory : Nat} {hooks : List Hook}
      {slices : List Boot.Slice} (direct : act.isDirect = true)
      (known : s.factories.lookup c.command = some factory) (free : s.registry.lookup c.id = none) :
      Move s act { s.join c factory hooks .direct with slices }
  | work {i : Nat} {r next : Runner} {act : Runner.Action} {effects : List Runner.Effect}
      {slices : List Boot.Slice} {log : List LogEntry} (found : s.runners[i]? = some r)
      (rule : Runner.Rule s.config s.clock r act next effects) (staying : act ≠ .farewell) :
      Move s (.runner i act) { s with runners := s.runners.set i next, slices, log }
  | leave {i : Nat} {r : Runner} {result : JobResult} (found : s.runners[i]? = some r)
      (phase : r.phase = .closing result .leave) :
      Move s (.runner i .farewell)
        { s with
          runners := s.runners.set i { r with phase := .closing result .release }
          registry := s.registry.filter fun job => job.1 != r.command.id }
  | release {i : Nat} {r : Runner} {result : JobResult} (found : s.runners[i]? = some r)
      (phase : r.phase = .closing result .release) :
      Move s (.runner i .farewell)
        { s with
          runners := s.runners.set i { r with phase := .closing result .wake }
          queue := if r.origin = .released then s.queue.notify r.command.queue else s.queue }
  | awaken {i : Nat} {r : Runner} {result : JobResult} (found : s.runners[i]? = some r)
      (phase : r.phase = .closing result .wake) :
      Move s (.runner i .farewell)
        { s with
          runners := s.runners.set i { r with phase := .closing result .publish }
          admission := s.admission.awoken }
  | publish {i : Nat} {r : Runner} {result : JobResult} (found : s.runners[i]? = some r)
      (phase : r.phase = .closing result .publish) :
      Move s (.runner i .farewell)
        { s with runners := s.runners.set i { r with phase := .ended result } }
  | enterQueue {i : Nat} {c : Command} {log : List LogEntry}
      (found : s.pushes[i]? = some ⟨c, .waiting⟩) (queued : c.queue.isEmpty = false)
      (mute : Mute s.log log) :
      Move s (.enter i)
        { s with
          queue := (s.queue.push c).1
          pushes := s.pushes.set i ⟨c, if (s.queue.push c).2 then .accepted else .refused⟩
          log }
  | enterLine {i : Nat} {c : Command} {log : List LogEntry}
      (found : s.pushes[i]? = some ⟨c, .waiting⟩) (unqueued : c.queue.isEmpty = true)
      (isOpen : s.commandsOpen = true) (next : s.isNextPush i = true)
      (room : s.commands.length < s.config.effectiveMaxJobs) (mute : Mute s.log log) :
      Move s (.enter i)
        { s with
          commands := s.commands ++ [c]
          pushes := s.pushes.set i ⟨c, .accepted⟩
          log }
  | refuse {i : Nat} {c : Command} {log : List LogEntry}
      (found : s.pushes[i]? = some ⟨c, .waiting⟩) (unqueued : c.queue.isEmpty = true)
      (closed : s.commandsOpen = false) (mute : Mute s.log log) :
      Move s (.enter i) { s with pushes := s.pushes.set i ⟨c, .refused⟩, log }
  | dispatch {queue : Queue} (work : s.queue.dispatch? = some queue) :
      Move s .dispatch { s with queue }
  | produce {queue : Queue} (work : s.queue.produce? = some queue) :
      Move s .produce { s with queue }
  | deliver {queue : Queue} (work : s.queue.deliver? = some queue) :
      Move s .deliver { s with queue }
  | stopDispatcher {queue : Queue} (work : s.queue.stopDispatcher? = some queue) :
      Move s .stopDispatcher { s with queue }
  | stopProducer {queue : Queue} (work : s.queue.stopProducer? = some queue) :
      Move s .stopProducer { s with queue }
  | arm (idle : s.admission = .idle) : Move s .arm { s with admission := .armed false }
  | countRoom {woken : Bool} (armed : s.admission = .armed woken)
      (room : s.live < s.config.effectiveMaxJobs) : Move s .count { s with admission := .ready }
  | countFull {woken : Bool} (armed : s.admission = .armed woken)
      (full : s.config.effectiveMaxJobs ≤ s.live) :
      Move s .count { s with admission := .waiting woken }
  | wake (woken : s.admission = .waiting true) : Move s .wake { s with admission := .idle }
  | takeDirect {c : Command} {rest : List Command} (ready : s.admission = .ready)
      (line : s.commands = c :: rest) :
      Move s .takeDirect { s with admission := .holding c .admitted, commands := rest }
  | takeReleased {c : Command} {queue : Queue} (ready : s.admission = .ready)
      (work : s.queue.take? = some (c, queue)) :
      Move s .takeReleased { s with admission := .holding c .released, queue }
  | enroll {c : Command} {origin : Runner.Origin} {factory : Nat}
      (holding : s.admission = .holding c origin)
      (known : s.factories.lookup c.command = some factory) (free : s.registry.lookup c.id = none) :
      Move s .enroll { s.join c factory [] origin with admission := .idle }
  | reject {c : Command} {origin : Runner.Origin} {log : List LogEntry}
      (holding : s.admission = .holding c origin) (mute : Mute s.log log) :
      Move s .enroll
        { s with
          admission := .idle
          queue := if origin = .released then s.queue.notify c.queue else s.queue
          log }
  | stopAdmission (cancelled : s.cancelled = true) (rests : s.admissionRests = true) :
      Move s .stopAdmission s.stopAdmission

/-! ## Bystanders -/

theorem foldl_note (s : System) {α : Type} {f : System → α → System}
    (notes : ∀ s x, ∃ log, f s x = { s with log }) (l : List α) :
    ∃ log, l.foldl f s = { s with log } := by
  induction l generalizing s with
  | nil => exact ⟨s.log, rfl⟩
  | cons x rest ih =>
      obtain ⟨log, note⟩ := notes s x
      obtain ⟨last, fold⟩ := ih (f s x)
      exact ⟨last, by rw [List.foldl_cons, fold, note]⟩

theorem report_eq (s : System) (c : Command) (runner : Option Nat) (r : JobResult) :
    ∃ log, s.report c runner r = { s with log } := by
  obtain ⟨log, fold⟩ := foldl_note (s.note c.id runner (.result r))
    (f := fun s route => s.note c.id runner (.routed route r)) (fun _ _ => ⟨_, rfl⟩)
    (s.routes.filter (· == c.route))
  exact ⟨log, fold⟩

theorem mute_note (s : System) (id : String) (e : Event) : Mute s.log (s.note id none e).log :=
  fun i => by simp [note]

theorem mute_report (s : System) (c : Command) (r : JobResult) :
    Mute s.log (s.report c none r).log := by
  have routed : ∀ (routes : List String) (s : System), Mute s.log
      (routes.foldl (fun s route => s.note c.id none (.routed route r)) s).log := by
    intro routes
    induction routes with
    | nil => exact fun s => .refl _
    | cons route rest ih => exact fun s => (mute_note s _ _).trans (ih _)
  exact (mute_note s _ _).trans (routed _ _)

theorem reject_eq (s : System) (c : Command) (state : JobState) :
    ∃ log, s.reject c state = { s with log } ∧ Mute s.log log := by
  obtain ⟨log, reported⟩ := report_eq s c none (.new c state)
  have mute := mute_report s c (.new c state)
  rw [reported] at mute
  exact ⟨log, reported, mute⟩

theorem spawn_cases (s : System) (c : Command) (hooks : List Hook) (origin : Runner.Origin) :
    (∃ log e, s.spawn c hooks origin = ({ s with log }, .error e) ∧ Mute s.log log) ∨
      ∃ factory, s.factories.lookup c.command = some factory ∧ s.registry.lookup c.id = none ∧
        s.spawn c hooks origin = (s.join c factory hooks origin, .ok s.runners.length) := by
  unfold spawn
  split
  · obtain ⟨log, rejected, mute⟩ := s.reject_eq c .unknownCommand
    exact .inl ⟨log, _, by rw [rejected], mute⟩
  · rename_i factory known
    split
    · obtain ⟨log, rejected, mute⟩ := s.reject_eq c .duplicateId
      exact .inl ⟨log, _, by rw [rejected], mute⟩
    · rename_i free
      exact .inr ⟨factory, known, Option.not_isSome_iff_eq_none.1 free, rfl⟩

theorem absorb_eq (s : System) (i : Nat) (r : Runner) {e : Runner.Effect}
    (inner : e.isQuiet = true ∨ ∃ result, e = .result result) :
    ∃ slices log, absorb i r s e = { s with slices, log } := by
  cases e with
  | launched | terminated | message | flushed => exact ⟨_, _, rfl⟩
  | fired index hook f =>
      cases flag : hook.flag with
      | some flag' => exact ⟨_, _, by simp only [absorb, flag]; rfl⟩
      | none => exact ⟨_, _, by simp only [absorb, flag]; rfl⟩
  | result result =>
      obtain ⟨log, reported⟩ := report_eq s r.command (some i) result
      exact ⟨_, log, reported⟩
  | left | released | woke => simp [Runner.Effect.isQuiet] at inner

theorem foldl_absorb_eq (s : System) (i : Nat) (r : Runner) {effects : List Runner.Effect}
    (inner : ∀ e ∈ effects, e.isQuiet = true ∨ ∃ result, e = .result result) :
    ∃ slices log, effects.foldl (absorb i r) s = { s with slices, log } := by
  induction effects generalizing s with
  | nil => exact ⟨_, _, rfl⟩
  | cons e rest ih =>
      obtain ⟨slices, log, one⟩ := absorb_eq s i r (inner e List.mem_cons_self)
      obtain ⟨slices', log', fold⟩ := ih (absorb i r s e)
        fun e member => inner e (List.mem_cons_of_mem _ member)
      exact ⟨slices', log', by rw [List.foldl_cons, fold, one]⟩

theorem killRunner_eq (s : System) (i : Nat) :
    s.killRunner i = { s with runners := askToEnd (fun j => j == i) s.runners } := by
  unfold killRunner askToEnd
  congr 1
  apply List.ext_getElem?
  intro j
  rw [List.getElem?_modify, List.getElem?_mapIdx]
  by_cases same : i = j
  · simp [same]
  · have other : (j == i) = false := by simpa using Ne.symm same
    simp [same, other]

theorem askToEnd_none (runners : List Runner) : askToEnd (fun _ => false) runners = runners := by
  simp [askToEnd, List.mapIdx_eq_iff]

theorem askToEnd_askToEnd (first second : Nat → Bool) (runners : List Runner) :
    askToEnd second (askToEnd first runners) =
      askToEnd (fun i => first i || second i) runners := by
  simp [askToEnd, List.mapIdx_mapIdx, Function.comp_def, Bool.or_assoc]

theorem killAll_eq (s : System) :
    ∃ asked, s.killAll = { s with runners := askToEnd asked s.runners } := by
  unfold killAll
  have fold : ∀ (jobs : List (String × Nat)) (s : System),
      ∃ asked, jobs.foldl (fun s job => s.killRunner job.2) s =
        { s with runners := askToEnd asked s.runners } := by
    intro jobs
    induction jobs with
    | nil => exact fun s => ⟨fun _ => false, by rw [askToEnd_none]; rfl⟩
    | cons job rest ih =>
        intro s
        obtain ⟨asked, fold⟩ := ih (s.killRunner job.2)
        refine ⟨fun i => i == job.2 || asked i, ?_⟩
        rw [List.foldl_cons, fold, killRunner_eq, askToEnd_askToEnd]
  exact fold s.registry s

/-! ## Every step is a move -/

variable {s next : System}

theorem answer_move (c : Call) : Move s (.call c) (s.answer c) := by
  cases c with
  | start =>
      by_cases started : s.started = true
      · simp only [answer, System.start, started, if_true]
        exact .aside rfl (List.prefix_refl _) (.refl _)
      · simp only [answer, System.start, started]
        exact .start (eq_false_of_ne_true started)
  | cancel => exact .cancel
  | push c => exact .push
  | run c hooks =>
      rcases s.spawn_cases c hooks .direct with
        ⟨log, e, spawned, mute⟩ | ⟨factory, known, free, spawned⟩
      · simp only [answer, System.run, spawned]
        exact .aside rfl (List.prefix_refl _) mute
      · simp only [answer, System.run, spawned]
        exact .run rfl known free
  | handleRoute => exact .aside rfl (List.prefix_append _ _) (.refl _)
  | register | unregister | boot => exact .aside rfl (List.prefix_refl _) (.refl _)
  | kill id =>
      simp only [answer, System.kill]
      split
      · rw [killRunner_eq]
        exact .kill
      · exact .aside rfl (List.prefix_refl _) (.refl _)
  | killAll =>
      obtain ⟨asked, killed⟩ := s.killAll_eq
      simp only [answer, killed]
      exact .kill

theorem wakeAdmission_eq (s : System) :
    s.wakeAdmission = { s with admission := s.admission.awoken } := by
  cases admission : s.admission with
  | armed woken | waiting woken => simp only [wakeAdmission, Admission.awoken, admission]
  | _ =>
      simp only [wakeAdmission, Admission.awoken, admission]
      rw [← admission]

theorem stepRunner?_eq_some {i : Nat} {act : Runner.Action}
    (step : s.stepRunner? i act = some next) :
    ∃ r r' effects, s.runners[i]? = some r ∧ r.step? s.config s.clock act = some (r', effects) ∧
      next = effects.foldl (absorb i r) { s with runners := s.runners.set i r' } := by
  unfold stepRunner? at step
  split at step
  · cases step
  · rename_i r found
    split at step
    · cases step
    · rename_i r' effects taken
      cases step
      exact ⟨r, r', effects, found, taken, rfl⟩

theorem runner_move {i : Nat} {act : Runner.Action} (step : s.stepRunner? i act = some next) :
    Move s (.runner i act) next := by
  obtain ⟨r, r', effects, found, taken, rfl⟩ := stepRunner?_eq_some step
  have rule := Runner.step?_eq_some_iff.1 taken
  by_cases staying : act = .farewell
  · subst staying
    cases rule with
    | @farewell result k phase =>
        cases k with
        | leave => exact .leave found phase
        | release =>
            have moved := Move.release found phase
            by_cases released : r.origin = .released
            · simpa [Runner.farewell, absorb, released] using moved
            · simpa [Runner.farewell, absorb, released] using moved
        | wake =>
            have moved := Move.awaken found phase
            rw [Runner.farewell, List.foldl_cons, List.foldl_nil, absorb, wakeAdmission_eq]
            exact moved
        | publish => exact .publish found phase
  · have inner : ∀ e ∈ effects, e.isQuiet = true ∨ ∃ result, e = .result result := by
      rcases rule.effects_quiet staying with quiet | ⟨result, -, -, rfl⟩
      · exact fun e member => .inl (quiet e member)
      · exact fun e member => .inr ⟨result, List.mem_singleton.1 member⟩
    obtain ⟨slices, log, absorbed⟩ := foldl_absorb_eq
      { s with runners := s.runners.set i r' } i r inner
    rw [absorbed]
    exact .work found rule staying

theorem enter?_eq_some {i : Nat} (step : s.enter? i = some next) :
    ∃ c queue commands accepted,
      next = { s with queue, commands }.settlePush i c accepted := by
  unfold enter? at step
  split at step
  · rename_i c _
    split at step
    · cases step
      exact ⟨c, _, _, _, rfl⟩
    · split at step
      · cases step
        exact ⟨c, _, _, _, rfl⟩
      · split at step <;> cases step
        exact ⟨c, _, _, _, rfl⟩
  · cases step

theorem enter_move {i : Nat} (step : s.enter? i = some next) : Move s (.enter i) next := by
  unfold enter? at step
  split at step
  · rename_i c found
    split at step
    · rename_i queued
      cases step
      exact .enterQueue found (by simpa using queued) (mute_note s _ _)
    · rename_i unqueued
      have unqueued : c.queue.isEmpty = true := by simpa using unqueued
      split at step
      · rename_i closed
        cases step
        exact .refuse found unqueued (by simpa using closed) (mute_note s _ _)
      · rename_i opened
        split at step
        · rename_i room
          cases step
          simp only [Bool.and_eq_true, decide_eq_true_eq] at room
          exact .enterLine found unqueued (by simpa using opened) room.1 room.2 (mute_note s _ _)
        · cases step
  · cases step

theorem enroll_move {c : Command} {origin : Runner.Origin}
    (holding : s.admission = .holding c origin) : Move s .enroll (s.enroll c origin) := by
  unfold enroll
  rcases s.spawn_cases c [] origin with ⟨log, e, spawned, mute⟩ | ⟨factory, known, free, spawned⟩
  · rw [spawned]
    exact .reject holding mute
  · rw [spawned]
    exact .enroll holding known free

theorem stepBoot?_eq_some {i : Nat} (step : s.stepBoot? i = some next) :
    ∃ b, s.boots[i]? = some b ∧
      ((∃ n slice, b.current = some n ∧ s.slices[n]? = some slice ∧ slice.isUp = true ∧
          next = { s with boots := s.boots.set i { b with current := none } }) ∨
        next = note { s with boots := s.boots.set i { b with finished := true } } "" none .booted ∨
        ∃ entries rest, b.current = none ∧ b.pending = entries :: rest ∧
          next = { s with
            slices := s.slices ++ [.start entries]
            boots := s.boots.set i ⟨rest, some s.slices.length, false⟩ }) := by
  unfold stepBoot? at step
  split at step
  · cases step
  · rename_i b found
    refine ⟨b, found, ?_⟩
    split at step
    · cases step
    · split at step
      · rename_i n current
        split at step
        · rename_i slice coming
          split at step <;> cases step
          exact .inl ⟨n, slice, current, coming, ‹_›, rfl⟩
        · cases step
      · cases step
        exact .inr (.inl rfl)
      · rename_i entries rest current pending
        cases step
        exact .inr (.inr ⟨entries, rest, current, pending, rfl⟩)

theorem boot_move {i : Nat} (step : s.stepBoot? i = some next) : Move s (.boot i) next := by
  obtain ⟨b, -, ⟨_, _, -, -, -, rfl⟩ | rfl | ⟨_, _, -, -, rfl⟩⟩ := stepBoot?_eq_some step
  · exact .aside rfl (List.prefix_refl _) (.refl _)
  · exact .aside rfl (List.prefix_refl _) (mute_note s _ _)
  · exact .aside rfl (List.prefix_refl _) (.refl _)

theorem stepEntry?_eq_some {n i : Nat} (step : s.stepEntry? n i = some next) :
    ∃ slice t, s.slices[n]? = some slice ∧ slice.tasks[i]? = some t ∧
      (slice.verdict? t = some false ∧
          next = { s with slices := s.slices.set n ((slice.finish i).release t.entry.key false) } ∨
        slice.verdict? t = some true ∧ ∃ q outcome,
          spawn { s with slices := s.slices.set n (slice.finish i) } t.entry.toCommand
            (t.entry.readinessHooks ⟨n, t.entry.key⟩) .direct = (q, outcome) ∧
          next = match outcome with
            | .ok _ => q
            | .error _ => q.release ⟨n, t.entry.key⟩ false) := by
  unfold stepEntry? at step
  split at step
  · cases step
  · rename_i slice found
    split at step
    · cases step
    · rename_i t task
      refine ⟨slice, t, found, task, ?_⟩
      split at step
      · cases step
      · rename_i verdict
        cases step
        exact .inl ⟨verdict, rfl⟩
      · rename_i verdict
        simp only [System.run] at step
        split at step <;> cases step
        · exact .inr ⟨verdict, _, _, ‹_›, rfl⟩
        · exact .inr ⟨verdict, _, _, ‹_›, rfl⟩

theorem entry_move {n i : Nat} (step : s.stepEntry? n i = some next) :
    Move s (.entry n i) next := by
  obtain ⟨slice, t, -, -, ⟨-, rfl⟩ | ⟨-, q, outcome, ran, rfl⟩⟩ := stepEntry?_eq_some step
  · exact .aside rfl (List.prefix_refl _) (.refl _)
  · rcases spawn_cases { s with slices := s.slices.set n (slice.finish i) } t.entry.toCommand
      (t.entry.readinessHooks ⟨n, t.entry.key⟩) .direct with
      ⟨log, e, spawned, mute⟩ | ⟨factory, known, free, spawned⟩
    · cases ran.symm.trans spawned
      exact .aside rfl (List.prefix_refl _) mute
    · cases ran.symm.trans spawned
      exact .run rfl known free

theorem move_of_step {act : Action} (step : s.step? act = some next) : Move s act next := by
  cases act with
  | pass ms =>
      cases step
      exact .aside rfl (List.prefix_refl _) (.refl _)
  | call c =>
      cases step
      exact answer_move c
  | runner i act => exact runner_move step
  | enter i => exact enter_move step
  | dispatch =>
      obtain ⟨queue, work, rfl⟩ := Option.map_eq_some_iff.1 step
      exact .dispatch work
  | produce =>
      obtain ⟨queue, work, rfl⟩ := Option.map_eq_some_iff.1 step
      exact .produce work
  | deliver =>
      obtain ⟨queue, work, rfl⟩ := Option.map_eq_some_iff.1 step
      exact .deliver work
  | stopDispatcher =>
      obtain ⟨queue, work, rfl⟩ := Option.map_eq_some_iff.1 step
      exact .stopDispatcher work
  | stopProducer =>
      obtain ⟨queue, work, rfl⟩ := Option.map_eq_some_iff.1 step
      exact .stopProducer work
  | arm =>
      simp only [step?] at step
      split at step <;> cases step
      exact .arm ‹_›
  | count =>
      simp only [step?] at step
      split at step <;> cases step
      rename_i woken armed
      split
      · exact .countRoom armed ‹_›
      · exact .countFull armed (Nat.le_of_not_lt ‹_›)
  | wake =>
      simp only [step?] at step
      split at step <;> cases step
      exact .wake ‹_›
  | takeDirect =>
      simp only [step?] at step
      split at step <;> cases step
      exact .takeDirect ‹_› ‹_›
  | takeReleased =>
      simp only [step?] at step
      split at step <;> cases step
      exact .takeReleased ‹_› ‹_›
  | enroll =>
      simp only [step?] at step
      split at step <;> cases step
      exact enroll_move ‹_›
  | stopAdmission =>
      simp only [step?] at step
      split at step <;> cases step
      rename_i stopping
      simp only [Bool.and_eq_true] at stopping
      exact .stopAdmission stopping.1 stopping.2
  | boot i => exact boot_move step
  | entry n i => exact entry_move step

/-! ## Runs -/

def after? (s : System) (acts : List Action) : Option System := acts.foldlM step? s

theorem reachable_after {config : Config} {dawn : Int} (reach : Reachable config dawn s)
    {acts : List Action} (run : s.after? acts = some next) : Reachable config dawn next := by
  induction acts generalizing s with
  | nil =>
      cases run
      exact reach
  | cons act rest ih =>
      obtain ⟨middle, step, run⟩ := Option.bind_eq_some_iff.1 run
      exact ih (reach.next step) run

end System

end Overseer.Manager
