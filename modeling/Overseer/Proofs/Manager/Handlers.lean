import Overseer.Proofs.Boot.Gating
import Overseer.Proofs.Manager.Move

/-!
# What the handlers of results are told

The handlers are told of a job when its runner reports and when the job cannot be started. For these
steps, and for those by which a job is started, there is one theorem each that says what the step
does and what the handlers hear of it; `calls_of_silent` says that they hear of no other step.
-/

namespace Overseer.Manager

def Event.isCall : Event → Bool
  | .result _ | .routed _ _ => true
  | _ => false

/-- The calls that tell a result: of the handlers of every result first, then of those that are
registered for the route of the command. -/
def announcement (routes : List String) (c : Command) (r : JobResult) : List Event :=
  .result r :: (routes.filter (· == c.route)).map fun route => .routed route r

namespace System

def calls (s : System) : List Event := ((s.log.map LogEntry.event).filter Event.isCall).reverse

def refusal? (s : System) (c : Command) : Option JobState :=
  match s.factories.lookup c.command, s.registry.lookup c.id with
  | none, _ => some .unknownCommand
  | some _, some _ => some .duplicateId
  | some _, none => none

def direct? (s : System) : Action → Option Command
  | .call (.run c _) => some c
  | act => (s.submission? act).map fun (_, e) => e.toCommand

variable {s next : System} {act : Action} {c : Command}

theorem refusal?_cases {state : JobState} (refused : s.refusal? c = some state) :
    state = .unknownCommand ∨ state = .duplicateId := by
  unfold refusal? at refused
  split at refused
  · exact .inl (Option.some.inj refused).symm
  · exact .inr (Option.some.inj refused).symm
  · cases refused

/-! ## What is heard -/

theorem calls_note (s : System) (id : String) (runner : Option Nat) (e : Event) :
    (s.note id runner e).calls = s.calls ++ if e.isCall then [e] else [] := by
  unfold calls note
  rw [List.map_cons, List.filter_cons]
  split <;> simp

theorem calls_note_silent (s : System) (id : String) (runner : Option Nat) {e : Event}
    (silent : e.isCall = false) : (s.note id runner e).calls = s.calls := by
  rw [calls_note, silent]
  exact List.append_nil _

theorem calls_report (s : System) (c : Command) (runner : Option Nat) (r : JobResult) :
    (s.report c runner r).calls = s.calls ++ announcement s.routes c r := by
  have routed : ∀ (routes : List String) (s : System),
      (routes.foldl (fun s route => s.note c.id runner (.routed route r)) s).calls =
        s.calls ++ routes.map fun route => .routed route r := by
    intro routes
    induction routes with
    | nil => simp
    | cons route rest ih =>
        intro s
        rw [List.foldl_cons, ih, calls_note]
        simp [Event.isCall]
  rw [report, routed, calls_note]
  simp [Event.isCall, announcement]

theorem calls_absorb (s : System) (i : Nat) (r : Runner) {e : Runner.Effect}
    (silent : ∀ result, e ≠ .result result) : (absorb i r s e).calls = s.calls := by
  cases e with
  | launched | terminated | message | flushed => exact calls_note_silent _ _ _ rfl
  | fired index hook f =>
      cases flag : hook.flag with
      | some flag' => simp only [absorb, flag]; rfl
      | none => simp only [absorb, flag]; exact calls_note_silent _ _ _ rfl
  | result result => exact absurd rfl (silent result)
  | left => rfl
  | released =>
      simp only [absorb]
      split <;> rfl
  | woke => rw [absorb, wakeAdmission_eq]; rfl

theorem calls_foldl_absorb (s : System) (i : Nat) (r : Runner) {effects : List Runner.Effect}
    (silent : ∀ e ∈ effects, ∀ result, e ≠ .result result) :
    (effects.foldl (absorb i r) s).calls = s.calls := by
  induction effects generalizing s with
  | nil => rfl
  | cons e rest ih =>
      rw [List.foldl_cons, ih _ fun e member => silent e (List.mem_cons_of_mem _ member)]
      exact calls_absorb s i r (silent e List.mem_cons_self)

/-! ## Jobs that are started, or not -/

theorem spawn_accepted (accepted : s.refusal? c = none) (hooks : List Hook)
    (origin : Runner.Origin) :
    ∃ factory, s.spawn c hooks origin = (s.join c factory hooks origin, .ok s.runners.length) := by
  unfold refusal? at accepted
  split at accepted
  · cases accepted
  · cases accepted
  · rename_i factory known free
    exact ⟨factory, by simp only [spawn, known, free]; rfl⟩

theorem spawn_refused {state : JobState} (refused : s.refusal? c = some state) (hooks : List Hook)
    (origin : Runner.Origin) :
    ∃ log e, s.spawn c hooks origin = ({ s with log }, .error e) ∧
      System.calls { s with log } = s.calls ++ announcement s.routes c (.new c state) := by
  obtain ⟨log, reported⟩ := report_eq s c none (.new c state)
  have heard := calls_report s c none (.new c state)
  rw [reported] at heard
  unfold refusal? at refused
  split at refused
  · rename_i unknown
    cases refused
    exact ⟨log, .unknownCommand c.command, by simp only [spawn, unknown, reject, reported], heard⟩
  · rename_i factory number known taken
    cases refused
    exact ⟨log, .duplicateId c.id, by
      simp only [spawn, known, taken, reject, reported, Option.isSome_some, if_true], heard⟩
  · cases refused

theorem step_of_direct (direct : s.direct? act = some c) (step : s.step? act = some next) :
    (s.refusal? c = none ∧
      ∃ factory hooks slices, next = { s.join c factory hooks .direct with slices }) ∨
    ∃ state slices log, s.refusal? c = some state ∧ next = { s with slices, log } ∧
      next.calls = s.calls ++ announcement s.routes c (.new c state) := by
  by_cases called : ∃ hooks, act = .call (.run c hooks)
  · obtain ⟨hooks, rfl⟩ := called
    have ran : next = (s.spawn c hooks .direct).1 := (Option.some.inj step).symm
    cases refused : s.refusal? c with
    | none =>
        obtain ⟨factory, spawned⟩ := spawn_accepted refused hooks .direct
        rw [spawned] at ran
        exact .inl ⟨rfl, factory, hooks, s.slices, ran⟩
    | some state =>
        obtain ⟨log, e, spawned, heard⟩ := spawn_refused refused hooks .direct
        rw [spawned] at ran
        exact .inr ⟨state, s.slices, log, rfl, ran, ran ▸ heard⟩
  · obtain ⟨n, e, submits, rfl⟩ : ∃ n e, s.submission? act = some (n, e) ∧ e.toCommand = c := by
      unfold direct? at direct
      split at direct
      · exact absurd ⟨_, congrArg _ (congrArg₂ _ (Option.some.inj direct) rfl)⟩ called
      · obtain ⟨⟨n, e⟩, submits, same⟩ := Option.map_eq_some_iff.1 direct
        exact ⟨n, e, submits, same⟩
    obtain ⟨slices, hooks, starts, fails⟩ := step?_of_submission submits
    -- The entry counts as passed on before its job is started, so the slices have changed by then.
    have same : System.refusal? { s with slices } e.toCommand = s.refusal? e.toCommand := rfl
    cases refused : s.refusal? e.toCommand with
    | none =>
        obtain ⟨factory, spawned⟩ := spawn_accepted (same.trans refused) hooks .direct
        have stepped := starts _ _ spawned
        rw [step] at stepped
        exact .inl ⟨rfl, factory, hooks, slices, Option.some.inj stepped⟩
    | some state =>
        obtain ⟨log, cause, spawned, heard⟩ := spawn_refused (same.trans refused) hooks .direct
        have stepped := fails _ _ spawned
        rw [step] at stepped
        cases stepped
        exact .inr ⟨state, _, log, rfl, rfl, heard⟩

theorem step_of_enroll {origin : Runner.Origin} (holding : s.admission = .holding c origin)
    (step : s.step? .enroll = some next) :
    (s.refusal? c = none ∧
      ∃ factory, next = { s.join c factory [] origin with admission := .idle }) ∨
    ∃ state log, s.refusal? c = some state ∧
      next = { s with
        admission := .idle
        queue := if origin = .released then s.queue.notify c.queue else s.queue
        log } ∧
      next.calls = s.calls ++ announcement s.routes c (.new c state) := by
  have enrolled : next = s.enroll c origin := by
    simp only [step?, holding] at step
    exact (Option.some.inj step).symm
  cases refused : s.refusal? c with
  | none =>
      obtain ⟨factory, spawned⟩ := spawn_accepted refused [] origin
      rw [enroll, spawned] at enrolled
      exact .inl ⟨rfl, factory, enrolled⟩
  | some state =>
      obtain ⟨log, e, spawned, heard⟩ := spawn_refused refused [] origin
      rw [enroll, spawned] at enrolled
      exact .inr ⟨state, log, rfl, enrolled, enrolled ▸ heard⟩

theorem step_of_report {i : Nat} (step : s.step? (.runner i .report) = some next) :
    ∃ r result log, s.runners[i]? = some r ∧ r.phase = .stopping result ∧
      next = { s with
        runners := s.runners.set i { r with phase := .closing result .leave }
        log } ∧
      next.calls = s.calls ++ announcement s.routes r.command result := by
  obtain ⟨r, r', effects, found, taken, rfl⟩ := stepRunner?_eq_some step
  cases Runner.step?_eq_some_iff.1 taken with
  | @report result phase stopped =>
      let reported : System :=
        { s with runners := s.runners.set i { r with phase := .closing result .leave } }
      obtain ⟨log, told⟩ := report_eq reported r.command (some i) result
      have heard := calls_report reported r.command (some i) result
      rw [told] at heard
      refine ⟨r, result, log, found, phase, told, ?_⟩
      show System.calls (reported.report r.command (some i) result) = _
      rw [told]
      exact heard

/-! ## Steps of which the handlers do not hear -/

theorem calls_of_call {c : Call} (direct : s.direct? (.call c) = none) :
    (s.answer c).calls = s.calls := by
  cases c with
  | start =>
      by_cases started : s.started = true
      · simp only [answer, System.start, started, if_true]
      · simp only [answer, System.start, started]
        rfl
  | run c hooks => cases direct
  | kill id =>
      simp only [answer, System.kill]
      split <;> rfl
  | killAll =>
      obtain ⟨asked, killed⟩ := s.killAll_eq
      simp only [answer, killed]
      rfl
  | cancel | push | handleRoute | register | unregister | boot => rfl

theorem calls_of_runner {i : Nat} {work : Runner.Action} (step : s.stepRunner? i work = some next)
    (silent : work ≠ .report) : next.calls = s.calls := by
  obtain ⟨r, r', effects, -, taken, rfl⟩ := stepRunner?_eq_some step
  exact calls_foldl_absorb _ i r ((Runner.step?_eq_some_iff.1 taken).no_result silent)

theorem calls_of_enter {i : Nat} (step : s.enter? i = some next) : next.calls = s.calls := by
  obtain ⟨c, queue, commands, accepted, rfl⟩ := enter?_eq_some step
  exact calls_note_silent _ _ _ rfl

theorem calls_of_boot {i : Nat} (step : s.stepBoot? i = some next) : next.calls = s.calls := by
  obtain ⟨b, -, ⟨_, _, -, -, -, rfl⟩ | rfl | ⟨_, _, -, -, rfl⟩⟩ := stepBoot?_eq_some step
  · rfl
  · exact calls_note_silent _ _ _ rfl
  · rfl

theorem entry_given_up {n i : Nat} (direct : s.direct? (.entry n i) = none)
    (step : s.stepEntry? n i = some next) : ∃ slices, next = { s with slices } := by
  obtain ⟨slice, t, found, task, ⟨-, rfl⟩ | ⟨verdict, -⟩⟩ := stepEntry?_eq_some step
  · exact ⟨_, rfl⟩
  · simp [direct?, submission?, found, task, verdict] at direct

theorem calls_of_silent (step : s.step? act = some next) (direct : s.direct? act = none)
    (resting : act ≠ .enroll) (silent : ∀ i, act ≠ .runner i .report) : next.calls = s.calls := by
  cases act with
  | pass ms =>
      cases step
      rfl
  | call c =>
      cases step
      exact calls_of_call direct
  | runner i work => exact calls_of_runner step fun report => silent i (congrArg _ report)
  | enter i => exact calls_of_enter step
  | dispatch | produce | deliver | stopDispatcher | stopProducer =>
      obtain ⟨queue, -, rfl⟩ := Option.map_eq_some_iff.1 step
      rfl
  | arm | count | wake | takeDirect | takeReleased | stopAdmission =>
      simp only [step?] at step
      split at step <;> cases step
      rfl
  | enroll => exact absurd rfl resting
  | boot i => exact calls_of_boot step
  | entry n i =>
      obtain ⟨slices, rfl⟩ := entry_given_up direct step
      rfl

end System

end Overseer.Manager
