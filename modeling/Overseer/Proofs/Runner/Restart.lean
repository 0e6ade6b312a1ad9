import Overseer.Proofs.Runner.Rule

/-!
# When a job runs again

A job that nobody asks to end goes through attempts, and each attempt that ends is followed by
another one after a pause, or by the end of the job. `sequel` says which, from the attempts so far
alone; `restart_policy` says that every runner keeps to it, whatever its processes do and whenever
its steps are taken.
-/

namespace Overseer.Runner

structure Outcome where
  result : JobResult
  elapsed : Nat
  spawned : Bool
  deriving DecidableEq, Repr

def Outcome.state (o : Outcome) : JobState := o.result.state

def ending? (clock : Clock) (r : Runner) : Action → Option Outcome
  | .launch l =>
      l.failure.map fun error => ⟨Attempt.failedResult r.command clock.epoch error, 0, false⟩
  | .conclude =>
      match r.phase with
      | .draining a => some ⟨a.conclude clock.now, clock.now - a.began, true⟩
      | _ => none
  | _ => none

/-- A job on its way as long as nobody asks it to end, with the attempts that have ended, the latest
first. -/
inductive Course (config : Manager.Config) (command : Command) : List Outcome → Runner → Prop where
  | new (now factory : Nat) (hooks : List Hook) (origin : Origin) :
      Course config command [] (.new config now command factory hooks origin)
  | next {past : List Outcome} {r next : Runner} {clock : Clock} {act : Action}
      {effects : List Effect} (course : Course config command past r) (calm : act ≠ .kill)
      (step : r.step? config clock act = some (next, effects)) :
      Course config command ((r.ending? clock act).toList ++ past) next

/-- The failed attempts in a row: back to the last success, or to the last failed attempt that was
not shorter than the window, this one included. -/
def failuresInRow (window : Nat) : List Outcome → Nat
  | [] => 0
  | o :: past =>
      if o.state = .success then 0
      else if window ≤ o.elapsed then 1
      else failuresInRow window past + 1

def nextDelay? (config : Manager.Config) (command : Command) (o : Outcome) (past : List Outcome) :
    Option Nat :=
  if o.spawned = false ∨ o.state = .killed then none
  else if o.state ≠ .success ∧ 0 < command.maxRestart.toNat ∧
      failuresInRow config.stabilityWindow (o :: past) < command.maxRestart.toNat then
    some config.restartDelay
  else if 0 < command.recurringPeriod.toNat then
    some (command.recurringPeriod.toNat * Clock.millisPerSecond)
  else none

/-- What follows an attempt that ended at `now` after the past ones: a pause, or the end of the
job. -/
def sequel (config : Manager.Config) (command : Command) (now : Nat) (o : Outcome)
    (past : List Outcome) : Phase :=
  match nextDelay? config command o past with
  | some delay => .pausing o.result (Clock.wakeAt now delay)
  | none => .stopping o.result

inductive Stage where
  | waiting
  /-- An attempt is under way, or has cost the runner its life. -/
  | running
  | pausing (result : JobResult)
  | finished (result : JobResult)
  deriving DecidableEq, Repr

def Phase.stage : Phase → Stage
  | .starting => .waiting
  | .listening _ | .draining _ | .crashed => .running
  | .pausing result _ => .pausing result
  | .stopping result | .closing result _ | .ended result => .finished result

def stage (r : Runner) : Stage := r.phase.stage

def Stage.ongoing : Stage → Nat
  | .running => 1
  | _ => 0

section
variable {config : Manager.Config} {command : Command} {past : List Outcome} {clock : Clock}
  {r next : Runner} {act : Action} {effects : List Effect}

/-! ## What a step does to the attempts -/

inductive Turn (config : Manager.Config) (clock : Clock) (r : Runner) (act : Action)
    (next : Runner) : Prop where
  | begun (before : r.stage = .waiting) (after : next.stage = .running)
      (failures : next.failures = r.failures) (attempts : next.attempts = r.attempts + 1)
      (ending : r.ending? clock act = none)
  | failed (result : JobResult) (before : r.stage = .waiting)
      (after : next.phase = .stopping result) (attempts : next.attempts = r.attempts + 1)
      (ending : r.ending? clock act = some ⟨result, 0, false⟩)
  | ended (a : Attempt) (before : r.stage = .running)
      (after : next = (r.conclude config clock a).1) (attempts : next.attempts = r.attempts)
      (ending : r.ending? clock act = some ⟨a.conclude clock.now, clock.now - a.began, true⟩)
  | resumed (result : JobResult) (before : r.stage = .pausing result)
      (after : next.stage = .waiting) (failures : next.failures = r.failures)
      (attempts : next.attempts = r.attempts) (ending : r.ending? clock act = none)
  | same (stage : next.stage = r.stage) (failures : next.failures = r.failures)
      (attempts : next.attempts = r.attempts) (ending : r.ending? clock act = none)

structure Abandoned (clock : Clock) (r : Runner) (act : Action) (next : Runner)
    (result : JobResult) : Prop where
  killed : r.killed = true
  before : r.stage = .pausing result
  after : next.stage = .finished { result with state := .killed }
  attempts : next.attempts = r.attempts
  ending : r.ending? clock act = none

theorem conclude_attempts (config : Manager.Config) (clock : Clock) (r : Runner) (a : Attempt) :
    (r.conclude config clock a).1.attempts = r.attempts := by
  obtain ⟨hooks, concluded⟩ := conclude_fst config clock r a
  rw [concluded]
  split
  · rfl
  · split <;> rfl

theorem Rule.turn_or_abandoned (rule : Rule config clock r act next effects) :
    Turn config clock r act next ∨ ∃ result, Abandoned clock r act next result := by
  have still {p : Phase} (phase : r.phase = p) : r.stage = p.stage := congrArg Phase.stage phase
  cases rule with
  | @launch l phase =>
      obtain ⟨hooks, q, seen, launch, -, launched⟩ := launch_cases config clock r l
      rw [launch]
      cases launched with
      | followed spawned | crashed spawned =>
          exact .inl (.begun (still phase) rfl rfl rfl (by simp [ending?, spawned]))
      | failed failure =>
          exact .inl (.failed _ (still phase) rfl rfl (by simp [ending?, failure]))
  | abandon phase killed => exact .inr ⟨_, killed, still phase, rfl, rfl, rfl⟩
  | @tick a phase due => exact .inl (.same (still phase).symm rfl rfl rfl)
  | @receive a m rest phase stream =>
      obtain ⟨_, _, _, received, following⟩ := receive_fst clock r { a with stream := rest } m
      rw [received]
      refine .inl (.same ?_ rfl rfl rfl)
      rw [still phase]
      rcases following with ⟨b, rfl⟩ | ⟨b, rfl⟩ <;> rfl
  | @conclude a phase stream closed =>
      exact .inl
        (.ended a (still phase) rfl (conclude_attempts _ _ _ _) (by simp [ending?, phase]))
  | resume phase due => exact .inl (.resumed _ (still phase) rfl rfl rfl rfl)
  | @farewell result k phase =>
      refine .inl (.same ?_ ?_ ?_ rfl) <;> cases k
      all_goals first | rfl | exact (still phase).symm
  | kill | collect | flush => exact .inl (.same rfl rfl rfl rfl)
  | obey phase | expire phase | sample phase | endOfStream phase | emit phase | hangUp phase
  | discard phase | lateEmit phase | lateHangUp phase | report phase =>
      exact .inl (.same (still phase).symm rfl rfl rfl)

theorem Rule.turn (rule : Rule config clock r act next effects) (spared : r.killed = false) :
    Turn config clock r act next := by
  refine rule.turn_or_abandoned.resolve_right ?_
  rintro ⟨result, abandoned⟩
  cases abandoned.killed.symm.trans spared

/-! ## The course of a job -/

theorem Course.command_eq (course : Course config command past r) : r.command = command := by
  induction course with
  | new => rfl
  | next _ _ step ih => rw [(step?_eq_some_iff.1 step).command_eq, ih]

theorem Course.spared (course : Course config command past r) : r.killed = false := by
  induction course with
  | new => rfl
  | next _ calm step ih => rw [(step?_eq_some_iff.1 step).killed_eq calm, ih]

theorem Course.turn (course : Course config command past r)
    (step : r.step? config clock act = some (next, effects)) :
    Turn config clock r act next :=
  (step?_eq_some_iff.1 step).turn course.spared

theorem Policy.next_eq {o : Outcome} {failures : Nat} (spawned : o.spawned = true)
    (spared : o.state ≠ .killed)
    (counted : 0 < command.maxRestart.toNat →
      failures = failuresInRow config.stabilityWindow past) :
    ((Policy.of config command).next failures o.state o.elapsed).2 =
        nextDelay? config command o past ∧
      (0 < command.maxRestart.toNat → (nextDelay? config command o past).isSome = true →
        ((Policy.of config command).next failures o.state o.elapsed).1 =
          failuresInRow config.stabilityWindow (o :: past)) := by
  have period : command.recurringPeriod.toNat * Clock.millisPerSecond = 0 ↔
      ¬0 < command.recurringPeriod.toNat := by
    unfold Clock.millisPerSecond
    omega
  -- After a success nothing is counted; without a limit it does not matter what is.
  by_cases success : o.state = .success
  · by_cases recurring : 0 < command.recurringPeriod.toNat <;>
      simp [Policy.next, Policy.of, nextDelay?, spawned, success, JobState.isSuccess, failuresInRow,
        period, recurring]
  · have isSuccess : o.state.isSuccess = false := by
      simpa [JobState.isSuccess] using success
    by_cases limit : 0 < command.maxRestart.toNat
    · have count : (Policy.of config command).countFailure failures o.elapsed =
          failuresInRow config.stabilityWindow (o :: past) := by
        simp [Policy.countFailure, Policy.of, failuresInRow, success, counted limit]
      simp only [Policy.next, isSuccess, count, nextDelay?, spawned, spared]
      by_cases below :
          failuresInRow config.stabilityWindow (o :: past) < command.maxRestart.toNat
      · simp [Policy.of, below, success, limit]
      · by_cases recurring : 0 < command.recurringPeriod.toNat <;>
          simp [Policy.of, below, limit, period, recurring]
    · by_cases recurring : 0 < command.recurringPeriod.toNat <;>
        simp [Policy.next, isSuccess, limit, Policy.of, nextDelay?, spawned, spared, period,
          recurring]

theorem conclude_eq_sequel (a : Attempt)
    (counted : 0 < r.command.maxRestart.toNat →
      r.failures = failuresInRow config.stabilityWindow past) :
    (r.conclude config clock a).1.phase = sequel config r.command clock.now
          ⟨a.conclude clock.now, clock.now - a.began, true⟩ past ∧
      (0 < r.command.maxRestart.toNat →
        (∀ result, (r.conclude config clock a).1.stage ≠ .finished result) →
        (r.conclude config clock a).1.failures = failuresInRow config.stabilityWindow
          (⟨a.conclude clock.now, clock.now - a.began, true⟩ :: past)) := by
  obtain ⟨hooks, concluded⟩ := conclude_fst config clock r a
  rw [concluded]
  by_cases killed : (a.conclude clock.now).state = .killed
  · rw [if_pos killed]
    refine ⟨by simp [sequel, nextDelay?, Outcome.state, killed, stop], fun _ going => ?_⟩
    exact absurd rfl (going _)
  · rw [if_neg killed]
    obtain ⟨delay, failures⟩ := Policy.next_eq
      (o := ⟨a.conclude clock.now, clock.now - a.began, true⟩) rfl killed counted
    rw [sequel]
    rw [← delay] at failures ⊢
    simp only [Outcome.state] at failures ⊢
    generalize (Policy.of config r.command).next r.failures (a.conclude clock.now).state
      (clock.now - a.began) = planned at failures
    obtain ⟨count, _ | d⟩ := planned
    · exact ⟨rfl, fun _ going => absurd rfl (going _)⟩
    · exact ⟨rfl, fun limit _ => failures limit rfl⟩

theorem stage_sequel (now : Nat) (o : Outcome) :
    (sequel config command now o past).stage =
      match nextDelay? config command o past with
      | some _ => .pausing o.result
      | none => .finished o.result := by
  unfold sequel
  cases nextDelay? config command o past <;> rfl

theorem Course.failures_eq (course : Course config command past r)
    (limit : 0 < command.maxRestart.toNat) (going : ∀ result, r.stage ≠ .finished result) :
    r.failures = failuresInRow config.stabilityWindow past := by
  induction course with
  | new => rfl
  | @next past r next clock act effects course _ step ih =>
      cases course.turn step with
      | begun before after failures attempts ending
      | resumed _ before after failures attempts ending =>
          rw [failures, ending]
          exact ih (by simp [before])
      | failed result before after attempts ending =>
          exact absurd (congrArg Phase.stage after) (going result)
      | ended a before after attempts ending =>
          rw [ending]
          subst after
          have counted : 0 < r.command.maxRestart.toNat →
              r.failures = failuresInRow config.stabilityWindow past :=
            fun _ => ih (by simp [before])
          rw [← course.command_eq] at limit
          exact (conclude_eq_sequel a counted).2 limit going
      | same stage failures attempts ending =>
          rw [failures, ending]
          exact ih (stage ▸ going)

theorem Course.sequel_eq {o : Outcome} (course : Course config command past r)
    (step : r.step? config clock act = some (next, effects))
    (ending : r.ending? clock act = some o) :
    next.phase = sequel config command clock.now o past := by
  cases course.turn step with
  | failed result before after attempts ended =>
      rw [ended, Option.some.injEq] at ending
      subst ending
      rw [after]
      rfl
  | ended a before after attempts ended =>
      rw [ended, Option.some.injEq] at ending
      subst ending
      have counted : 0 < r.command.maxRestart.toNat →
          r.failures = failuresInRow config.stabilityWindow past :=
        fun limit => course.failures_eq (course.command_eq ▸ limit) (by simp [before])
      rw [after, (conclude_eq_sequel a counted).1, course.command_eq]
  | begun _ _ _ _ none | resumed _ _ _ _ _ none | same _ _ _ none =>
      rw [none] at ending
      cases ending

theorem Course.result_eq {result : JobResult} (course : Course config command past r)
    (finished : r.stage = .finished result) :
    ∃ o earlier, past = o :: earlier ∧ o.result = result := by
  induction course generalizing result with
  | new => cases finished
  | @next past r next clock act effects course _ step ih =>
      cases course.turn step with
      | begun before after failures attempts ending => simp [after] at finished
      | failed res before after attempts ending =>
          rw [ending]
          rw [stage, after, Phase.stage, Stage.finished.injEq] at finished
          exact ⟨_, past, rfl, finished⟩
      | ended a before after attempts ending =>
          have phase := course.sequel_eq step ending
          rw [ending]
          rw [stage, phase, stage_sequel] at finished
          split at finished
          · cases finished
          · exact ⟨_, past, rfl, Stage.finished.inj finished⟩
      | resumed res before after failures attempts ending => simp [after] at finished
      | same stage failures attempts ending =>
          rw [ending]
          exact ih (stage ▸ finished)

theorem Course.attempts_eq (course : Course config command past r) :
    r.attempts = past.length + r.stage.ongoing := by
  induction course with
  | new => rfl
  | @next past r next clock act effects course _ step ih =>
      cases course.turn step with
      | begun before after failures attempts ending
      | resumed _ before after failures attempts ending =>
          simp [attempts, ih, before, after, ending, Stage.ongoing]
      | failed result before after attempts ending =>
          have finished : next.stage = .finished result := congrArg Phase.stage after
          simp [attempts, ih, before, finished, ending, Stage.ongoing]
      | ended a before after attempts ending =>
          have resting : next.stage.ongoing = 0 := by
            rw [stage, course.sequel_eq step ending, stage_sequel]
            split <;> rfl
          rw [resting, ending]
          simp [attempts, ih, before, Stage.ongoing]
      | same stage failures attempts ending => simp [attempts, ih, stage, ending]

/-- If every attempt is followed by another one until there are as many as a limit says, then a job
is over exactly when it has come to the limit, and never if there is none. -/
theorem Course.length_of_limit (course : Course config command past r) (limit : Option Nat)
    (room : ∀ n ∈ limit, 0 < n)
    (granted : ∀ o earlier, o :: earlier <:+ past →
      ((nextDelay? config command o earlier).isSome = true ↔
        ∀ n ∈ limit, earlier.length + 1 < n)) :
    match r.stage with
    | .finished _ => limit = some past.length
    | _ => ∀ n ∈ limit, past.length < n := by
  induction course with
  | new => exact room
  | @next past r next clock act effects course _ step ih =>
      have after_end {o : Outcome} (ending : r.ending? clock act = some o)
          (bound : ∀ n ∈ limit, past.length < n) :
          match next.stage with
          | .finished _ => limit = some ((r.ending? clock act).toList ++ past).length
          | _ => ∀ n ∈ limit, ((r.ending? clock act).toList ++ past).length < n := by
        have following := granted o past (by rw [ending]; exact List.suffix_refl _)
        rw [stage, course.sequel_eq step ending, stage_sequel, ending]
        cases planned : nextDelay? config command o past with
        | some delay => exact following.1 (by rw [planned]; rfl)
        | none =>
            rw [planned] at following
            cases limit with
            | none => simp at following
            | some n =>
                have fits := bound n rfl
                have spent : ¬past.length + 1 < n := fun more => by simp [more] at following
                show some n = some (past.length + 1)
                rw [Option.some.injEq]
                omega
      have before_end (ending : r.ending? clock act = none) :
          match r.stage with
          | .finished _ => limit = some ((r.ending? clock act).toList ++ past).length
          | _ => ∀ n ∈ limit, ((r.ending? clock act).toList ++ past).length < n := by
        rw [ending] at granted ⊢
        exact ih granted
      cases course.turn step with
      | failed result before after attempts ending
      | ended a before after attempts ending =>
          refine after_end ending ?_
          have bound := ih fun o earlier within => granted o earlier
            (within.trans (List.suffix_append _ _))
          rwa [before] at bound
      | begun before after failures attempts ending
      | resumed result before after failures attempts ending =>
          have bound := before_end ending
          rw [before] at bound
          rw [after]
          exact bound
      | same stage failures attempts ending =>
          rw [stage]
          exact before_end ending

/-- An attempt that failed before the window was over. -/
def Outcome.FailedSoon (window : Nat) (o : Outcome) : Prop :=
  o.spawned = true ∧ o.state ≠ .success ∧ o.state ≠ .killed ∧ o.elapsed < window

theorem failuresInRow_of_soon {window : Nat} {past : List Outcome}
    (soon : ∀ o ∈ past, o.FailedSoon window) : failuresInRow window past = past.length := by
  induction past with
  | nil => rfl
  | cons o earlier ih =>
      obtain ⟨-, failed, -, short⟩ := soon o List.mem_cons_self
      rw [failuresInRow, if_neg failed, if_neg (by omega),
        ih fun o member => soon o (List.mem_cons_of_mem _ member), List.length_cons]

theorem nextDelay?_of_soon {o : Outcome} (once : command.recurringPeriod.toNat = 0)
    (soon : ∀ x ∈ o :: past, x.FailedSoon config.stabilityWindow) :
    nextDelay? config command o past =
      if past.length + 1 < command.maxRestart.toNat then some config.restartDelay else none := by
  obtain ⟨spawned, failed, spared, -⟩ := soon o List.mem_cons_self
  have count := failuresInRow_of_soon soon
  rw [List.length_cons] at count
  by_cases below : past.length + 1 < command.maxRestart.toNat
  · have limit : 0 < command.maxRestart.toNat := by omega
    simp [nextDelay?, spawned, failed, spared, count, below, limit]
  · simp [nextDelay?, spawned, spared, count, below, once]

theorem Course.length_of_soon (course : Course config command past r)
    (once : command.recurringPeriod.toNat = 0)
    (soon : ∀ o ∈ past, o.FailedSoon config.stabilityWindow) :
    match r.stage with
    | .finished _ => past.length = max 1 command.maxRestart.toNat
    | _ => past.length < max 1 command.maxRestart.toNat := by
  have bound := course.length_of_limit (some (max 1 command.maxRestart.toNat))
    (by simp) fun o earlier within => by
      rw [nextDelay?_of_soon once fun x member => soon x (within.subset member)]
      split <;> simp <;> omega
  cases stage : r.stage <;> simp only [stage] at bound ⊢
  case finished => exact (Option.some.inj bound).symm
  all_goals exact bound _ rfl

theorem Rule.finished_of_result {result : JobResult} (rule : Rule config clock r act next effects)
    (delivered : .result result ∈ effects) : r.stage = .finished result := by
  by_cases last : act = .farewell
  · subst last
    cases rule with
    | @farewell _ k _ => cases k <;> simp [Runner.farewell] at delivered
  · rcases rule.effects_quiet last with quiet | ⟨res, phase, -, rfl⟩
    · exact absurd (quiet _ delivered) (by simp [Effect.isQuiet])
    · cases List.mem_singleton.1 delivered
      exact congrArg Phase.stage phase

theorem finished_of_published {result : JobResult} (published : r.published? = some result) :
    r.stage = .finished result := congrArg Phase.stage (phase_of_published published)

/-- How the attempts of a job follow one another as long as nobody asks it to end. An attempt that
ends is followed by what `sequel` says; the result that is delivered is that of the last attempt;
and of a job that runs once and whose attempts all fail soon, no more processes are spawned than
failures are allowed, but at least one, and exactly so many by the time it is over. -/
theorem restart_policy (course : Course config command past r) :
    (∀ clock act next effects o, r.step? config clock act = some (next, effects) →
        r.ending? clock act = some o → next.phase = sequel config command clock.now o past) ∧
      (∀ clock act next effects result, r.step? config clock act = some (next, effects) →
        .result result ∈ effects → ∃ o earlier, past = o :: earlier ∧ o.result = result) ∧
      (∀ result, r.published? = some result →
        ∃ o earlier, past = o :: earlier ∧ o.result = result) ∧
      (command.recurringPeriod.toNat = 0 →
        (∀ o ∈ past, o.FailedSoon config.stabilityWindow) →
        r.attempts ≤ max 1 command.maxRestart.toNat ∧
          ∀ result, r.stage = .finished result → r.attempts = max 1 command.maxRestart.toNat) := by
  refine ⟨fun _ _ _ _ _ step ending => course.sequel_eq step ending, ?_, ?_, ?_⟩
  · intro clock act next effects result step delivered
    exact course.result_eq ((step?_eq_some_iff.1 step).finished_of_result delivered)
  · intro result published
    exact course.result_eq (finished_of_published published)
  · intro once soon
    have bound := course.length_of_soon once soon
    rw [course.attempts_eq]
    cases stage : r.stage with
    | finished result =>
        rw [stage] at bound
        simp [Stage.ongoing, bound]
    | waiting | running | pausing =>
        rw [stage] at bound
        simp only [Stage.ongoing]
        exact ⟨by omega, by simp⟩

end

theorem restart_policy_first_failure :
    let command : Command := { Command.new "job" "test" with maxRestart := 2 }
    ∃ r o, Course .default command [] r ∧ r.ending? ⟨5, 5⟩ .conclude = some o ∧
      ∀ next effects, r.step? .default ⟨5, 5⟩ .conclude = some (next, effects) →
        next.phase = .pausing o.result 1005 := by
  intro command
  have fresh : Course .default command [] _ := .new 0 0 [] .direct
  have begun := fresh.next (by simp)
    (rfl : step? .default ⟨0, 0⟩ _ (.launch ⟨[], none⟩) = some (_, _))
  have silent := begun.next (by simp) (rfl : step? .default ⟨5, 5⟩ _ .hangUp = some (_, _))
  have drained := silent.next (by simp) (rfl : step? .default ⟨5, 5⟩ _ .receive = some (_, _))
  refine ⟨_, _, drained, rfl, ?_⟩
  intro next effects step
  exact (restart_policy drained).1 _ _ _ _ _ step rfl

end Overseer.Runner
