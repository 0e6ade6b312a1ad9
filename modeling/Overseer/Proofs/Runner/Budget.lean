import Mathlib
import Overseer.Proofs.Runner.Digest
import Overseer.Proofs.Runner.FirstAttempt
import Overseer.Proofs.Runner.Result

/-!
# How often a job that always fails is tried

The failures in a row of a job are counted against a limit, and after an attempt that was not
shorter than the window the earlier ones are forgotten. No attempt is shorter than a window of no
length, so that then a job that may fail twice may fail for ever.
-/

namespace Overseer.Runner

def Outcome.FailedAtOnce (o : Outcome) : Prop :=
  o.spawned = true ∧ o.state = .error ∧ o.elapsed = 0

instance (o : Outcome) : Decidable o.FailedAtOnce := inferInstanceAs (Decidable (_ ∧ _ ∧ _))

def Taken.asks (t : Taken) : Bool :=
  match t.act with
  | .kill => true
  | _ => false

/-- Steps of a job that nobody asks to end and of which every attempt fails at once. -/
structure Failing (past : List Taken) : Prop where
  spared : ∀ t ∈ past, t.asks = false
  prompt : ∀ o ∈ outcomes past, o.FailedAtOnce

def budget? (config : Manager.Config) (command : Command) : Option Nat :=
  if config.stabilityWindow = 0 ∧ 1 < command.maxRestart.toNat then none
  else some (max 1 command.maxRestart.toNat)

section
variable {config : Manager.Config} {command : Command} {clock : Clock} {r next : Runner}
  {act : Action} {effects : List Effect} {past later : List Taken} {t : Taken} {o : Outcome}
  {earlier : List Outcome} {result : JobResult}

/-! ## What is counted -/

theorem nextDelay?_of_failing (once : command.recurringPeriod.toNat = 0)
    (prompt : ∀ x ∈ o :: earlier, x.FailedAtOnce) :
    (nextDelay? config command o earlier).isSome = true ↔
      ∀ n ∈ budget? config command, earlier.length + 1 < n := by
  unfold budget?
  cases window : config.stabilityWindow with
  | zero =>
      obtain ⟨spawned, failed, instant⟩ := prompt o List.mem_cons_self
      have forgets : failuresInRow config.stabilityWindow (o :: earlier) = 1 := by
        simp [failuresInRow, failed, instant, window]
      by_cases again : 1 < command.maxRestart.toNat
      · have limit : 0 < command.maxRestart.toNat := by omega
        simp [nextDelay?, spawned, failed, forgets, again, limit]
      · have single : max 1 command.maxRestart.toNat = 1 := by omega
        simp [nextDelay?, spawned, failed, forgets, again, once, single]
  | succ w =>
      have soon : ∀ x ∈ o :: earlier, x.FailedSoon config.stabilityWindow := by
        intro x member
        obtain ⟨spawned, failed, instant⟩ := prompt x member
        refine ⟨spawned, by simp [failed], by simp [failed], by omega⟩
      rw [nextDelay?_of_soon once soon]
      split <;> simp <;> omega

theorem History.course (history : History config past r) (spared : ∀ t ∈ past, t.asks = false) :
    Course config r.command (outcomes past) r := by
  induction history with
  | new now command factory hooks origin => exact .new now factory hooks origin
  | next history step ih =>
      rw [List.forall_mem_cons] at spared
      rw [outcomes_cons, (step?_eq_some_iff.1 step).command_eq]
      refine (ih spared.2).next ?_ step
      rintro rfl
      cases spared.1

theorem History.outcomes_of_failing (history : History config past r) (failing : Failing past)
    (once : r.command.recurringPeriod.toNat = 0) :
    match r.stage with
    | .finished _ => budget? config r.command = some (outcomes past).length
    | _ => ∀ n ∈ budget? config r.command, (outcomes past).length < n := by
  apply (history.course failing.spared).length_of_limit
  · unfold budget?
    split <;> simp
  · intro o earlier within
    exact nextDelay?_of_failing once fun x member => failing.prompt x (within.subset member)

theorem Rule.attempts_eq (rule : Rule config clock r act next effects) :
    next.attempts = r.attempts + (Taken.mk clock r act).launches.toNat := by
  cases rule with
  | @launch l phase =>
      obtain ⟨hooks, q, seen, launch, -, launched⟩ := launch_cases config clock r l
      rw [launch]
      cases launched <;> rfl
  | @receive a m rest phase stream =>
      obtain ⟨_, _, _, received, -⟩ := receive_fst clock r { a with stream := rest } m
      rw [received]
      rfl
  | @conclude a phase stream closed => exact conclude_attempts config clock r a
  | @farewell result k phase => cases k <;> rfl
  | _ => rfl

theorem History.launches_eq (history : History config past r) :
    past.countP Taken.launches = r.attempts := by
  induction history with
  | new => rfl
  | @next past r next clock act effects history step ih =>
      rw [(step?_eq_some_iff.1 step).attempts_eq, ← ih, List.countP_cons]
      cases (Taken.mk clock r act).launches <;> rfl

theorem History.launches_of_failing (history : History config past r) (failing : Failing past) :
    past.countP Taken.launches = (outcomes past).length + r.stage.ongoing := by
  rw [history.launches_eq, (history.course failing.spared).attempts_eq]

theorem History.launches_le (history : History config past r) (failing : Failing past)
    (once : r.command.recurringPeriod.toNat = 0) :
    ∀ n ∈ budget? config r.command, past.countP Taken.launches ≤ n := by
  intro n budget
  have count := history.outcomes_of_failing failing once
  rw [history.launches_of_failing failing]
  cases stage : r.stage with
  | finished result =>
      rw [stage, Option.mem_def.1 budget] at count
      exact (Option.some.inj count).ge
  | running =>
      rw [stage] at count
      exact count n budget
  | waiting | pausing =>
      rw [stage] at count
      exact Nat.le_of_lt (count n budget)

theorem History.budget_eq (history : History config past r) (failing : Failing past)
    (once : r.command.recurringPeriod.toNat = 0) (finished : r.phase.isOver = true) :
    budget? config r.command = some (past.countP Taken.launches) := by
  have count := history.outcomes_of_failing failing once
  rw [history.launches_of_failing failing]
  cases phase : r.phase with
  | stopping | closing | ended =>
      rw [stage, phase] at count ⊢
      exact count
  | starting | listening | draining | pausing | crashed => simp [phase, Phase.isOver] at finished

theorem History.isOver_of_spent (history : History config past r) (failing : Failing past)
    (once : r.command.recurringPeriod.toNat = 0) (idle : r.stage ≠ .running)
    (spent : budget? config r.command = some (past.countP Taken.launches)) :
    r.phase.isOver = true := by
  have count := history.outcomes_of_failing failing once
  rw [history.launches_of_failing failing] at spent
  cases phase : r.phase with
  | stopping | closing | ended => rfl
  | listening | draining | crashed => exact absurd (congrArg Phase.stage phase) idle
  | starting | pausing =>
      rw [stage, phase] at count spent
      exact absurd (count _ spent) (Nat.lt_irrefl _)

/-! ## Going on -/

def Clock.ofMillis (now : Nat) : Clock := ⟨now, now⟩

/-- The steps by which a failing job may go on from a time to another one. -/
structure Continuation (config : Manager.Config) (command : Command) (past : List Taken) (now : Nat)
    (later : List Taken) (last : Runner) (done : Nat) : Prop where
  history : History config (later ++ past) last
  same : last.command = command
  failing : Failing (later ++ past)
  ordered : later.Pairwise fun t u => u.clock.now ≤ t.clock.now
  within : ∀ t ∈ later, now ≤ t.clock.now ∧ t.clock.now ≤ done
  forward : now ≤ done

variable {now done : Nat} {last : Runner}

theorem Continuation.start (history : History config past r) (failing : Failing past) (now : Nat) :
    Continuation config r.command past now [] r now :=
  ⟨history, rfl, failing, .nil, by simp, Nat.le_refl _⟩

theorem Continuation.wait {wakeAt : Nat} (going : Continuation config command past now later r done)
    (further : done ≤ wakeAt) : Continuation config command past now later r wakeAt :=
  { going with
    within := fun t member => ⟨(going.within t member).1, (going.within t member).2.trans further⟩
    forward := going.forward.trans further }

theorem Continuation.step (going : Continuation config command past now later r done)
    (rule : Rule config (.ofMillis done) r act next effects)
    (calm : Taken.asks ⟨.ofMillis done, r, act⟩ = false)
    (prompt : ∀ o, r.ending? (.ofMillis done) act = some o → o.FailedAtOnce) :
    Continuation config command past now (⟨.ofMillis done, r, act⟩ :: later) next done where
  history := going.history.next (step?_eq_some_iff.2 rule)
  same := rule.command_eq.trans going.same
  failing := by
    refine ⟨List.forall_mem_cons.2 ⟨calm, going.failing.spared⟩, fun o member => ?_⟩
    rw [List.cons_append, outcomes_cons] at member
    rcases List.mem_append.1 member with new | old
    · exact prompt o (Option.mem_toList.1 new)
    · exact going.failing.prompt o old
  ordered := List.pairwise_cons.2 ⟨fun t member => (going.within t member).2, going.ordered⟩
  within := List.forall_mem_cons.2 ⟨⟨going.forward, Nat.le_refl _⟩, going.within⟩
  forward := going.forward

theorem Continuation.proceed (going : Continuation config command past now later r done)
    (rule : Rule config (.ofMillis done) r act next effects)
    (calm : Taken.asks ⟨.ofMillis done, r, act⟩ = false)
    (unfinished : r.ending? (.ofMillis done) act = none) :
    Continuation config command past now (⟨.ofMillis done, r, act⟩ :: later) next done :=
  going.step rule calm fun o ended => by
    rw [unfinished] at ended
    cases ended

theorem Rule.hears_error {a : Attempt} (config : Manager.Config) (clock : Clock)
    (phase : r.phase = .listening a) (stream : a.stream = [.exit .error])
    (early : a.timedOut = false) :
    ∃ b next effects, Rule config clock r .receive next effects ∧ next.phase = .draining b ∧
      b.began = a.began ∧ b.stream = [] ∧ b.state = some .error := by
  refine ⟨_, _, _, .receive phase stream, rfl, (Attempt.record_frame _ _).1,
    Attempt.record_stream _ _, ?_⟩
  rw [Attempt.record_state, early]
  exact congrArg (fun s => some (s.getD .error)) (JobState.parse?_name .error)

theorem stage_conclude (config : Manager.Config) (clock : Clock) (r : Runner) (a : Attempt) :
    (r.conclude config clock a).1.stage ≠ .running := by
  obtain ⟨hooks, concluded⟩ := conclude_fst config clock r a
  rw [concluded]
  split
  · nofun
  · split <;> nofun

theorem Attempt.isTimely_of_le {t t' : Nat} (le : t ≤ t')
    (timely : Attempt.isTimely config t' = true) : Attempt.isTimely config t = true := by
  simp only [Attempt.isTimely, Bool.and_eq_true, decide_eq_true_eq] at timely ⊢
  omega

theorem Attempt.lt_range_of_isTimely {t : Nat} (timely : Attempt.isTimely config t = true) :
    t < Clock.range := by
  simp only [Attempt.isTimely, Bool.and_eq_true, decide_eq_true_eq] at timely
  omega

theorem nextDelay?_eq_restartDelay {delay : Nat} (once : command.recurringPeriod.toNat = 0)
    (planned : nextDelay? config command o earlier = some delay) : delay = config.restartDelay := by
  unfold nextDelay? at planned
  split at planned
  · cases planned
  · split at planned
    · exact (Option.some.inj planned).symm
    · simp [once] at planned

def Phase.dueAt : Phase → Nat
  | .pausing _ wakeAt => wakeAt
  | _ => 0

theorem dueAt_sequel_le (once : command.recurringPeriod.toNat = 0) :
    (sequel config command now o earlier).dueAt ≤ Clock.wakeAt now config.restartDelay := by
  unfold sequel
  cases planned : nextDelay? config command o earlier with
  | none => exact Nat.zero_le _
  | some delay =>
      rw [nextDelay?_eq_restartDelay once planned]
      exact Nat.le_refl _

theorem Continuation.attempt (going : Continuation config command past now later r done)
    (once : command.recurringPeriod.toNat = 0) (phase : r.phase = .starting)
    (timely : Attempt.isTimely config done = true) :
    ∃ more last, Continuation config command past now (more ++ later) last done ∧
      more.countP Taken.launches = 1 ∧ last.stage ≠ .running ∧
      last.phase.dueAt ≤ Clock.wakeAt done config.restartDelay := by
  -- The process is spawned, says that it has failed, and closes its stream.
  let a := Attempt.start config r.command done done
  have followed : (r.launch config (.ofMillis done) ⟨[], none⟩).1 =
      { r with attempts := r.attempts + 1, phase := .listening a } := by
    rw [launch, List.foldl_nil]
    exact if_pos timely
  have launched := going.proceed (.launch (l := ⟨[], none⟩) phase) rfl rfl
  rw [followed] at launched
  have told := launched.proceed (.emit (m := .exit .error) (a := a) rfl rfl) rfl rfl
  obtain ⟨b, hearer, effects, hears, draining, began, silent, error⟩ :=
    Rule.hears_error config (.ofMillis done)
      (r := { r with
        attempts := r.attempts + 1
        phase := .listening { a with stream := [.exit .error] } }) rfl rfl rfl
  have heard := told.proceed hears rfl rfl
  have closed := heard.proceed (.lateHangUp draining) rfl rfl
  have ends : Rule config (.ofMillis done)
      { hearer with phase := .draining { b with streamOpen := false } } .conclude _ _ :=
    .conclude rfl silent rfl
  have concluded := closed.step ends rfl (by
    rintro _ ⟨⟩
    refine ⟨rfl, ?_, ?_⟩
    · show b.state.getD .error = .error
      rw [error]
      rfl
    · show done - b.began = 0
      rw [began]
      exact Nat.sub_self done)
  have course := closed.history.course closed.failing.spared
  have sequel := course.sequel_eq (step?_eq_some_iff.2 ends) rfl
  refine ⟨[_, _, _, _, _], _, concluded, rfl, stage_conclude _ _ _ _, ?_⟩
  rw [sequel, closed.same]
  exact dueAt_sequel_le once

theorem Continuation.resume {wakeAt : Nat}
    (going : Continuation config command past now later r done)
    (phase : r.phase = .pausing result wakeAt) :
    ∃ t last, Continuation config command past now (t :: later) last (max done wakeAt) ∧
      t.launches = false ∧ last.phase = .starting :=
  ⟨_, _, (going.wait (Nat.le_max_left _ _)).proceed (.resume phase (Nat.le_max_right _ _)) rfl
    rfl, rfl, rfl⟩

theorem Continuation.again (going : Continuation config command past now later r done)
    (once : command.recurringPeriod.toNat = 0) (idle : r.stage ≠ .running)
    (more : r.phase.isOver = false)
    (timely : Attempt.isTimely config (max done r.phase.dueAt) = true) :
    ∃ more last, Continuation config command past now (more ++ later) last
        (max done r.phase.dueAt) ∧
      more.countP Taken.launches = 1 ∧ last.stage ≠ .running ∧
      last.phase.dueAt ≤ Clock.wakeAt (max done r.phase.dueAt) config.restartDelay := by
  generalize due : r.phase.dueAt = time at timely ⊢
  cases phase : r.phase with
  | starting =>
      obtain rfl : time = 0 := by rw [← due, phase]; rfl
      rw [Nat.max_zero] at timely ⊢
      exact going.attempt once phase timely
  | pausing result wakeAt =>
      obtain rfl : time = wakeAt := by rw [← due, phase]; rfl
      obtain ⟨t, waked, going, none, phase⟩ := going.resume phase
      obtain ⟨more, last, going, one, later⟩ := going.attempt once phase timely
      refine ⟨more ++ [t], last, by simpa using going, ?_, later⟩
      simp [one, none]
  | listening | draining | crashed => exact absurd (congrArg Phase.stage phase) idle
  | stopping | closing | ended => simp [phase, Phase.isOver] at more

/-- When a job makes an attempt that goes on at `now` and of which every attempt fails at once: the
first one as soon as its pause is over. -/
def attemptAt (config : Manager.Config) (r : Runner) (now i : Nat) : Nat :=
  max now r.phase.dueAt + i * config.restartDelay

/-- The timers of its next attempts are in the range of the clock. -/
def InRange (config : Manager.Config) (r : Runner) (now k : Nat) : Prop :=
  ∀ i < k, Attempt.isTimely config (r.attemptAt config now i) = true

theorem InRange.tail {k : Nat} (inRange : r.InRange config now (k + 1))
    (due : next.phase.dueAt ≤ Clock.wakeAt (max now r.phase.dueAt) config.restartDelay) :
    next.InRange config (max now r.phase.dueAt) k := by
  intro i less
  have second := Attempt.lt_range_of_isTimely (inRange 1 (by omega))
  have timely := inRange (i + 1) (by omega)
  simp only [attemptAt, Nat.succ_mul] at second timely ⊢
  rw [Clock.wakeAt, if_neg (by omega)] at due
  exact Attempt.isTimely_of_le (by omega) timely

theorem Continuation.attempts (going : Continuation config command past now later r done)
    (once : command.recurringPeriod.toNat = 0) (idle : r.stage ≠ .running) (k : Nat)
    (inRange : r.InRange config done k)
    (room : ∀ n ∈ budget? config command, (later ++ past).countP Taken.launches + k ≤ n) :
    ∃ more last done, Continuation config command past now (more ++ later) last done ∧
      more.countP Taken.launches = k ∧ last.stage ≠ .running := by
  induction k generalizing later r done with
  | zero => exact ⟨[], r, done, going, rfl, idle⟩
  | succ k ih =>
      have unfinished : r.phase.isOver = false := by
        cases finished : r.phase.isOver with
        | false => rfl
        | true =>
            have spent := going.history.budget_eq going.failing (going.same ▸ once) finished
            have fits := room _ (going.same ▸ spent)
            omega
      have timely : Attempt.isTimely config (max done r.phase.dueAt) = true := by
        simpa [attemptAt] using inRange 0 (Nat.succ_pos k)
      obtain ⟨first, mid, going, one, idle, due⟩ := going.again once idle unfinished timely
      have left : ∀ n ∈ budget? config command,
          (first ++ later ++ past).countP Taken.launches + k ≤ n := by
        intro n budget
        have fits := room n budget
        simp only [List.countP_append] at fits ⊢
        omega
      obtain ⟨rest, last, done, going, count, idle⟩ := ih going idle (inRange.tail due) left
      refine ⟨rest ++ first, last, done, by simpa using going, ?_, idle⟩
      rw [List.countP_append, count, one, Nat.add_comm]

/-! ## The end -/

def Phase.toGo : Phase → Nat
  | .stopping _ => 5
  | .closing _ .leave => 4
  | .closing _ .release => 3
  | .closing _ .wake => 2
  | .closing _ .publish => 1
  | _ => 0

def toGo (r : Runner) : Nat := r.collector.mailbox.length + r.phase.toGo

theorem Rule.toGo_lt (rule : Rule config clock r act next effects)
    (finished : r.phase.isOver = true) (own : act ∈ [Action.collect, .report, .farewell]) :
    next.toGo < r.toGo ∧ next.phase.isOver = true := by
  cases rule with
  | collect running letters =>
      refine ⟨?_, finished⟩
      cases mailbox : r.collector.mailbox with
      | nil => simp [mailbox] at letters
      | cons letter rest =>
          cases letter with
          | line text => simp [toGo, Stats.Collector.receive_line running mailbox, mailbox]
          | stop => simp [toGo, Stats.Collector.receive_stop running mailbox, mailbox]
  | report phase stopped =>
      refine ⟨?_, rfl⟩
      rw [toGo, toGo, phase]
      simp [Phase.toGo]
  | @farewell result k phase =>
      rw [toGo, toGo, phase]
      cases k <;> simp [Runner.farewell, Phase.toGo, Phase.isOver]
  | _ => simp at own

theorem Continuation.finish (going : Continuation config command past now later r done)
    (finished : r.phase.isOver = true) :
    ∃ more last, Continuation config command past now (more ++ later) last done ∧
      last.published?.isSome = true := by
  -- What the collector has to read and the last steps of the runner become fewer with each step.
  induction size : r.toGo using Nat.strong_induction_on generalizing later r with
  | _ size ih =>
    cases published : r.published? with
    | some result => exact ⟨[], r, going, by rw [published]; rfl⟩
    | none =>
        obtain ⟨act, own, possible⟩ := going.history.goes_on finished published (.ofMillis done)
        obtain ⟨⟨next, effects⟩, step⟩ := Option.isSome_iff_exists.1 possible
        have rule := step?_eq_some_iff.1 step
        obtain ⟨fewer, finished⟩ := rule.toGo_lt finished own
        have calm : Taken.asks ⟨.ofMillis done, r, act⟩ = false ∧
            r.ending? (.ofMillis done) act = none := by
          simp only [List.mem_cons, List.not_mem_nil, or_false] at own
          rcases own with rfl | rfl | rfl <;> exact ⟨rfl, rfl⟩
        have nearer := going.proceed rule calm.1 calm.2
        obtain ⟨more, last, going, told⟩ := ih _ (size ▸ fewer) nearer finished rfl
        exact ⟨more ++ [_], last, by simpa using going, told⟩

theorem History.ends {n : Nat} (history : History config past r) (failing : Failing past)
    (once : r.command.recurringPeriod.toNat = 0) (idle : r.stage ≠ .running)
    (budget : budget? config r.command = some n)
    (inRange : r.InRange config now (n - past.countP Taken.launches)) :
    ∃ later last done, Continuation config r.command past now later last done ∧
      last.published?.isSome = true := by
  have spends := history.launches_le failing once n budget
  have left : ∀ m ∈ budget? config r.command,
      ([] ++ past).countP Taken.launches + (n - past.countP Taken.launches) ≤ m := by
    intro m same
    cases budget.symm.trans same
    rw [List.nil_append]
    omega
  obtain ⟨more, last, done, going, count, idle⟩ :=
    (Continuation.start history failing now).attempts once idle _ inRange left
  rw [List.append_nil] at going
  have finished : last.phase.isOver = true := by
    refine going.history.isOver_of_spent going.failing (going.same ▸ once) idle ?_
    rw [going.same, budget, List.countP_append, count, Nat.sub_add_cancel spends]
  obtain ⟨rest, last, going, told⟩ := going.finish finished
  exact ⟨rest ++ more, last, done, going, told⟩

/-! ## A runner that dies -/

theorem Rule.crashed_stays (rule : Rule config clock r act next effects)
    (crashed : r.phase = .crashed) :
    next.phase = .crashed ∧ (Taken.mk clock r act).launches = false := by
  cases rule with
  | kill | collect | flush => exact ⟨crashed, rfl⟩
  | launch phase | obey phase | expire phase | sample phase | tick phase | receive phase
  | endOfStream phase | emit phase | hangUp phase | discard phase | conclude phase
  | lateEmit phase | lateHangUp phase | resume phase | abandon phase | report phase
  | farewell phase => cases crashed.symm.trans phase

theorem History.crashed {l : Launch}
    (history : History config (later ++ ⟨clock, r, .launch l⟩ :: past) last)
    (spawned : l.failure = none) (late : Attempt.isTimely config clock.now = false) :
    last.phase = .crashed ∧ later.countP Taken.launches = 0 := by
  induction later generalizing last with
  | nil =>
      obtain ⟨-, effects, rule⟩ := history.last_step
      cases rule with
      | launch phase =>
          obtain ⟨hooks, q, seen, launch, -, launched⟩ := launch_cases config clock r l
          rw [launch]
          cases launched with
          | followed _ timely => cases late.symm.trans timely
          | crashed => exact ⟨rfl, rfl⟩
          | failed failure => cases spawned.symm.trans failure
  | cons t later ih =>
      obtain ⟨history, rule⟩ := history.last_rule
      obtain ⟨crashed, none⟩ := ih history
      obtain ⟨stays, calm⟩ := rule.crashed_stays crashed
      refine ⟨stays, ?_⟩
      rw [List.countP_cons_of_neg (by rw [calm]; nofun), none]

/-- How often a job that runs once is tried if every attempt fails at once and nobody asks it to
end. With a window of some length, or if it may fail only once, it is tried as often as it may fail,
but once at least, and then it comes to its end, with one result. With a window of no length a job
that may fail twice is never over, and there is no end to its attempts. All this as long as the
timers of the attempts are in the range of the clock: the first attempt for which they are not is
the last one, and then there is no result. -/
theorem failing_job_keeps_budget (history : History config past r) (failing : Failing past)
    (once : r.command.recurringPeriod.toNat = 0) :
    (0 < config.stabilityWindow ∨ r.command.maxRestart.toNat ≤ 1 →
      past.countP Taken.launches ≤ max 1 r.command.maxRestart.toNat ∧
      (∀ result, r.published? = some result →
        past.countP Taken.launches = max 1 r.command.maxRestart.toNat ∧ result.state = .error ∧
        ∃ before, trace config past = before ++ [.result result, .left, .released, .woke] ∧
          ∀ e ∈ before, e.isQuiet = true) ∧
      (r.stage ≠ .running → ∀ now,
        r.InRange config now (max 1 r.command.maxRestart.toNat - past.countP Taken.launches) →
        ∃ later last done, Continuation config r.command past now later last done ∧
          last.published?.isSome = true)) ∧
    (config.stabilityWindow = 0 → 1 < r.command.maxRestart.toNat →
      r.phase.isOver = false ∧
      (r.stage ≠ .running → ∀ now k, r.InRange config now k → ∃ later last done,
        Continuation config r.command past now later last done ∧
          later.countP Taken.launches = k)) ∧
    ∀ clock l later last, History config (later ++ ⟨clock, r, .launch l⟩ :: past) last →
      l.failure = none → Attempt.isTimely config clock.now = false →
        last.published? = none ∧ later.countP Taken.launches = 0 := by
  refine ⟨fun bounded => ?_, fun window again => ?_, ?_⟩
  · have budget : budget? config r.command = some (max 1 r.command.maxRestart.toNat) := by
      rw [budget?, if_neg (by omega)]
    have spends := history.launches_le failing once _ budget
    refine ⟨spends, fun result published => ⟨?_, ?_, ?_⟩, fun idle now inRange => ?_⟩
    · have spent := history.budget_eq failing once (by rw [phase_of_published published]; rfl)
      rw [budget] at spent
      exact (Option.some.inj spent).symm
    · obtain ⟨o, earlier, last, rfl⟩ :=
        (history.course failing.spared).result_eq (finished_of_published published)
      exact (failing.prompt o (by simp [last])).2.1
    · obtain ⟨before, split, quiet⟩ := history.trace_eq
      rw [phase_of_published published] at split
      exact ⟨before, split, quiet⟩
    · exact history.ends failing once idle budget inRange
  · have budget : budget? config r.command = none := by
      rw [budget?, if_pos ⟨window, again⟩]
    refine ⟨?_, fun idle now k inRange => ?_⟩
    · cases finished : r.phase.isOver with
      | false => rfl
      | true =>
          have spent := history.budget_eq failing once finished
          rw [budget] at spent
          cases spent
    · obtain ⟨more, last, mid, going, count, -⟩ :=
        (Continuation.start history failing now).attempts once idle k inRange (by simp [budget])
      rw [List.append_nil] at going
      exact ⟨more, last, mid, going, count⟩
  · intro clock l later last history spawned late
    obtain ⟨crashed, none⟩ := history.crashed spawned late
    refine ⟨?_, none⟩
    rw [published?, crashed]

end

def failure (now : Nat) : List (Clock × Action) :=
  [.launch ⟨[], none⟩, .emit (.exit .error), .receive, .hangUp, .conclude].map
    (Clock.ofMillis now, ·)

def clumsy (config : Manager.Config) : Runner :=
  .new config 0 { Command.new "job" "test" with maxRestart := 2 } 0 [] .direct

def givingUp : List (Clock × Action) :=
  failure 0 ++ (.ofMillis 1000, .resume) :: failure 1000 ++
    [.collect, .report, .farewell, .farewell, .farewell, .farewell].map (Clock.ofMillis 1000, ·)

def givenUp : List Taken × Runner :=
  (replay? .default [] (clumsy .default) givingUp).get (by decide)

def unmetered : Manager.Config := { Manager.Config.default with meterInterval := Clock.range }

def lost : List Taken × Runner :=
  (replay? unmetered [] (clumsy unmetered) [(.ofMillis 0, .launch ⟨[], none⟩)]).get (by decide)

theorem failing_job_keeps_budget_twice :
    (∃ result, givenUp.2.published? = some result ∧ result.state = .error ∧
      givenUp.1.countP Taken.launches = 2) ∧
    (∃ later last done, Continuation .default (clumsy .default).command [] 0 later last done ∧
      last.published?.isSome = true) ∧
    lost.1.countP Taken.launches = 1 ∧ lost.2.published? = none := by
  have idle : Failing [] := ⟨by decide, by decide⟩
  refine ⟨?_, ?_, rfl, ?_⟩
  · have played : replay? .default [] (clumsy .default) givingUp = some givenUp :=
      (Option.some_get _).symm
    have history : History .default givenUp.1 givenUp.2 :=
      .of_replay (.new 0 _ 0 [] .direct) played
    have failing : Failing givenUp.1 := ⟨by decide, by decide⟩
    obtain ⟨result, published⟩ := Option.isSome_iff_exists.1
      (by decide : givenUp.2.published?.isSome = true)
    have kept := (failing_job_keeps_budget history failing rfl).1 (by decide)
    obtain ⟨count, error, -⟩ := kept.2.1 result published
    exact ⟨result, published, error, count⟩
  · have history : History .default [] (clumsy .default) := .new 0 _ 0 [] .direct
    have inRange : (clumsy .default).InRange .default 0 2 := by
      intro i less
      match i, less with
      | 0, _ => rfl
      | 1, _ => rfl
    have kept := (failing_job_keeps_budget history idle rfl).1 (by decide)
    exact kept.2.2 nofun 0 inRange
  · have history : History unmetered [] (clumsy unmetered) := .new 0 _ 0 [] .direct
    have dies := (failing_job_keeps_budget history idle rfl).2.2
    exact (dies (.ofMillis 0) ⟨[], none⟩ [] lost.2 (history.next rfl) rfl (by decide)).1

def forgetful : Manager.Config := { Manager.Config.default with stabilityWindow := 0 }

def tryingOn : List (Clock × Action) :=
  failure 0 ++ (.ofMillis 1000, .resume) :: failure 1000 ++
    (.ofMillis 2000, .resume) :: failure 2000

def triedOn : List Taken × Runner :=
  (replay? forgetful [] (clumsy forgetful) tryingOn).get (by decide)

/-- A job that may fail twice is tried a third time, and is not over. -/
theorem failing_job_tried_on :
    ¬ ∀ (config : Manager.Config) (past : List Taken) (r : Runner), History config past r →
      Failing past → r.command.recurringPeriod.toNat = 0 →
        past.countP Taken.launches ≤ max 1 r.command.maxRestart.toNat := by
  intro bounded
  have played : replay? forgetful [] (clumsy forgetful) tryingOn = some triedOn :=
    (Option.some_get _).symm
  have history : History forgetful triedOn.1 triedOn.2 :=
    .of_replay (.new 0 _ 0 [] .direct) played
  have failing : Failing triedOn.1 := ⟨by decide, by decide⟩
  exact absurd (bounded _ _ _ history failing rfl) (by decide)

end Overseer.Runner
