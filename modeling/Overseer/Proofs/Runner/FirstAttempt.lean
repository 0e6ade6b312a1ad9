import Overseer.Proofs.Runner.Restart
import Overseer.Proofs.Runner.Sights

/-!
# The first attempt of a job

The hooks see the end of every attempt, but one that acts once has seen enough at the first of them.
What that end says of the job depends on the policy alone: where it grants no further attempt the
first result is the last one, and otherwise it says nothing. Requests to end are allowed at any time;
they may take the further attempts away.
-/

namespace Overseer.Runner

def Taken.outcome? (t : Taken) : Option Outcome := t.before.ending? t.clock t.act

def outcomes (past : List Taken) : List Outcome := past.filterMap Taken.outcome?

structure Untried (r : Runner) : Prop where
  stage : r.stage = .waiting ∧ r.attempts = 0 ∨ r.stage = .running ∧ r.attempts = 1
  failures : r.failures = 0

structure Tried (config : Manager.Config) (o : Outcome) (r : Runner) : Prop where
  begun : 1 ≤ r.attempts
  last : nextDelay? config r.command o [] = none → r.attempts = 1 ∧ r.stage = .finished o.result
  single : r.attempts = 1 → r.stage = .waiting ∨
    ∃ result, (result.state = o.state ∨ result.state = .killed) ∧
      (r.stage = .pausing result ∨ r.stage = .finished result)

section
variable {config : Manager.Config} {command : Command} {clock : Clock} {r next : Runner}
  {act : Action} {effects : List Effect} {past : List Taken} {t : Taken} {o : Outcome}

@[simp] theorem outcomes_cons : outcomes (t :: past) = t.outcome?.toList ++ outcomes past := by
  cases ended : t.outcome? <;> simp [outcomes, ended]

theorem nextDelay?_eq_none_iff (failed : o.state ≠ .success) :
    nextDelay? config command o [] = none ↔ o.spawned = false ∨ o.state = .killed ∨
      command.maxRestart.toNat ≤ 1 ∧ command.recurringPeriod.toNat = 0 := by
  have once : failuresInRow config.stabilityWindow [o] = 1 := by
    simp [failuresInRow, failed]
  unfold nextDelay?
  rw [once]
  by_cases barred : o.spawned = false ∨ o.state = .killed
  · rw [if_pos barred]
    exact ⟨fun _ => barred.imp_right .inl, fun _ => rfl⟩
  · rw [if_neg barred, ← or_assoc, or_iff_right barred]
    by_cases again : 1 < command.maxRestart.toNat
    · rw [if_pos ⟨failed, by omega, again⟩]
      simp [again]
    · rw [if_neg fun more => again more.2.2]
      by_cases recurring : 0 < command.recurringPeriod.toNat
      · rw [if_pos recurring]
        simp [Nat.ne_of_gt recurring]
      · rw [if_neg recurring]
        exact ⟨fun _ => ⟨by omega, by omega⟩, fun _ => rfl⟩

/-! ## What a step makes of it -/

theorem Untried.ended (untried : r.Untried) (rule : Rule config clock r act next effects)
    (ending : r.ending? clock act = some o) :
    next.attempts = 1 ∧ next.phase = sequel config next.command clock.now o [] := by
  rw [rule.command_eq]
  rcases rule.turn_or_abandoned with turn | ⟨result, abandoned⟩
  · cases turn with
    | failed result before after attempts ended =>
        cases ended.symm.trans ending
        refine ⟨?_, after⟩
        rcases untried.stage with ⟨-, none⟩ | ⟨running, -⟩
        · rw [attempts, none]
        · cases before.symm.trans running
    | ended a before after attempts ended =>
        cases ended.symm.trans ending
        refine ⟨?_, after ▸ (conclude_eq_sequel a fun _ => untried.failures).1⟩
        rcases untried.stage with ⟨waiting, -⟩ | ⟨-, one⟩
        · cases before.symm.trans waiting
        · rw [attempts, one]
    | begun _ _ _ _ none | resumed _ _ _ _ _ none | same _ _ _ none =>
        cases none.symm.trans ending
  · cases abandoned.ending.symm.trans ending

theorem Untried.tried (untried : r.Untried) (rule : Rule config clock r act next effects)
    (ending : r.ending? clock act = some o) : Tried config o next := by
  obtain ⟨one, phase⟩ := untried.ended rule ending
  have stage : next.stage = _ := congrArg Phase.stage phase
  rw [stage_sequel] at stage
  refine ⟨one.ge, fun last => ⟨one, ?_⟩, fun _ => .inr ⟨o.result, .inl rfl, ?_⟩⟩
  · rw [stage, last]
  · rw [stage]
    split
    · exact .inl rfl
    · exact .inr rfl

theorem Untried.goOn (untried : r.Untried) (rule : Rule config clock r act next effects)
    (ending : r.ending? clock act = none) : next.Untried := by
  have unpaused {result : JobResult} : r.stage ≠ .pausing result := by
    rcases untried.stage with ⟨stage, -⟩ | ⟨stage, -⟩ <;> simp [stage]
  rcases rule.turn_or_abandoned with turn | ⟨result, abandoned⟩
  · cases turn with
    | begun before after failures attempts =>
        refine ⟨.inr ⟨after, ?_⟩, failures.trans untried.failures⟩
        rcases untried.stage with ⟨-, none⟩ | ⟨running, -⟩
        · rw [attempts, none]
        · cases before.symm.trans running
    | failed _ _ _ _ ended | ended _ _ _ _ ended => cases ended.symm.trans ending
    | resumed result before => exact absurd before unpaused
    | same stage failures attempts =>
        exact ⟨by rw [stage, attempts]; exact untried.stage, failures.trans untried.failures⟩
  · exact absurd abandoned.before unpaused

theorem Tried.step (tried : Tried config o r) (rule : Rule config clock r act next effects) :
    Tried config o next := by
  have last : nextDelay? config next.command o [] = none →
      r.attempts = 1 ∧ r.stage = .finished o.result := rule.command_eq ▸ tried.last
  have begun := tried.begun
  rcases rule.turn_or_abandoned with turn | ⟨result, abandoned⟩
  · cases turn with
    | begun before after failures attempts | failed _ before after attempts =>
        refine ⟨by omega, fun final => ?_, fun one => by omega⟩
        cases before.symm.trans (last final).2
    | ended a before after attempts =>
        refine ⟨by omega, fun final => ?_, fun one => ?_⟩
        · cases before.symm.trans (last final).2
        · rcases tried.single (attempts ▸ one) with waiting | ⟨result, -, paused | finished⟩
          · cases before.symm.trans waiting
          · cases before.symm.trans paused
          · cases before.symm.trans finished
    | resumed result before after failures attempts =>
        refine ⟨by omega, fun final => ?_, fun _ => .inl after⟩
        cases before.symm.trans (last final).2
    | same stage failures attempts =>
        refine ⟨by omega, ?_, ?_⟩
        · rw [stage, attempts]
          exact last
        · rw [stage, attempts]
          exact tried.single
  · refine ⟨by rw [abandoned.attempts]; exact begun, fun final => ?_,
      fun _ => .inr ⟨_, .inr rfl, .inr abandoned.after⟩⟩
    cases abandoned.before.symm.trans (last final).2

theorem History.tried (history : History config past r) :
    match (outcomes past).getLast? with
    | none => r.Untried
    | some o => Tried config o r := by
  induction history with
  | new => exact ⟨.inl ⟨rfl, rfl⟩, rfl⟩
  | @next past r next clock act effects history step ih =>
      have rule := step?_eq_some_iff.1 step
      rw [outcomes_cons, List.getLast?_append]
      cases first : (outcomes past).getLast? with
      | some o =>
          rw [first] at ih
          exact ih.step rule
      | none =>
          rw [first] at ih
          rw [Option.none_or]
          unfold Taken.outcome?
          cases ending : r.ending? clock act with
          | none => exact ih.goOn rule ending
          | some o => exact ih.tried rule ending

theorem Rule.exit_mem_sights (rule : Rule config clock r act next effects) {state : JobState} :
    .exit state ∈ (Taken.mk clock r act).sights ↔
      ∃ o, r.ending? clock act = some o ∧ o.state = state := by
  have heard (t : Taken) : .exit state ∉ t.heard?.toList.map Sight.message := by simp
  cases rule with
  | @launch l phase =>
      simp only [Taken.sights, phase, ending?]
      cases l.failure with
      | none => simp
      | some error =>
          simp [Outcome.state, Attempt.failedResult, Attempt.blank, JobResult.new, eq_comm]
  | @conclude a phase => simp [Taken.sights, phase, ending?, Outcome.state, eq_comm]
  | tick phase => simp [Taken.sights, phase, ending?]
  | _ =>
      refine ⟨fun shown => absurd shown (heard _), ?_⟩
      rintro ⟨_, ended, _⟩
      cases ended

end

end Overseer.Runner
