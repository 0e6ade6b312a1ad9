import Overseer.Proofs.Runner.Kill
import Overseer.Proofs.Stats.Collector

/-!
# What others notice of a run

The effects of the steps that a runner has taken are its trace. A runner that has reported its
result has nothing left to show but its last steps, so the trace is made of two parts: what came of
the attempts and of the statistics, and the end of the job.
-/

namespace Overseer.Runner

def Taken.effects (config : Manager.Config) (t : Taken) : List Effect :=
  ((t.before.step? config t.clock t.act).map Prod.snd).getD []

def trace (config : Manager.Config) (past : List Taken) : List Effect :=
  past.reverse.flatMap (Taken.effects config)

def Farewell.done : Farewell → List Effect
  | .leave => []
  | .release => [.left]
  | .wake => [.left, .released]
  | .publish => [.left, .released, .woke]

def Phase.finale : Phase → List Effect
  | .closing result next => .result result :: next.done
  | .ended result => [.result result, .left, .released, .woke]
  | _ => []

section
variable {config : Manager.Config} {clock : Clock} {r next : Runner} {act : Action}
  {effects : List Effect} {past : List Taken} {t : Taken}

theorem Taken.effects_eq (step : t.before.step? config t.clock t.act = some (next, effects)) :
    t.effects config = effects := by
  rw [Taken.effects, step]
  rfl

@[simp] theorem trace_nil : trace config [] = [] := rfl

@[simp] theorem trace_cons :
    trace config (t :: past) = trace config past ++ t.effects config := by
  simp [trace]

theorem History.last_rule (history : History config (t :: past) r) :
    History config past t.before ∧
      Rule config t.clock t.before t.act r (t.effects config) := by
  cases history with
  | next history step =>
      refine ⟨history, ?_⟩
      rw [Taken.effects_eq step]
      exact step?_eq_some_iff.1 step

theorem History.rule_at {later earlier : List Taken}
    (history : History config (later ++ t :: earlier) r) :
    History config earlier t.before ∧
      ∃ next, Rule config t.clock t.before t.act next (t.effects config) := by
  induction later generalizing r with
  | nil => exact ⟨history.last_rule.1, r, history.last_rule.2⟩
  | cons u later ih => exact ih history.last_rule.1

theorem History.rule_of_mem (history : History config past r) (member : t ∈ past) :
    ∃ next, Rule config t.clock t.before t.act next (t.effects config) := by
  obtain ⟨later, earlier, rfl⟩ := List.append_of_mem member
  exact history.rule_at.2

/-! ## The end of a job -/

theorem Phase.finale_eq (p : Phase) :
    p.finale = p.epilogue?.elim [] fun last =>
      .result last.1 :: last.2.elim [.left, .released, .woke] Farewell.done := by
  cases p <;> rfl

theorem Phase.finale_prefix (p : Phase) :
    p.finale = [] ∨ ∃ result, p.finale <+: [.result result, .left, .released, .woke] ∧
      p.epilogue?.map Prod.fst = some result := by
  cases p with
  | closing result k =>
      refine .inr ⟨result, ?_, rfl⟩
      cases k <;> simp [finale, Farewell.done]
  | ended result => exact .inr ⟨result, List.prefix_refl _, rfl⟩
  | _ => exact .inl rfl

theorem Rule.finale_eq (rule : Rule config clock r act next effects) :
    (∀ e ∈ effects, e.isQuiet = true) ∧ next.phase.finale = r.phase.finale ∨
      next.phase.finale = r.phase.finale ++ effects := by
  by_cases last : act = .farewell
  · subst last
    cases rule with
    | @farewell result k phase =>
        refine .inr ?_
        rw [phase]
        cases k <;> rfl
  · rcases rule.effects_quiet last with quiet | ⟨result, phase, rfl, rfl⟩
    · by_cases silent : act = .report
      · subst silent
        cases rule with
        | report => simp [Effect.isQuiet] at quiet
      · refine .inl ⟨quiet, ?_⟩
        rw [Phase.finale_eq, Phase.finale_eq, rule.epilogue?_eq silent last]
    · refine .inr ?_
      rw [phase]
      rfl

theorem Rule.act_of_reported (rule : Rule config clock r act next effects)
    (reported : r.reported?.isSome = true) (stopped : r.collector.stopped = true) :
    act = .kill ∨ act = .farewell := by
  cases rule with
  | kill => exact .inl rfl
  | farewell => exact .inr rfl
  | collect running => simp [stopped] at running
  | flush due => simp [Stats.Collector.running_of_due due] at stopped
  | launch phase | obey phase | expire phase | sample phase | tick phase | receive phase
  | endOfStream phase | emit phase | hangUp phase | discard phase | conclude phase
  | lateEmit phase | lateHangUp phase | resume phase | abandon phase | report phase =>
      simp [reported?, phase, Phase.epilogue?] at reported

theorem Rule.effects_eq_nil (rule : Rule config clock r act next effects)
    (reported : r.reported?.isSome = true) (stopped : r.collector.stopped = true)
    (quiet : ∀ e ∈ effects, e.isQuiet = true) : effects = [] := by
  rcases rule.act_of_reported reported stopped with rfl | rfl
  · cases rule
    rfl
  · cases rule with
    | @farewell result k phase => cases k <;> simp [Runner.farewell, Effect.isQuiet] at quiet ⊢

theorem Rule.stopped_of_reported (rule : Rule config clock r act next effects)
    (before : r.reported?.isSome = true → r.collector.stopped = true)
    (reported : next.reported?.isSome = true) : next.collector.stopped = true := by
  by_cases silent : act = .report
  · subst silent
    cases rule with
    | report phase stopped => exact stopped
  · rw [rule.reported?_eq silent] at reported
    have stopped := before reported
    rcases rule.act_of_reported reported stopped with rfl | rfl
    · cases rule
      exact stopped
    · cases rule with
      | @farewell result k phase => cases k <;> exact stopped

theorem History.stopped_of_reported (history : History config past r) :
    r.reported?.isSome = true → r.collector.stopped = true := by
  induction history with
  | new => simp [Runner.new, reported?, Phase.epilogue?]
  | next history step ih => exact (step?_eq_some_iff.1 step).stopped_of_reported ih

theorem History.trace_eq (history : History config past r) :
    ∃ before, trace config past = before ++ r.phase.finale ∧ ∀ e ∈ before, e.isQuiet = true := by
  induction past generalizing r with
  | nil =>
      cases history
      exact ⟨[], rfl, by simp⟩
  | cons t past ih =>
      obtain ⟨history, rule⟩ := history.last_rule
      obtain ⟨before, split, quiet⟩ := ih history
      rw [trace_cons, split]
      rcases rule.finale_eq with ⟨more, same⟩ | shown
      · rw [same]
        cases reported : t.before.reported? with
        | none =>
            have going : t.before.phase.finale = [] := by
              rw [reported?, Option.map_eq_none_iff] at reported
              rw [Phase.finale_eq, reported]
              rfl
            refine ⟨before ++ t.effects config, by simp [going], ?_⟩
            intro e member
            rcases List.mem_append.1 member with old | new
            · exact quiet e old
            · exact more e new
        | some result =>
            have reported : t.before.reported?.isSome = true := by rw [reported]; rfl
            have stopped := history.stopped_of_reported reported
            have nothing := rule.effects_eq_nil reported stopped more
            exact ⟨before, by rw [nothing, List.append_nil], quiet⟩
      · exact ⟨before, by rw [shown, List.append_assoc], quiet⟩

end

end Overseer.Runner
