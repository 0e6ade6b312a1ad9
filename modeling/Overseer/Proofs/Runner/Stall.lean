import Overseer.Proofs.Runner.Digest

/-!
# When a request to end is not passed on

While it listens, a runner tells its process to end as soon as the job is asked to, or the attempt
takes too long. Once the process has said how the attempt ended the runner only waits for the end of
the stream, and then a process that keeps its stream open is told nothing.
-/

namespace Overseer.Runner

/-- Whether an action is one of the runner itself, not of its process, of its collector or of who
asks it to end. -/
def Action.isTask : Action → Bool
  | .emit _ | .hangUp | .kill | .collect | .flush => false
  | _ => true

def Overdue (c : Command) (a : Attempt) (now : Nat) : Prop :=
  c.maxTime ≠ 0 ∧ Clock.wakeAt a.began (c.maxTime.toNat * Clock.millisPerSecond) ≤ now

section
variable {config : Manager.Config} {clock began : Clock} {r q : Runner} {a : Attempt}
  {during earlier : List Taken} {l : Launch}

theorem step?_of_draining (phase : r.phase = .draining a) (streamOpen : a.streamOpen = true)
    (silent : a.stream = []) {act : Action} (own : act.isTask = true) :
    r.step? config clock act = none := by
  cases act with
  | emit | hangUp | kill | collect | flush => cases own
  | discard => simp [step?, advance?, phase, drain?, silent]
  | conclude => simp [step?, advance?, phase, drain?, streamOpen]
  | _ => simp [step?, advance?, phase, drain?]

theorem exists_step?_of_listening (config : Manager.Config) (phase : r.phase = .listening a)
    (early : a.timedOut = false)
    (asked : r.killed = true ∨ Overdue r.command a clock.now) :
    ∃ act next, act.isTask = true ∧ r.step? config clock act = some (next, [.terminated]) := by
  rcases asked with killed | ⟨limit, late⟩
  · exact ⟨.obey, _, rfl, step?_eq_some_iff.2 (.obey phase killed)⟩
  · have deadline : a.deadline? r.command =
        some (Clock.wakeAt a.began (r.command.maxTime.toNat * Clock.millisPerSecond)) := by
      simp [Attempt.deadline?, limit, early]
    exact ⟨.expire, _, rfl, step?_eq_some_iff.2 (.expire phase deadline late)⟩

/-- A request to end that has not been passed on, of a job whose process is silent and keeps its
stream open, leaves the runner without a step exactly when the process has said how the attempt
ended. -/
theorem stalls_iff_final
    (history : History config (during ++ ⟨began, q, .launch l⟩ :: earlier) r)
    (spawned : l.failure = none) (within : during.any Taken.concludes = false)
    (under : r.phase.attempt? = some a) (untold : a.terminated = false)
    (streamOpen : a.streamOpen = true) (silent : a.stream = [])
    (asked : r.killed = true ∨ Overdue r.command a clock.now) :
    (∀ act, act.isTask = true → r.step? config clock act = none) ↔
      ∃ m ∈ received during, Attempt.isFinal m = true := by
  have attended := history.attended spawned within
  have account := history.account spawned within a under
  obtain ⟨free, early⟩ :
      during.any Taken.obeys = false ∧ during.any Taken.expires = false := by
    rw [account.terminated] at untold
    exact Bool.or_eq_false_iff.1 untold
  cases phase : r.phase with
  | listening b =>
      rw [phase] at under attended
      cases under
      obtain ⟨act, next, own, step⟩ := exists_step?_of_listening config phase
        (account.timedOut.trans early) asked
      constructor
      · intro stuck
        simp [stuck act own] at step
      · rintro ⟨m, member, final⟩
        cases attended with
        | listening queue going free => simp [going m member] at final
  | draining b =>
      rw [phase] at under attended
      cases under
      refine ⟨fun _ => ?_, fun _ act own => step?_of_draining phase streamOpen silent own⟩
      cases attended with
      | obeyed part going obeyed => simp [free] at obeyed
      | @final _ front m taken final =>
          refine ⟨m, ?_, final⟩
          rw [taken]
          exact List.mem_append_right _ List.mem_cons_self
      | exhausted closed => simp [streamOpen] at closed
  | starting | pausing | stopping | closing | ended | crashed =>
      simp [phase, Phase.attempt?] at under

end

def lingering : List (Clock × Action) :=
  [(⟨0, 0⟩, .launch ⟨[], none⟩), (⟨0, 0⟩, .emit (.exit .success)), (⟨0, 0⟩, .receive),
    (⟨500, 500⟩, .kill)]

def lingered : List Taken × Runner :=
  (replay? .default [] (.new .default 0 (.new "job" "test") 0 [] .direct) lingering).get (by decide)

theorem history_lingered :
    History .default
      (lingered.1.take 3 ++
        ⟨⟨0, 0⟩, .new .default 0 (.new "job" "test") 0 [] .direct, .launch ⟨[], none⟩⟩ :: [])
      lingered.2 := by
  have played : replay? .default [] (.new .default 0 (.new "job" "test") 0 [] .direct) lingering =
      some lingered := (Option.some_get _).symm
  exact History.of_replay (.new 0 _ 0 [] .direct) played

theorem stalls_iff_final_lingered :
    ∃ a, lingered.2.phase.attempt? = some a ∧ lingered.2.killed = true ∧
      a.terminated = false ∧ a.streamOpen = true ∧ a.stream = [] ∧
      ∀ act, act.isTask = true → lingered.2.step? .default ⟨5000, 5000⟩ act = none := by
  refine ⟨_, rfl, rfl, rfl, rfl, rfl, ?_⟩
  exact (stalls_iff_final history_lingered rfl (by decide) rfl rfl rfl rfl (.inl rfl)).2
    ⟨.exit .success, by decide, rfl⟩

/-- A process that was never told to end, and so may keep its stream open, is not told when its job
is asked to end: the runner has no step but to wait for it. -/
theorem request_not_passed_on :
    ¬ ∀ (config : Manager.Config) (clock : Clock) (past : List Taken) (r : Runner) (a : Attempt),
      History config past r → (trace config past).countP Effect.isTermination = 0 →
        r.phase.attempt? = some a → a.terminated = false → a.streamOpen = true → a.stream = [] →
        r.killed = true → ∃ act, act.isTask = true ∧ (r.step? config clock act).isSome = true := by
  intro heard
  obtain ⟨act, own, possible⟩ := heard _ ⟨5000, 5000⟩ _ _ _ history_lingered (by decide) rfl rfl rfl
    rfl rfl
  have stuck : lingered.2.step? .default ⟨5000, 5000⟩ act = none :=
    step?_of_draining rfl rfl rfl own
  simp [stuck] at possible

end Overseer.Runner
