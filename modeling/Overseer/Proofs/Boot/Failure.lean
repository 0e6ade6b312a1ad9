import Overseer.Proofs.Boot.Readiness
import Overseer.Proofs.Manager.Chronicle
import Overseer.Proofs.Runner.FirstAttempt

/-!
# What a failed key says of its job

The hook that waits for the end of a job acts once, and is shown the end of every attempt. So a key
that it releases as failed tells how the first attempt ended. The job itself has failed if there is
no further attempt; a job that is run again may still succeed, and its key does not tell.
-/

namespace Overseer.Manager

open Boot

def Taken.ended? (k : Nat) (t : Taken) : Option Runner.Outcome :=
  match t.act with
  | .runner i work =>
      if i = k then t.before.runners[k]?.bind fun r => r.ending? t.before.clock work else none
  | _ => none

/-- The attempts of the runner of number `k` that have ended, the latest first. -/
def ends (k : Nat) (past : List Taken) : List Runner.Outcome := past.filterMap (Taken.ended? k)

section
variable {config : Config} {dawn : Int} {past earlier later : List Taken} {s next : System}
  {act : Action} {t : Taken} {n k : Nat} {e : Entry} {r : Runner} {o : Runner.Outcome}

@[simp] theorem ends_cons : ends k (t :: past) = (t.ended? k).toList ++ ends k past := by
  cases ended : t.ended? k <;> simp [ends, ended]

theorem ended?_of_runner {work : Runner.Action} (found : s.runners[k]? = some r) :
    (Taken.mk s (.runner k work)).ended? k = r.ending? s.clock work := by
  simp [Taken.ended?, found]

theorem ended?_of_foreign (foreign : ∀ work, act ≠ .runner k work) :
    (Taken.mk s act).ended? k = none := by
  cases act with
  | runner i work => exact if_neg fun same => foreign work (by rw [same])
  | _ => rfl

theorem ended?_eq_some (ended : (Taken.mk s act).ended? k = some o) :
    ∃ work r, act = .runner k work ∧ s.runners[k]? = some r ∧ r.ending? s.clock work = some o := by
  unfold Taken.ended? at ended
  split at ended
  · rename_i i work act_eq
    split at ended
    · rename_i same
      subst same
      obtain ⟨r, found, ending⟩ := Option.bind_eq_some_iff.1 ended
      exact ⟨work, r, act_eq, found, ending⟩
    · cases ended
  · cases ended

theorem ended?_eq_none (missing : s.runners[k]? = none) : (Taken.mk s act).ended? k = none := by
  refine Option.eq_none_iff_forall_ne_some.2 fun o ended => ?_
  obtain ⟨_, r, -, found, -⟩ := ended?_eq_some ended
  cases missing.symm.trans found

theorem History.ends_eq_nil (history : History config dawn past s)
    (missing : s.runners[k]? = none) : ends k past = [] := by
  induction history with
  | new => rfl
  | @next past s next act history step ih =>
      have longer := (System.turn_of_step step).length_runners
      have before : s.runners[k]? = none := by
        rw [List.getElem?_eq_none_iff] at missing ⊢
        omega
      rw [ends_cons, ih before, ended?_eq_none before]
      rfl

theorem System.runner_before (step : s.step? act = some next)
    (found : next.runners[k]? = some r) :
    (s.runners[k]? = some r ∧ (Taken.mk s act).ended? k = none) ∨
      (∃ q work effects, s.runners[k]? = some q ∧
        Runner.Rule s.config s.clock q work r effects ∧
        (Taken.mk s act).ended? k = q.ending? s.clock work) ∨
      s.runners[k]? = none ∧
        ∃ c factory hooks origin, r = .new s.config s.now c factory hooks origin := by
  by_cases own : ∃ j work, act = .runner j work
  · obtain ⟨j, work, rfl⟩ := own
    cases turn_of_step step with
    | aside bystander => cases bystander
    | watched there rule runners =>
        rw [runners] at found
        by_cases same : j = k
        · subst same
          rw [List.getElem?_set_self (List.getElem?_eq_some_iff.1 there).1] at found
          cases found
          exact .inr (.inl ⟨_, work, _, there, rule, ended?_of_runner there⟩)
        · rw [List.getElem?_set_ne same] at found
          exact .inl ⟨found, ended?_of_foreign fun _ eq => same (by cases eq; rfl)⟩
  · have foreign (j : Nat) (work : Runner.Action) : act ≠ .runner j work :=
      fun same => own ⟨j, work, same⟩
    have unended := ended?_of_foreign (s := s) (foreign k)
    rcases runner_of_foreign step foreign found with ⟨q, before, rfl | rfl⟩ | new
    · exact .inl ⟨before, unended⟩
    · exact .inr (.inl ⟨q, .kill, [], before, .kill, unended⟩)
    · exact .inr (.inr new)

theorem History.own (history : History config dawn past s) (found : s.runners[k]? = some r) :
    ∃ own, Runner.History config own r ∧ Runner.outcomes own = ends k past := by
  induction history generalizing r with
  | new => simp [System.new] at found
  | @next past s next act history step ih =>
      have settings := System.config_eq history.reachable
      rw [ends_cons]
      rcases System.runner_before step found with ⟨before, unended⟩ |
        ⟨q, work, effects, before, rule, ended⟩ | ⟨missing, c, factory, hooks, origin, rfl⟩
      · rw [unended]
        exact ih before
      · obtain ⟨own, earlier, told⟩ := ih before
        rw [settings] at rule
        refine ⟨_, earlier.next (Runner.step?_eq_some_iff.2 rule), ?_⟩
        rw [Runner.outcomes_cons, told, ended]
        rfl
      · rw [ended?_eq_none missing, history.ends_eq_nil missing, settings]
        exact ⟨[], .new .., rfl⟩

theorem History.command_of_start (history : History config dawn past s)
    (started : (n, e, k) ∈ starts past) :
    ∃ r, s.runners[k]? = some r ∧ r.command = e.toCommand := by
  induction history with
  | new => cases started
  | @next past s next act history step ih =>
      have turn := System.turn_of_step step
      rw [starts_cons] at started
      rcases List.mem_append.1 started with before | now
      · obtain ⟨q, found, command⟩ := ih before
        obtain ⟨r, there, -⟩ := turn.runner_of found
        refine ⟨r, there, ?_⟩
        rcases System.runner_before step there with ⟨same, -⟩ | ⟨q', _, _, old, rule, -⟩ |
          ⟨missing, -⟩
        · cases found.symm.trans same
          exact command
        · cases found.symm.trans old
          rw [rule.command_eq, command]
        · cases found.symm.trans missing
      · have start := Option.mem_toList.1 now
        obtain ⟨x, submits, accepted⟩ := Option.bind_eq_some_iff.1 start
        split at accepted <;> cases accepted
        rcases turn.of_submission submits with ⟨factory, -, joined⟩ | ⟨refused, -⟩
        · exact ⟨_, joined ▸ List.getElem?_concat_length, rfl⟩
        · cases start.symm.trans refused

theorem History.exit_mem_shown (history : History config dawn past s) (ended : o ∈ ends k past) :
    .exit o.state ∈ shown k past := by
  induction history with
  | new => cases ended
  | @next past s next act history step ih =>
      rw [ends_cons] at ended
      rw [shown_cons]
      rcases List.mem_append.1 ended with now | before
      · obtain ⟨work, r, rfl, found, ending⟩ := ended?_eq_some (Option.mem_toList.1 now)
        refine List.mem_append_right _ ?_
        rw [shown_of_runner found]
        obtain ⟨_, _, rule, -⟩ := (System.turn_of_step step).of_runner found
        exact rule.exit_mem_sights.2 ⟨o, ending, rfl⟩
      · exact List.mem_append_left _ (ih before)

theorem History.of_split (history : History config dawn (later ++ t :: earlier) s) :
    History config dawn earlier t.before := by
  induction later generalizing s with
  | nil =>
      cases history with
      | next history => exact history
  | cons _ later ih =>
      cases history with
      | next history => exact ih history

theorem first_end_of_failed {work : Runner.Action} (history : History config dawn past s)
    (started : (n, e, k) ∈ starts past) (unreleased : s.flag? ⟨n, e.key⟩ = none)
    (step : s.step? (.runner k work) = some next) (failed : next.flag? ⟨n, e.key⟩ = some false) :
    ends k past = [] ∧
      ∃ o, (Taken.mk s (.runner k work)).ended? k = some o ∧ o.state ≠ .success := by
  obtain ⟨r, found, same, fired, seen⟩ := history.raised.running started
  have there := history.filed.slice_lt (submission_of_start started)
  constructor
  · -- Every end of an attempt settles the entry.
    refine List.eq_nil_iff_forall_not_mem.2 fun o ended => ?_
    have released := seen (.exit o.state) (history.exit_mem_shown ended) trivial
    rw [unreleased] at released
    cases released
  · obtain ⟨_, _, rule, -, flagged⟩ := (System.turn_of_step step).of_runner found
    rw [flag_of_shows rule flagged there same fired unreleased] at failed
    obtain ⟨sight, visible, settles⟩ := List.exists_of_findSome?_eq_some failed
    cases sight with
    | exit state =>
        obtain ⟨o, ending, rfl⟩ := rule.exit_mem_sights.1 visible
        refine ⟨o, (ended?_of_runner found).trans ending, fun success => ?_⟩
        simp [Entry.verdict?, success, JobState.isSuccess] at settles
    | message | tick | pid => simp [Entry.verdict?] at settles

theorem next_of_first_end {work : Runner.Action} (history : History config dawn past s)
    (started : (n, e, k) ∈ starts past) (step : s.step? (.runner k work) = some next)
    (untried : ends k past = []) (ended : (Taken.mk s (.runner k work)).ended? k = some o) :
    ∃ q, next.runners[k]? = some q ∧ q.attempts = 1 ∧
      q.phase = Runner.sequel config e.toCommand s.clock.now o [] := by
  obtain ⟨r, found, command⟩ := history.command_of_start started
  obtain ⟨own, alone, told⟩ := history.own found
  have fresh := alone.tried
  rw [told, untried] at fresh
  rw [ended?_of_runner found] at ended
  obtain ⟨q, _, rule, runners, -⟩ := (System.turn_of_step step).of_runner found
  rw [System.config_eq history.reachable] at rule
  obtain ⟨one, phase⟩ := Runner.Untried.ended fresh rule ended
  rw [rule.command_eq, command] at phase
  refine ⟨q, ?_, one, phase⟩
  rw [runners, List.getElem?_set_self (List.getElem?_eq_some_iff.1 found).1]

theorem starts_append : starts (later ++ earlier) = starts earlier ++ starts later := by
  simp [starts]

/-- A key that its job releases as failed is released at the end of the first attempt, which was no
success. What comes next is up to the policy: a pause before another attempt, or the end of the job.
If the policy grants no further attempt there is none, and the result of the job is that of the
first one. In any case a job without a further attempt does not succeed. -/
theorem failed_key_tells_first_end {work : Runner.Action} {b after : System}
    (history : History config dawn (later ++ ⟨b, .runner k work⟩ :: earlier) s)
    (started : (n, e, k) ∈ starts earlier) (unreleased : b.flag? ⟨n, e.key⟩ = none)
    (step : b.step? (.runner k work) = some after)
    (failed : after.flag? ⟨n, e.key⟩ = some false) :
    ∃ o q r, ends k (⟨b, .runner k work⟩ :: earlier) = [o] ∧ o.state ≠ .success ∧
      after.runners[k]? = some q ∧ q.attempts = 1 ∧
      q.phase = Runner.sequel config e.toCommand b.clock.now o [] ∧
      s.runners[k]? = some r ∧
      (o.spawned = false ∨ o.state = .killed ∨
          e.maxRestart.toNat ≤ 1 ∧ e.recurringPeriod.toNat = 0 →
        r.attempts = 1 ∧ r.stage = .finished o.result) ∧
      (r.attempts = 1 → ∀ result, r.stage = .finished result → result.state ≠ .success) := by
  have before := history.of_split
  obtain ⟨untried, o, ended, bad⟩ :=
    first_end_of_failed before started unreleased step failed
  have first : ends k (⟨b, .runner k work⟩ :: earlier) = [o] := by
    rw [ends_cons, untried, ended]
    rfl
  obtain ⟨q, released, attempts, phase⟩ := next_of_first_end before started step untried ended
  have begun : (n, e, k) ∈ starts (later ++ ⟨b, .runner k work⟩ :: earlier) := by
    rw [starts_append, starts_cons]
    exact List.mem_append_left _ (List.mem_append_left _ started)
  obtain ⟨r, found, command⟩ := history.command_of_start begun
  obtain ⟨own, alone, told⟩ := history.own found
  have tried := alone.tried
  rw [told, ends, List.filterMap_append, ← ends, ← ends, first, List.getLast?_concat] at tried
  refine ⟨o, q, r, first, bad, released, attempts, phase, found, fun final => ?_,
    fun one result finished => ?_⟩
  · refine tried.last ((Runner.nextDelay?_eq_none_iff bad).2 ?_)
    rw [command]
    exact final
  · rcases tried.single one with waiting | ⟨last, state, paused | finished'⟩
    · cases finished.symm.trans waiting
    · cases finished.symm.trans paused
    · cases finished.symm.trans finished'
      rcases state with same | killed
      · rw [same]
        exact bad
      · rw [killed]
        decide

end

theorem exists_later_of_retrace {past : List Taken} {s : System} {acts : List Action}
    {run : List Taken × System} (retraced : retrace? (past, s) acts = some run) :
    ∃ later, run.1 = later ++ past := by
  induction acts generalizing past s with
  | nil =>
      cases retraced
      exact ⟨[], rfl⟩
  | cons act rest ih =>
      unfold retrace? at retraced
      split at retraced
      · obtain ⟨later, more⟩ := ih retraced
        exact ⟨later ++ [⟨s, act⟩], by rw [more]; simp⟩
      · cases retraced

def failing? (e : Entry) : Option (List Taken × System) :=
  retrace? ([], .new .default 0) [.call (.register "test" 0), .call (.boot [[e]]), .boot 0,
    .entry 0 0, .runner 0 (.launch ⟨[], none⟩), .runner 0 (.emit (.exit .error)),
    .runner 0 .receive, .runner 0 .hangUp]

def onceFailing : List Taken × System := (failing? leader).get (by decide +kernel)

def onceFailed : System :=
  (onceFailing.2.step? (.runner 0 .conclude)).get (by decide +kernel)

def patient : Entry := { leader with maxRestart := 2 }

def patientFailing : List Taken × System := (failing? patient).get (by decide +kernel)

def patientFailed : System :=
  (patientFailing.2.step? (.runner 0 .conclude)).get (by decide +kernel)

def patientDone : List Taken × System :=
  (retrace? (⟨patientFailing.2, .runner 0 .conclude⟩ :: patientFailing.1, patientFailed)
    [.pass 1000, .runner 0 .resume, .runner 0 (.launch ⟨[], none⟩),
      .runner 0 (.emit (.exit .success)), .runner 0 .receive, .runner 0 .hangUp,
      .runner 0 .conclude, .runner 0 .collect, .runner 0 .report, .runner 0 .farewell,
      .runner 0 .farewell, .runner 0 .farewell, .runner 0 .farewell]).get (by decide +kernel)

theorem step_patient : patientFailing.2.step? (.runner 0 .conclude) = some patientFailed :=
  (Option.some_get _).symm

theorem start_patient : (0, patient, 0) ∈ starts patientFailing.1 :=
  show _ ∈ [(0, patient, 0)] from List.mem_singleton_self _

theorem history_patientDone : ∃ later, History .default 0
    (later ++ ⟨patientFailing.2, .runner 0 .conclude⟩ :: patientFailing.1) patientDone.2 := by
  have history : History .default 0 patientFailing.1 patientFailing.2 :=
    history_retrace .new (Option.some_get _).symm
  have retraced : retrace? (⟨patientFailing.2, .runner 0 .conclude⟩ :: patientFailing.1,
    patientFailed) _ = some patientDone := (Option.some_get _).symm
  have whole := history_retrace (history.next step_patient) retraced
  obtain ⟨later, split⟩ := exists_later_of_retrace retraced
  rw [split] at whole
  exact ⟨later, whole⟩

theorem failed_key_tells_first_end_once :
    (onceFailed.flag? ⟨0, "a"⟩ = some false ∧
      ∃ r, onceFailed.runners[0]? = some r ∧ r.attempts = 1 ∧
        ∃ result, r.stage = .finished result) ∧
    patientFailed.flag? ⟨0, "a"⟩ = some false ∧
      ∃ q, patientFailed.runners[0]? = some q ∧ q.attempts = 1 ∧
        ∃ result, q.stage = .pausing result ∧ result.state ≠ .success := by
  constructor
  · have history : History .default 0 onceFailing.1 onceFailing.2 :=
      history_retrace .new (Option.some_get _).symm
    have step : onceFailing.2.step? (.runner 0 .conclude) = some onceFailed :=
      (Option.some_get _).symm
    have ended : History .default 0 ([] ++ ⟨onceFailing.2, .runner 0 .conclude⟩ :: onceFailing.1)
        onceFailed := history.next step
    have started : (0, leader, 0) ∈ starts onceFailing.1 :=
      show _ ∈ [(0, leader, 0)] from List.mem_singleton_self _
    have failed : onceFailed.flag? ⟨0, leader.key⟩ = some false := by decide +kernel
    obtain ⟨o, q, r, -, -, -, -, -, found, last, -⟩ :=
      failed_key_tells_first_end ended started (by decide +kernel) step failed
    obtain ⟨one, finished⟩ := last (.inr (.inr ⟨by decide, by decide⟩))
    exact ⟨failed, r, found, one, _, finished⟩
  · obtain ⟨later, whole⟩ := history_patientDone
    have failed : patientFailed.flag? ⟨0, patient.key⟩ = some false := by decide +kernel
    obtain ⟨o, q, r, first, bad, found, attempts, phase, -⟩ :=
      failed_key_tells_first_end whole start_patient (by decide +kernel) step_patient failed
    refine ⟨failed, q, found, attempts, o.result, ?_, bad⟩
    -- The job may fail once more, so that a pause follows.
    have known : (ends 0 (⟨patientFailing.2, .runner 0 .conclude⟩ :: patientFailing.1)).map
        (fun o => (o.spawned, o.state)) = [(true, .error)] := by decide +kernel
    rw [first] at known
    obtain ⟨spawned, error⟩ : o.spawned = true ∧ o.state = .error := by simpa using known
    have stage := congrArg Runner.Phase.stage phase
    rw [Runner.stage_sequel] at stage
    split at stage
    · exact stage
    · rename_i none
      rcases (Runner.nextDelay?_eq_none_iff bad).1 none with unspawned | killed | ⟨limit, -⟩
      · cases unspawned.symm.trans spawned
      · cases killed.symm.trans error
      · exact absurd limit (by decide)

/-- The key of an entry is released as failed, and its job is run again and succeeds. -/
theorem failed_key_of_successful_job :
    ∃ later earlier b after s r result,
      History .default 0 (later ++ ⟨b, .runner 0 .conclude⟩ :: earlier) s ∧
      (0, patient, 0) ∈ starts earlier ∧ b.flag? ⟨0, "a"⟩ = none ∧
      b.step? (.runner 0 .conclude) = some after ∧ after.flag? ⟨0, "a"⟩ = some false ∧
      s.runners[0]? = some r ∧ r.attempts = 2 ∧ r.published? = some result ∧
      result.state = .success := by
  obtain ⟨later, whole⟩ := history_patientDone
  have succeeded : (patientDone.2.runners[0]?.bind fun r => r.published?.map fun result =>
      (r.attempts, result.state)) = some (2, .success) := by decide +kernel
  obtain ⟨r, found, published⟩ := Option.bind_eq_some_iff.1 succeeded
  obtain ⟨result, published, same⟩ := Option.map_eq_some_iff.1 published
  obtain ⟨two, success⟩ := Prod.mk.inj same
  exact ⟨later, _, _, _, _, r, result, whole, start_patient, by decide +kernel, step_patient,
    by decide +kernel, found, two, published, success⟩

end Overseer.Manager
