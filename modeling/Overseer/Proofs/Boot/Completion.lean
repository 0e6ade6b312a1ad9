import Overseer.Proofs.Boot.Partition

/-!
# Every cohort comes up

An entry depends on lighter ones only. So when nothing of a cohort can go on and every job that it
has started has shown that it is ready, or has ended, the entries are released from the lightest to
the heaviest, and the boot does not wait for the cohort any more.
-/

namespace Overseer

namespace Boot.Entry

def settling (e : Entry) : Nat :=
  if e.runningDelay = 0 then settleDelay else e.runningDelay.toInt.toNat * 1000

/-- Whether a sight of its job settles an entry: the end of an attempt, a message that matches the
pattern of the entry, or that an attempt has lasted long enough. -/
def ReadyAt (e : Entry) : Sight → Prop
  | .exit _ => True
  | .message m => ∃ text pattern, e.runningMatch = some text ∧
      Pattern.parse text = .ok pattern ∧ pattern.isMatch m.content = true
  | .tick elapsed => e.runningMatch = none ∧ ¬e.runningDelay < 0 ∧ e.settling < elapsed
  | .pid _ => False

theorem mem_readinessHooks {e : Entry} {flag : FlagRef} {h : Hook} :
    h ∈ e.readinessHooks flag ↔
      h = .releasing .exit flag ∨
      (∃ text pattern, e.runningMatch = some text ∧ Pattern.parse text = .ok pattern ∧
        h = .releasing (.content pattern) flag) ∨
      e.runningMatch = none ∧ ¬e.runningDelay < 0 ∧ h = .releasing (.delay e.settling) flag := by
  unfold readinessHooks
  cases runningMatch : e.runningMatch with
  | some text =>
      cases parsed : Pattern.parse text with
      | ok pattern => simp [parsed, or_comm, eq_comm]
      | error fault => simp [parsed, eq_comm]
  | none =>
      by_cases never : e.runningDelay < 0
      · simp [never, eq_comm]
      · by_cases usual : e.runningDelay = 0
        · simp [usual, settling, or_comm, eq_comm]
        · simp [never, usual, settling, or_comm, eq_comm]

theorem readyAt_iff (e : Entry) (flag : FlagRef) (sight : Sight) :
    e.ReadyAt sight ↔
      ∃ h ∈ e.readinessHooks flag, (Hook.Trigger.pull? h.trigger sight).isSome = true := by
  constructor
  · intro ready
    cases sight with
    | exit state => exact ⟨_, mem_readinessHooks.2 (.inl rfl), rfl⟩
    | message m =>
        obtain ⟨text, pattern, given, parsed, fits⟩ := ready
        refine ⟨_, mem_readinessHooks.2 (.inr (.inl ⟨text, pattern, given, parsed, rfl⟩)), ?_⟩
        simp [Hook.Trigger.pull?, Hook.releasing, fits]
    | tick elapsed =>
        obtain ⟨unset, timed, late⟩ := ready
        refine ⟨_, mem_readinessHooks.2 (.inr (.inr ⟨unset, timed, rfl⟩)), ?_⟩
        simp [Hook.Trigger.pull?, Hook.releasing, late]
    | pid n => cases ready
  · rintro ⟨h, member, pulled⟩
    rcases mem_readinessHooks.1 member with rfl | ⟨text, pattern, given, parsed, rfl⟩ |
      ⟨unset, timed, rfl⟩
    · cases sight with
      | exit state => trivial
      | message | tick | pid => cases pulled
    · cases sight with
      | message m =>
          refine ⟨text, pattern, given, parsed, ?_⟩
          by_contra unfit
          simp [Hook.Trigger.pull?, Hook.releasing, unfit] at pulled
      | exit | tick | pid => cases pulled
    · cases sight with
      | tick elapsed =>
          refine ⟨unset, timed, ?_⟩
          by_contra early
          simp [Hook.Trigger.pull?, Hook.releasing, early] at pulled
      | exit | message | pid => cases pulled

end Boot.Entry

namespace Manager

open Boot

/-! ## Started jobs and what they show -/

def Taken.start? (t : Taken) : Option (Nat × Entry × Nat) :=
  t.submission?.bind fun x =>
    if t.before.refusal? x.2.toCommand = none then some (x.1, x.2, t.before.runners.length)
    else none

def Taken.shown (k : Nat) (t : Taken) : List Sight :=
  match t.act with
  | .runner i work =>
      if i = k then
        (t.before.runners[k]?.map fun r => (Runner.Taken.mk t.before.clock r work).sights).getD []
      else []
  | _ => []

def starts (past : List Taken) : List (Nat × Entry × Nat) := past.reverse.filterMap Taken.start?

def shown (k : Nat) (past : List Taken) : List Sight := past.reverse.flatMap (Taken.shown k)

section
variable {config : Config} {dawn : Int} {past : List Taken} {s next : System} {act : Action}
  {t : Taken} {k n : Nat} {r : Runner} {e : Entry}

@[simp] theorem starts_cons : starts (t :: past) = starts past ++ t.start?.toList := by
  cases started : t.start? <;> simp [starts, started]

@[simp] theorem shown_cons : shown k (t :: past) = shown k past ++ t.shown k := by
  simp [shown]

theorem shown_of_bystander (bystander : act.isBystander = true) :
    (Taken.mk s act).shown k = [] := by
  cases act with
  | runner => cases bystander
  | _ => rfl

theorem shown_of_runner {work : Runner.Action} (found : s.runners[k]? = some r) :
    (Taken.mk s (.runner k work)).shown k = (Runner.Taken.mk s.clock r work).sights := by
  simp [Taken.shown, found]

theorem submission_of_start (started : (n, e, k) ∈ starts past) : (n, e) ∈ submissions past := by
  obtain ⟨t, member, start⟩ := List.mem_filterMap.1 started
  obtain ⟨x, submits, start⟩ := Option.bind_eq_some_iff.1 start
  split at start <;> cases start
  exact List.mem_filterMap.2 ⟨t, member, submits⟩

theorem System.Turn.runner_of (turn : s.Turn act next) (found : s.runners[k]? = some r) :
    ∃ r', next.runners[k]? = some r' ∧
      (r'.hooks = r.hooks ∧ (Taken.mk s act).shown k = [] ∨
        ∃ work effects, act = .runner k work ∧
          Runner.Rule s.config s.clock r work r' effects ∧
          s.Flagged next (effects.filterMap Runner.Effect.firing?)) := by
  have bound := (List.getElem?_eq_some_iff.1 found).1
  cases turn with
  | aside bystander slices runners =>
      have there := List.getElem?_eq_getElem (Nat.lt_of_lt_of_le bound runners.length)
      rcases runners.hooks k _ there with ⟨r', before, same⟩ | ⟨missing, -⟩
      · cases found.symm.trans before
        exact ⟨_, there, .inl ⟨same, shown_of_bystander bystander⟩⟩
      · cases found.symm.trans missing
  | @watched i q q' work effects next there rule runners flagged =>
      rw [runners]
      by_cases own : i = k
      · subst own
        cases found.symm.trans there
        exact ⟨q', List.getElem?_set_self bound, .inr ⟨work, effects, rfl, rule, flagged⟩⟩
      · exact ⟨r, (List.getElem?_set_ne own).trans found, .inl ⟨rfl, if_neg own⟩⟩
  | begun | givenUp | refused => exact ⟨r, found, .inl ⟨rfl, rfl⟩⟩
  | started =>
      exact ⟨r, (List.getElem?_append_left bound).trans found, .inl ⟨rfl, rfl⟩⟩

theorem System.Turn.length_runners (turn : s.Turn act next) :
    s.runners.length ≤ next.runners.length := by
  by_contra fewer
  have found := List.getElem?_eq_getElem (l := s.runners) (i := next.runners.length) (by omega)
  obtain ⟨r', there, -⟩ := turn.runner_of found
  have bound := (List.getElem?_eq_some_iff.1 there).1
  omega

theorem History.shown_eq_nil (history : History config dawn past s)
    (beyond : s.runners.length ≤ k) : shown k past = [] := by
  induction history with
  | new => rfl
  | @next past s next act history step ih =>
      have before := Nat.le_trans (System.turn_of_step step).length_runners beyond
      rw [shown_cons, ih before, List.nil_append]
      unfold Taken.shown
      split
      · split
        · rw [List.getElem?_eq_none before]
          rfl
        · rfl
      · rfl

structure Raised (past : List Taken) (s : System) : Prop where
  settled : ∀ {n e}, (n, e) ∈ submissions past →
    (∃ k, (n, e, k) ∈ starts past) ∨ (s.flag? ⟨n, e.key⟩).isSome = true
  running : ∀ {n e k}, (n, e, k) ∈ starts past → ∃ r, s.runners[k]? = some r ∧
    r.hooks.map Hook.purpose = (e.readinessHooks ⟨n, e.key⟩).map Hook.purpose ∧
    (∀ h ∈ r.hooks, h.fired = true → (s.flag? ⟨n, e.key⟩).isSome = true) ∧
    ∀ sight ∈ shown k past, e.ReadyAt sight → (s.flag? ⟨n, e.key⟩).isSome = true

theorem flag_of_purpose {g : FlagRef} {h : Hook}
    (same : (r.hooks).map Hook.purpose = (e.readinessHooks g).map Hook.purpose)
    (member : h ∈ r.hooks) : h.flag = some g := by
  have listed := List.mem_map_of_mem (f := Hook.purpose) member
  rw [same] at listed
  obtain ⟨h', inside, own⟩ := List.mem_map.1 listed
  exact (congrArg Prod.snd own).symm.trans (System.flag_of_readiness inside)

theorem flag_of_rule {r' : Runner} {work : Runner.Action} {effects : List Runner.Effect}
    {g : FlagRef} (rule : Runner.Rule s.config s.clock r work r' effects)
    (flagged : s.Flagged next (effects.filterMap Runner.Effect.firing?))
    (there : g.slice < s.slices.length)
    (same : r.hooks.map Hook.purpose = (e.readinessHooks g).map Hook.purpose)
    (known : ∀ h ∈ r.hooks, h.fired = true → (s.flag? g).isSome = true) :
    (∀ h ∈ r'.hooks, h.fired = true → (next.flag? g).isSome = true) ∧
      ∀ sight ∈ (Runner.Taken.mk s.clock r work).sights, e.ReadyAt sight →
        (next.flag? g).isSome = true := by
  have shows := rule.shows
  have works {x : Nat × Hook × Firing}
      (fires : x ∈ (Hook.observeEach r.hooks (Runner.Taken.mk s.clock r work).sights).2) :
      (next.flag? g).isSome = true := by
    obtain ⟨h, member, own⟩ := Hook.purpose_of_fired fires
    have flag := (congrArg Prod.snd own).symm.trans (flag_of_purpose same member)
    rw [← shows.fired] at fires
    exact flagged.works fires flag there
  refine ⟨fun h member fired => ?_, fun sight visible ready => ?_⟩
  · rw [shows.hooks] at member
    rcases Hook.fires_of_fired member fired with ⟨h', before, -, fired⟩ | ⟨x, fires, -⟩
    · exact flagged.isSome_stays (known h' before fired)
    · exact works fires
  · obtain ⟨h, member, pulled⟩ := (e.readyAt_iff g sight).1 ready
    have listed := List.mem_map_of_mem (f := Hook.purpose) member
    rw [← same] at listed
    obtain ⟨h', inside, own⟩ := List.mem_map.1 listed
    have trigger : h'.trigger = h.trigger := congrArg Prod.fst own
    rw [← trigger] at pulled
    rcases Hook.fires_of_pulled inside visible pulled with fired | ⟨x, fires, -⟩
    · exact flagged.isSome_stays (known h' inside fired)
    · exact works fires

theorem Raised.runningStep (raised : Raised past s) (filed : Filed past s)
    (turn : s.Turn act next) (started : (n, e, k) ∈ starts past) :
    ∃ r, next.runners[k]? = some r ∧
      r.hooks.map Hook.purpose = (e.readinessHooks ⟨n, e.key⟩).map Hook.purpose ∧
      (∀ h ∈ r.hooks, h.fired = true → (next.flag? ⟨n, e.key⟩).isSome = true) ∧
      ∀ sight ∈ shown k (⟨s, act⟩ :: past), e.ReadyAt sight →
        (next.flag? ⟨n, e.key⟩).isSome = true := by
  obtain ⟨r, found, same, fired, seen⟩ := raised.running started
  obtain ⟨r', there, ⟨hooks, nothing⟩ | ⟨work, effects, rfl, rule, flagged⟩⟩ :=
    turn.runner_of found
  · refine ⟨r', there, hooks ▸ same, fun h member old => ?_, fun sight visible ready => ?_⟩
    · exact turn.isSome_flag?_stays (fired h (hooks ▸ member) old)
    · rw [shown_cons, nothing, List.append_nil] at visible
      exact turn.isSome_flag?_stays (seen sight visible ready)
  · have bound := filed.slice_lt (submission_of_start started)
    obtain ⟨fires, shows⟩ := flag_of_rule rule flagged bound same fired
    refine ⟨r', there, ?_, fires, fun sight visible ready => ?_⟩
    · rw [rule.shows.hooks, Hook.observeEach_purpose, same]
    · rw [shown_cons] at visible
      rcases List.mem_append.1 visible with earlier | now
      · exact turn.isSome_flag?_stays (seen sight earlier ready)
      · rw [shown_of_runner found] at now
        exact shows sight now ready

theorem System.Turn.of_submission (turn : s.Turn act next)
    (submits : s.submission? act = some (n, e)) :
    (∃ factory, (Taken.mk s act).start? = some (n, e, s.runners.length) ∧
        next.runners = s.runners ++ [.new s.config s.now e.toCommand factory
          (e.readinessHooks ⟨n, e.key⟩) .direct]) ∨
      (Taken.mk s act).start? = none ∧ (next.flag? ⟨n, e.key⟩).isSome = true := by
  have start : (Taken.mk s act).start? =
      if s.refusal? e.toCommand = none then some (n, e, s.runners.length) else none := by
    simp [Taken.start?, Taken.submission?, submits]
  obtain ⟨i, slice, t, rfl, found, task, rfl, verdict⟩ := System.submission?_eq_some submits
  rw [start]
  cases turn with
  | aside bystander => cases bystander
  | givenUp found' task' verdict' =>
      cases found.symm.trans found'
      cases task.symm.trans task'
      cases verdict.symm.trans verdict'
  | started found' task' _ accepted =>
      cases found.symm.trans found'
      cases task.symm.trans task'
      exact .inl ⟨_, if_pos accepted, rfl⟩
  | refused found' task' _ refused =>
      cases found.symm.trans found'
      cases task.symm.trans task'
      exact .inr ⟨if_neg (by simp [refused]), System.isSome_flag?_release found i _ false⟩

theorem Raised.step (history : History config dawn past s) (raised : Raised past s)
    (step : s.step? act = some next) : Raised (⟨s, act⟩ :: past) next := by
  have turn := System.turn_of_step step
  refine ⟨fun {n e} passed => ?_, fun {n e k} started => ?_⟩
  · rw [submissions_cons] at passed
    rw [starts_cons]
    rcases List.mem_append.1 passed with earlier | now
    · rcases raised.settled earlier with ⟨k, started⟩ | released
      · exact .inl ⟨k, List.mem_append_left _ started⟩
      · exact .inr (turn.isSome_flag?_stays released)
    · rcases turn.of_submission (Option.mem_toList.1 now) with ⟨_, start, -⟩ | ⟨-, released⟩
      · exact .inl ⟨_, List.mem_append_right _ (Option.mem_toList.2 start)⟩
      · exact .inr released
  · rw [starts_cons] at started
    rcases List.mem_append.1 started with earlier | now
    · exact raised.runningStep history.filed turn earlier
    · have start := Option.mem_toList.1 now
      obtain ⟨⟨n', e'⟩, submits, accepted⟩ := Option.bind_eq_some_iff.1 start
      split at accepted <;> cases accepted
      rcases turn.of_submission submits with ⟨factory, -, joined⟩ | ⟨refused, -⟩
      · obtain ⟨i, _, _, rfl, -⟩ := System.submission?_eq_some submits
        refine ⟨_, joined ▸ List.getElem?_concat_length, rfl, fun h member fired => ?_,
          fun sight visible => ?_⟩
        · obtain ⟨trigger, -, rfl⟩ := List.mem_map.1 member
          cases fired
        · rw [shown_cons, history.shown_eq_nil (Nat.le_refl _)] at visible
          cases visible
      · cases start.symm.trans refused

theorem History.raised (history : History config dawn past s) : Raised past s := by
  induction history with
  | new => exact ⟨nofun, nofun⟩
  | next history step ih => exact ih.step history step

/-! ## The end of a cohort -/

/-- Nothing of a slice goes on: none of its entries, and not the boot if it waits for the slice. -/
structure Rests (s : System) (j n : Nat) : Prop where
  entries : ∀ i, s.step? (.entry n i) = none
  boot : ∀ b, s.boots[j]? = some b → b.current = some n → s.step? (.boot j) = none

/-- Every job that was started for an entry of the slice has settled its entry. -/
def AllReady (past : List Taken) (n : Nat) : Prop :=
  ∀ e k, (n, e, k) ∈ starts past → ∃ sight ∈ shown k past, e.ReadyAt sight

theorem released_of_submission (history : History config dawn past s) (ready : AllReady past n)
    (passed : (n, e) ∈ submissions past) : (s.flag? ⟨n, e.key⟩).isSome = true := by
  have raised := history.raised
  rcases raised.settled passed with ⟨k, started⟩ | released
  · obtain ⟨sight, visible, settles⟩ := ready e k started
    obtain ⟨r, -, -, -, seen⟩ := raised.running started
    exact seen sight visible settles
  · exact released

theorem released_of_dependencies {task : Task} (history : History config dawn past s)
    (stuck : ∀ i, s.step? (.entry n i) = none) (ready : AllReady past n)
    (member : task ∈ s.tasks n)
    (known : ∀ dep ∈ task.entry.dependencies, dep ∈ (s.roster n).map Entry.key →
      (s.flag? ⟨n, dep⟩).isSome = true) : (s.flag? ⟨n, task.entry.key⟩).isSome = true := by
  have filed := history.filed
  cases done : task.done with
  | true =>
      rcases filed.closed member done with passed | ⟨-, released⟩
      · exact released_of_submission history ready passed
      · exact released
  | false =>
      -- The entry would go on, as all that it waits for is known.
      obtain ⟨i, there⟩ := List.mem_iff_getElem?.1 member
      obtain ⟨slice, found, index⟩ := System.slice_of_task there
      have verdict : (slice.verdict? task).isSome = true := by
        refine Slice.verdict?_isSome (filed.waits member) done fun dep needed => ?_
        rw [← System.flag?_of_slice found]
        by_cases provided : dep ∈ (s.roster n).map Entry.key
        · exact known dep needed provided
        · rw [filed.foreign member dep needed provided]
          rfl
      have goes := step?_of_verdict found index verdict
      rw [stuck i] at goes
      cases goes

variable {j : Nat} {batch entries : List Entry}

theorem cohort_released (history : History config dawn past s)
    (accepted : ∀ e ∈ entries, e ∈ (Tree.ofEntries batch).1.services)
    (opens : (n, entries) ∈ openings j past) (stuck : ∀ i, s.step? (.entry n i) = none)
    (ready : AllReady past n) : ∀ e ∈ entries, (s.flag? ⟨n, e.key⟩).isSome = true := by
  have roster := roster_of_opening history opens
  intro e member
  have grounded := Tree.acc_needs (accepted e member)
  generalize named : e.key = key at grounded
  -- What an entry needs is released before it.
  induction grounded generalizing e with
  | intro key _ ih =>
      subst named
      have first := (Tree.mem_services_iff.1 (accepted e member)).1
      obtain ⟨task, listed, rfl⟩ := List.mem_map.1 (roster ▸ member)
      refine released_of_dependencies history stuck ready listed fun dep needed provided => ?_
      rw [roster] at provided
      obtain ⟨e', member', rfl⟩ := List.mem_map.1 provided
      exact ih e'.key ⟨_, first, needed⟩ e' member' rfl

/-- A cohort does not wait for itself: when nothing of it goes on and each of its jobs has settled
its entry, all keys are released and the boot waits no more. This holds of any part of a tree,
whatever the weights by which it was cut. -/
theorem cohort_comes_up (history : History config dawn past s)
    (accepted : ∀ e ∈ entries, e ∈ (Tree.ofEntries batch).1.services)
    (opens : (n, entries) ∈ openings j past) (rests : Rests s j n) (ready : AllReady past n) :
    (∀ e ∈ entries, (s.flag? ⟨n, e.key⟩).isSome = true) ∧
      ∃ b, s.boots[j]? = some b ∧ b.current ≠ some n := by
  have released := cohort_released history accepted opens rests.entries ready
  obtain ⟨b, slice, boot, found, grows, -⟩ := history.of_opening opens
  refine ⟨released, b, boot, fun waiting => ?_⟩
  have up : slice.isUp = true := (isUp_iff found grows).2 released
  have going := history.unfinished b (List.mem_of_getElem? boot) (by rw [waiting]; rfl)
  have stuck := rests.boot b boot waiting
  simp [System.step?, System.stepBoot?, boot, going, waiting, found, up] at stuck

end

def leader : Entry := { Entry.new "a" "test" with after := ["init"] }

def follower : Entry := { Entry.new "b" "test" with after := ["a", "init"] }

theorem services_leader :
    (Tree.ofEntries [leader, follower]).1.services = [leader, follower] := by
  cbv

def settled : List Taken × System :=
  (retrace? ([], .new .default 0) [.call (.register "test" 0),
    .call (.boot [[leader, follower], [], []]), .boot 0, .entry 0 0, .runner 0 (.launch ⟨[], none⟩),
    .runner 0 (.emit (.exit .success)), .runner 0 .receive, .runner 0 .hangUp, .runner 0 .conclude,
    .entry 0 1, .runner 1 (.launch ⟨[], some "no such file"⟩), .boot 0]).get (by decide)

theorem cohort_comes_up_settled :
    (∀ e ∈ [leader, follower], (settled.2.flag? ⟨0, e.key⟩).isSome = true) ∧
      ∃ b, settled.2.boots[0]? = some b ∧ b.current ≠ some 0 := by
  have history : History .default 0 settled.1 settled.2 :=
    history_retrace .new (Option.some_get _).symm
  have accepted : ∀ e ∈ [leader, follower], e ∈ (Tree.ofEntries [leader, follower]).1.services := by
    rw [services_leader]
    exact fun _ member => member
  have opens : (0, [leader, follower]) ∈ openings 0 settled.1 :=
    (show _ ∈ [(0, [leader, follower])] from List.mem_singleton_self _)
  refine cohort_comes_up history accepted opens ⟨?_, fun b boot waiting => ?_⟩ ?_
  · intro i
    match i with
    | 0 => rfl
    | 1 => rfl
    | i + 2 => rfl
  · cases boot
    cases waiting
  · intro e k started
    have two : (0, e, k) ∈ [(0, leader, 0), (0, follower, 1)] := started
    rcases List.mem_cons.1 two with one | other
    · cases one
      exact ⟨.exit .success,
        (show _ ∈ [_, Sight.exit .success] from List.mem_cons_of_mem _ (List.mem_singleton_self _)),
        trivial⟩
    · cases List.mem_singleton.1 other
      exact ⟨.exit .error, (show _ ∈ [Sight.exit .error] from List.mem_singleton_self _), trivial⟩

end Manager

end Overseer
