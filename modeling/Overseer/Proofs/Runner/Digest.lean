import Overseer.Proofs.Runner.Attempt
import Overseer.Proofs.Runner.Restart

/-!
# What a result tells of its attempt

The result of an attempt is a digest of the messages that the runner took from the process and of
the requests to end that it followed. `attempt_digest` says so for every attempt, in whatever order
the messages, the requests and the ticks of its clocks have come.
-/

namespace Overseer

theorem Stream.Ring.push_rtake {capacity : Nat} (room : 0 < capacity) (lines : List String)
    (line : String) :
    (Stream.Ring.mk capacity (lines.rtake capacity)).push line =
      ⟨capacity, (lines ++ [line]).rtake capacity⟩ := by
  obtain ⟨n, rfl⟩ := Nat.exists_eq_succ_of_ne_zero (Nat.ne_of_gt room)
  have kept : (if (lines.rtake (n + 1)).length = n + 1 then (lines.rtake (n + 1)).drop 1
      else lines.rtake (n + 1)) = lines.rtake n := by
    unfold List.rtake
    rw [List.length_drop, List.drop_drop]
    split
    · congr 1
      omega
    · congr 1
      omega
  rw [List.rtake_concat_succ]
  simp only [push, kept]

namespace Runner

def contents (level : Level) (ms : List Message) : List String :=
  (ms.filter fun m => m.level == level).map Message.content

def latest? (levels : Level → Bool) (ms : List Message) : Option Message :=
  (ms.filter fun m => levels m.level).getLast?

def tailLength (config : Manager.Config) : Nat := max config.effectiveStreamLines 1

def lastLines (config : Manager.Config) (level : Level) (ms : List Message) : String :=
  String.join (((contents level ms).rtake (tailLength config)).map (· ++ "\n"))

/-- What is known of the end of an attempt: a request to end counts more than the time limit, and
that counts more than what the process says. -/
def verdict? (obeyed expired : Bool) (ms : List Message) : Option JobState :=
  if obeyed then some .killed
  else if expired then some .timeout
  else (ms.find? Attempt.isFinal).map fun m => (JobState.parse? m.content).getD .error

def digest (config : Manager.Config) (c : Command) (began ended : Clock) (obeyed expired : Bool)
    (ms : List Message) : JobResult where
  id := c.id
  command := c.command
  data := ((latest? Level.isResult ms).map Message.content).getD ""
  level := ((latest? Level.isResult ms).map Message.level).getD ⟨0⟩
  streams := (lastLines config .stdout ms, lastLines config .stderr ms)
  critical := ((latest? (· == .critical) ms).map Message.content).getD ""
  state := (verdict? obeyed expired ms).getD .error
  startTime := .ofInt began.epoch
  time := (ended.now - began.now).toUInt64
  tags := c.tags

structure Kept (config : Manager.Config) (c : Command) (clock : Clock) (ms : List Message)
    (a : Attempt) : Prop where
  began : a.began = clock.now
  output : a.output = ⟨tailLength config, (contents .stdout ms).rtake (tailLength config)⟩
  errors : a.errors = ⟨tailLength config, (contents .stderr ms).rtake (tailLength config)⟩
  result : a.result =
    { Attempt.blank c clock.epoch with
      data := ((latest? Level.isResult ms).map Message.content).getD ""
      level := ((latest? Level.isResult ms).map Message.level).getD ⟨0⟩
      critical := ((latest? (· == .critical) ms).map Message.content).getD "" }

structure Account (config : Manager.Config) (c : Command) (clock : Clock) (during : List Taken)
    (a : Attempt) : Prop where
  kept : Kept config c clock (heard during) a
  timedOut : a.timedOut = during.any Taken.expires
  terminated : a.terminated = (during.any Taken.obeys || during.any Taken.expires)
  state : a.state =
    verdict? (during.any Taken.obeys) (during.any Taken.expires) (heard during)

def Phase.attempt? : Phase → Option Attempt
  | .listening a | .draining a => some a
  | _ => none

/-! ## One message more -/

theorem contents_concat (level : Level) (ms : List Message) (m : Message) :
    contents level (ms ++ [m]) =
      if m.level = level then contents level ms ++ [m.content] else contents level ms := by
  by_cases same : m.level = level <;> simp [contents, same]

theorem latest?_concat (levels : Level → Bool) (ms : List Message) (m : Message) :
    latest? levels (ms ++ [m]) = if levels m.level then some m else latest? levels ms := by
  cases counts : levels m.level <;> simp [latest?, counts]

section
variable {config : Manager.Config} {c : Command} {clock began : Clock} {r next q : Runner}
  {act : Action} {effects : List Effect} {during earlier : List Taken} {t : Taken} {a : Attempt}
  {ms : List Message} {l : Launch}

theorem tailLength_pos (config : Manager.Config) : 0 < tailLength config := by
  unfold tailLength
  omega

theorem Attempt.record_frame (a : Attempt) (m : Message) :
    (a.record m).began = a.began ∧ (a.record m).terminated = a.terminated ∧
      (a.record m).timedOut = a.timedOut := by
  unfold Attempt.record
  repeat' split
  all_goals exact ⟨rfl, rfl, rfl⟩

theorem Attempt.record_output (a : Attempt) (m : Message) :
    (a.record m).output =
      if m.level = .stdout then a.output.push m.content else a.output := by
  unfold Attempt.record
  by_cases own : m.level = .stdout
  · simp only [own]
    rfl
  · rw [if_neg own]
    repeat' split
    all_goals rfl

theorem Attempt.record_errors (a : Attempt) (m : Message) :
    (a.record m).errors =
      if m.level = .stderr then a.errors.push m.content else a.errors := by
  unfold Attempt.record
  by_cases own : m.level = .stderr
  · simp only [own]
    rfl
  · rw [if_neg own]
    repeat' split
    all_goals rfl

theorem Attempt.record_result (a : Attempt) (m : Message) :
    (a.record m).result =
      { a.result with
        data := if m.level.isResult then m.content else a.result.data
        level := if m.level.isResult then m.level else a.result.level
        critical := if m.level = .critical then m.content else a.result.critical } := by
  unfold Attempt.record
  by_cases special : m.level = .exitState ∨ m.level = .stdout ∨ m.level = .stderr ∨
      m.level = .critical
  · -- A level with a meaning of its own is not one of a result.
    rcases special with level | level | level | level
    all_goals
      simp only [level]
      repeat' split
      all_goals first | rfl | contradiction
  · simp only [not_or] at special
    obtain ⟨final, stdout, stderr, critical⟩ := special
    rw [if_neg final, if_neg stdout, if_neg stderr, if_neg critical, if_neg critical]
    split <;> rfl

theorem Kept.record (kept : Kept config c clock ms a) (m : Message) :
    Kept config c clock (ms ++ [m]) (a.record m) := by
  obtain ⟨began, output, errors, result⟩ := kept
  have pushed (level : Level) := Stream.Ring.push_rtake (tailLength_pos config)
    (contents level ms) m.content
  refine ⟨?_, ?_, ?_, ?_⟩
  · rw [(Attempt.record_frame a m).1, began]
  · rw [Attempt.record_output, contents_concat, output, pushed]
    split <;> rfl
  · rw [Attempt.record_errors, contents_concat, errors, pushed]
    split <;> rfl
  · rw [Attempt.record_result, latest?_concat, latest?_concat, result]
    cases m.level.isResult <;> by_cases critical : m.level = .critical <;> simp [critical]

/-! ## An attempt keeps account -/

theorem heard_final (during : List Taken) (m : Message) (member : m ∈ heard during) :
    ∃ n ∈ received during, Attempt.isFinal n = Attempt.isFinal m := by
  obtain ⟨t, taken, stamped⟩ := List.mem_filterMap.1 member
  obtain ⟨n, received, rfl⟩ := Option.map_eq_some_iff.1 stamped
  exact ⟨n, List.mem_filterMap.2 ⟨t, taken, received⟩, rfl⟩

theorem Attempt.record_state (a : Attempt) (m : Message) :
    (a.record m).state =
      if Attempt.isFinal m && !a.timedOut then some ((JobState.parse? m.content).getD .error)
      else a.state := by
  unfold Attempt.record
  by_cases final : m.level = .exitState
  · rw [if_pos final]
    cases late : a.timedOut <;> simp [Attempt.isFinal, final]
  · rw [if_neg final]
    have other : Attempt.isFinal m = false := by simpa [Attempt.isFinal] using final
    rw [other]
    repeat' split
    all_goals first | rfl | contradiction

theorem Account.frame (account : Account config c clock during a) (silent : t.heard? = none)
    (free : t.obeys = false) (early : t.expires = false) {stream : List Message}
    {streamOpen : Bool} {nextSample nextTick : Nat} :
    Account config c clock (t :: during) { a with stream, streamOpen, nextSample, nextTick } := by
  obtain ⟨⟨began, output, errors, result⟩, timedOut, terminated, state⟩ := account
  have same : heard (t :: during) = heard during := by simp [silent]
  refine ⟨?_, ?_, ?_, ?_⟩
  · rw [same]
    exact ⟨began, output, errors, result⟩
  · simpa [early] using timedOut
  · simpa [free, early] using terminated
  · simpa [same, free, early] using state

theorem Account.receive (account : Account config c clock during a) {m : Message}
    (taken : t.heard? = some m) (free : t.obeys = false) (early : t.expires = false)
    (going : ∀ m ∈ heard during, Attempt.isFinal m = false)
    (calm : during.any Taken.obeys = false) {stream : List Message} :
    Account config c clock (t :: during) ({ a with stream }.record m) := by
  obtain ⟨⟨began, output, errors, result⟩, timedOut, terminated, known⟩ := account
  have more : heard (t :: during) = heard during ++ [m] := by simp [taken]
  have unsaid : (heard during).find? Attempt.isFinal = none := by
    rw [List.find?_eq_none]
    intro n member
    simp [going n member]
  have obeyed : (t :: during).any Taken.obeys = false := by simpa [free] using calm
  have expired : (t :: during).any Taken.expires = a.timedOut := by
    rw [timedOut]
    simp [early]
  refine ⟨?_, ?_, ?_, ?_⟩
  · rw [more]
    have kept : Kept config c clock (heard during) { a with stream } :=
      ⟨began, output, errors, result⟩
    exact kept.record m
  · rw [(Attempt.record_frame _ m).2.2, expired]
  · rw [(Attempt.record_frame _ m).2.1, obeyed, expired]
    rw [calm, ← timedOut] at terminated
    exact terminated
  · rw [calm, ← timedOut] at known
    rw [Attempt.record_state, more, obeyed, expired]
    cases late : a.timedOut with
    | true =>
        -- The time limit has decided the state, whatever the process says.
        rw [late] at known
        simpa [verdict?] using known
    | false =>
        rw [late] at known
        cases final : Attempt.isFinal m <;> simp [verdict?, unsaid, final] at known ⊢
        exact known

theorem Rule.account (rule : Rule config clock r act next effects)
    (attended : Attended during r.phase) (within : (Taken.mk clock r act).concludes = false)
    (account : ∀ a, r.phase.attempt? = some a → Account config c began during a) :
    ∀ a, next.phase.attempt? = some a →
      Account config c began (⟨clock, r, act⟩ :: during) a := by
  intro b under
  have known {a : Attempt} {p : Phase} (phase : r.phase = p) (same : p.attempt? = some a) :
      Account config c began during a := account a (phase ▸ same)
  cases rule with
  | kill | collect | flush => exact (account b under).frame rfl rfl rfl
  | sample phase | tick phase | hangUp phase | emit phase =>
      cases under
      exact (known phase rfl).frame rfl rfl rfl
  | discard phase | lateHangUp phase | lateEmit phase =>
      cases under
      exact (known phase rfl).frame rfl rfl rfl
  | endOfStream phase stream closed =>
      cases under
      refine (known phase rfl).frame ?_ rfl rfl
      simp [Taken.heard?, Taken.received?, phase, stream]
  | conclude => cases within
  | @obey a phase killed =>
      cases under
      have same : heard (⟨clock, r, .obey⟩ :: during) = heard during := by
        simp [Taken.heard?, Taken.received?]
      obtain ⟨⟨start, output, errors, result⟩, timedOut, -, -⟩ := known phase rfl
      refine ⟨?_, timedOut, rfl, rfl⟩
      rw [same]
      exact ⟨start, output, errors, result⟩
  | @expire a t phase deadline due =>
      cases under
      have same : heard (⟨clock, r, .expire⟩ :: during) = heard during := by
        simp [Taken.heard?, Taken.received?]
      obtain ⟨⟨start, output, errors, result⟩, -, -, -⟩ := known phase rfl
      rw [phase] at attended
      cases attended with
      | listening queue going free =>
          refine ⟨?_, rfl, ?_, ?_⟩
          · rw [same]
            exact ⟨start, output, errors, result⟩
          · exact (Bool.or_true _).symm
          · show some JobState.timeout = verdict? (during.any Taken.obeys) true _
            rw [free]
            rfl
  | @receive a m rest phase stream =>
      have taken : (Taken.mk clock r .receive).heard? = some (m.stamp (.ofInt clock.nanos)) := by
        simp [Taken.heard?, Taken.received?, phase, stream]
      have recorded : b = { a with stream := rest }.record (m.stamp (.ofInt clock.nanos)) := by
        simp only [Runner.receive] at under
        split at under <;> exact (Option.some.inj under).symm
      rw [phase] at attended
      cases attended with
      | listening queue going free =>
          rw [recorded]
          refine (known phase rfl).receive taken rfl rfl (fun n member => ?_) free
          obtain ⟨n', before, same⟩ := heard_final during n member
          rw [← same]
          exact going n' before
  | launch phase | resume phase | abandon phase | report phase | farewell phase =>
      rw [phase] at attended
      cases attended

theorem History.account
    (history : History config (during ++ ⟨began, q, .launch l⟩ :: earlier) r)
    (spawned : l.failure = none) (within : during.any Taken.concludes = false) :
    ∀ a, r.phase.attempt? = some a → Account config q.command began during a := by
  induction during generalizing r with
  | nil =>
      intro a under
      obtain ⟨-, effects, rule⟩ := history.last_step
      cases rule with
      | launch phase =>
          obtain ⟨hooks, q, seen, launch, -, launched⟩ := launch_cases config began q l
          rw [launch] at under
          cases launched <;> cases under
          have empty : Stream.Ring.new config.effectiveStreamLines =
              ⟨tailLength config, [].rtake (tailLength config)⟩ := by
            rw [List.rtake_nil]
            rfl
          exact ⟨⟨rfl, empty, empty, rfl⟩, rfl, rfl, rfl⟩
  | cons t during ih =>
      obtain ⟨history, rule⟩ := history.last_rule
      obtain ⟨last, within⟩ := Bool.or_eq_false_iff.1 within
      exact rule.account (history.attended spawned within) last (ih history within)

theorem Account.conclude_eq (account : Account config c began during a) (ended : Clock) :
    a.conclude ended.now = digest config c began ended (during.any Taken.obeys)
      (during.any Taken.expires) (heard during) := by
  obtain ⟨⟨start, output, errors, result⟩, -, -, state⟩ := account
  rw [Attempt.conclude, start, output, errors, result, state]
  rfl

theorem conclude_stage (config : Manager.Config) (clock : Clock) (r : Runner) (a : Attempt) :
    (r.conclude config clock a).1.stage = .pausing (a.conclude clock.now) ∨
      (r.conclude config clock a).1.stage = .finished (a.conclude clock.now) := by
  obtain ⟨hooks, concluded⟩ := conclude_fst config clock r a
  rw [concluded]
  split
  · exact .inr rfl
  · split
    · exact .inl rfl
    · exact .inr rfl

/-- An attempt is a function of what came of its process and of the requests to end. The runner
takes the messages in order up to the final one, or a part of them if it obeys a request to end. The
hooks are shown what it takes, the handlers hear what is accepted of that, and the result is the
digest of it. The process is told to end once for each request that is followed, and else never. -/
theorem attempt_digest
    (history : History config (during ++ ⟨began, q, .launch l⟩ :: earlier) r)
    (spawned : l.failure = none) (within : during.any Taken.concludes = false)
    (step : r.step? config ended .conclude = some (next, effects)) :
    let steps := ⟨ended, r, .conclude⟩ :: during ++ [⟨began, q, .launch l⟩]
    received during <+: upToFinal (sent during) ∧
    (during.any Taken.obeys = false → received during = upToFinal (sent during)) ∧
    Hook.observeEach q.hooks (sights steps) =
      (next.hooks, (trace config steps).filterMap Effect.firing?) ∧
    (sights steps).filterMap Sight.message? = heard during ∧
    (trace config steps).filterMap Effect.message? =
      (heard during).filter (fun m => q.command.accepts m.level) ∧
    (let result := digest config q.command began ended (during.any Taken.obeys)
      (during.any Taken.expires) (heard during)
    next.stage = .pausing result ∨ next.stage = .finished result) ∧
    ∀ t ∈ steps,
      (t.effects config).countP Effect.isTermination = (t.obeys || t.expires).toNat := by
  have attended := history.attended spawned within
  have account := history.account spawned within
  have whole : History config
      ((⟨ended, r, .conclude⟩ :: during) ++ ⟨began, q, .launch l⟩ :: earlier) next :=
    history.next step
  have command : next.command = q.command := whole.command_eq
  have started : heard (⟨ended, r, .conclude⟩ :: during ++ [⟨began, q, .launch l⟩]) =
      heard during := by
    have first : (Taken.mk began q (.launch l)).heard? = none := rfl
    have last : (Taken.mk ended r .conclude).heard? = none := rfl
    simp [heard, first, last]
  refine ⟨attended.received_prefix, ?_, whole.reveals, ?_, ?_, ?_, ?_⟩
  · intro free
    cases step?_eq_some_iff.1 step with
    | conclude phase =>
        rw [phase] at attended
        exact attended.received_eq free
  · rw [sights_messages, started]
  · rw [← started, ← command]
    rw [List.append_cons] at whole
    exact whole.messages_eq
  · cases step?_eq_some_iff.1 step with
    | @conclude a phase stream closed =>
        have told := (account a (by rw [phase]; rfl)).conclude_eq ended
        rw [← told]
        exact conclude_stage config ended r a
  · intro t member
    have taken := List.mem_append_left earlier member
    rw [List.append_assoc] at taken
    obtain ⟨after, rule⟩ := whole.rule_of_mem taken
    exact rule.shows.terminations

end

def hurried : Runner :=
  .new .default 0 { Command.new "job" "test" with maxTime := 1 } 0 [] .direct

def overrun : List (Clock × Action) :=
  [(⟨0, 0⟩, .launch ⟨[], none⟩), (⟨9, 9⟩, .emit (.new .stdout "out")), (⟨9, 9⟩, .receive),
    (⟨1000, 1000⟩, .expire), (⟨1001, 1001⟩, .emit (.exit .success)), (⟨1001, 1001⟩, .receive),
    (⟨1001, 1001⟩, .emit (.new .stdout "late")), (⟨1001, 1001⟩, .hangUp),
    (⟨1001, 1001⟩, .discard)]

def overran : List Taken × Runner := (replay? .default [] hurried overrun).get (by decide)

theorem history_overran :
    History .default (overran.1.take 8 ++ ⟨⟨0, 0⟩, hurried, .launch ⟨[], none⟩⟩ :: [])
      overran.2 := by
  have played : replay? .default [] hurried overrun = some overran := (Option.some_get _).symm
  exact History.of_replay (.new 0 _ 0 [] .direct) played

theorem attempt_digest_overrun :
    ∃ next effects, overran.2.step? .default ⟨1002, 1002⟩ .conclude = some (next, effects) ∧
      received (overran.1.take 8) = [.new .stdout "out", .exit .success] ∧
      ∃ result, (next.stage = .pausing result ∨ next.stage = .finished result) ∧
        result.state = .timeout ∧ result.streams = ("out\n", "") ∧ result.time = 1002 := by
  have step : overran.2.step? .default ⟨1002, 1002⟩ .conclude = some _ := rfl
  refine ⟨_, _, step, ?_⟩
  have whole := attempt_digest history_overran rfl (by decide) step
  exact ⟨whole.2.1 rfl, _, whole.2.2.2.2.2.1, rfl, rfl, rfl⟩

end Runner

end Overseer
