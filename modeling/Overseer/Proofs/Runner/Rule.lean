import Mathlib
import Overseer.Runner.Lifecycle

/-!
# The rules of a runner

`Rule` lists what a runner can do, one constructor for each way in which it can move, with the
condition under which it may. `step?_eq_some_iff` says that these are exactly its steps, so that a
proof about a step is a proof by cases on its rule.
-/

namespace Overseer

def Hook.observeEach : List Hook → List Sight → List Hook × List (Nat × Hook × Firing)
  | hooks, [] => (hooks, [])
  | hooks, s :: rest =>
      let (hooks, fired) := Hook.observeAll hooks s
      let (hooks, more) := Hook.observeEach hooks rest
      (hooks, fired ++ more)

namespace Runner

/-- The ways in which a runner can move. -/
inductive Rule (config : Manager.Config) (clock : Clock) (r : Runner) :
    Action → Runner → List Effect → Prop where
  | kill : Rule config clock r .kill { r with killed := true } []
  | collect (running : r.collector.stopped = false)
      (letters : r.collector.mailbox.isEmpty = false) :
      Rule config clock r .collect
        { r with collector := (r.collector.receive clock.nanos).2 }
        ((r.collector.receive clock.nanos).1.toList.map .flushed)
  | flush (due : r.collector.due clock.now = true) :
      Rule config clock r .flush
        { r with collector := (r.collector.tick clock.nanos).2 }
        ((r.collector.tick clock.nanos).1.toList.map .flushed)
  | launch {l : Launch} (phase : r.phase = .starting) :
      Rule config clock r (.launch l) (r.launch config clock l).1 (r.launch config clock l).2
  | obey {a : Attempt} (phase : r.phase = .listening a) (killed : r.killed = true) :
      Rule config clock r .obey
        { r with phase := .draining (a.terminate .killed) } [.terminated]
  | expire {a : Attempt} {t : Nat} (phase : r.phase = .listening a)
      (deadline : a.deadline? r.command = some t) (due : t ≤ clock.now) :
      Rule config clock r .expire
        { r with phase := .listening { a.terminate .timeout with timedOut := true } }
        [.terminated]
  | sample {a : Attempt} {u : Usage} (phase : r.phase = .listening a)
      (due : a.nextSample ≤ clock.now) :
      Rule config clock r (.sample u)
        { r with
          usage := u
          collector := (usageLines u).foldl (fun c line => c.post (.line line)) r.collector
          phase := .listening
            { a with nextSample := a.nextSample + config.effectiveMeterInterval } } []
  | tick {a : Attempt} (phase : r.phase = .listening a) (due : a.nextTick ≤ clock.now) :
      Rule config clock r .tick
        ({ r with
            phase := .listening
              { a with nextTick := a.nextTick + config.effectiveHookTick } }.reveal
          (.tick (clock.now - a.began))).1
        ({ r with
            phase := .listening
              { a with nextTick := a.nextTick + config.effectiveHookTick } }.reveal
          (.tick (clock.now - a.began))).2
  | receive {a : Attempt} {m : Message} {rest : List Message} (phase : r.phase = .listening a)
      (stream : a.stream = m :: rest) :
      Rule config clock r .receive (r.receive clock { a with stream := rest } m).1
        (r.receive clock { a with stream := rest } m).2
  | endOfStream {a : Attempt} (phase : r.phase = .listening a) (stream : a.stream = [])
      (closed : a.streamOpen = false) :
      Rule config clock r .receive { r with phase := .draining a } []
  | emit {a : Attempt} {m : Message} (phase : r.phase = .listening a)
      (streamOpen : a.streamOpen = true) :
      Rule config clock r (.emit m)
        { r with phase := .listening { a with stream := a.stream ++ [m] } } []
  | hangUp {a : Attempt} (phase : r.phase = .listening a) :
      Rule config clock r .hangUp { r with phase := .listening { a with streamOpen := false } } []
  | discard {a : Attempt} {m : Message} {rest : List Message} (phase : r.phase = .draining a)
      (stream : a.stream = m :: rest) :
      Rule config clock r .discard { r with phase := .draining { a with stream := rest } } []
  | conclude {a : Attempt} (phase : r.phase = .draining a) (stream : a.stream = [])
      (closed : a.streamOpen = false) :
      Rule config clock r .conclude (r.conclude config clock a).1 (r.conclude config clock a).2
  | lateEmit {a : Attempt} {m : Message} (phase : r.phase = .draining a)
      (streamOpen : a.streamOpen = true) :
      Rule config clock r (.emit m)
        { r with phase := .draining { a with stream := a.stream ++ [m] } } []
  | lateHangUp {a : Attempt} (phase : r.phase = .draining a) :
      Rule config clock r .hangUp { r with phase := .draining { a with streamOpen := false } } []
  | resume {result : JobResult} {wakeAt : Nat} (phase : r.phase = .pausing result wakeAt)
      (due : wakeAt ≤ clock.now) :
      Rule config clock r .resume { r with phase := .starting } []
  | abandon {result : JobResult} {wakeAt : Nat} (phase : r.phase = .pausing result wakeAt)
      (killed : r.killed = true) :
      Rule config clock r .abandon (r.stop { result with state := .killed }) []
  | report {result : JobResult} (phase : r.phase = .stopping result)
      (stopped : r.collector.stopped = true) :
      Rule config clock r .report { r with phase := .closing result .leave } [.result result]
  | farewell {result : JobResult} {next : Farewell} (phase : r.phase = .closing result next) :
      Rule config clock r .farewell (r.farewell result next).1 (r.farewell result next).2

section
variable {config : Manager.Config} {clock : Clock} {r next : Runner} {act : Action}
  {effects : List Effect}

theorem listen?_rule {a : Attempt} (phase : r.phase = .listening a)
    (step : r.listen? config clock a act = some (next, effects)) :
    Rule config clock r act next effects := by
  cases act <;> simp only [listen?] at step
  case obey =>
    split at step <;> cases step
    exact .obey phase ‹_›
  case expire =>
    split at step
    · split at step <;> cases step
      exact .expire phase ‹_› ‹_›
    · cases step
  case sample u =>
    split at step <;> cases step
    exact .sample phase ‹_›
  case tick =>
    split at step
    · have rule : Rule config clock r .tick _ _ := .tick phase ‹_›
      rw [Option.some.inj step] at rule
      exact rule
    · cases step
  case receive =>
    split at step
    · rename_i m rest stream
      have rule : Rule config clock r .receive _ _ := .receive phase stream
      rw [Option.some.inj step] at rule
      exact rule
    · rename_i stream
      split at step <;> cases step
      rename_i closed
      exact .endOfStream phase stream (eq_false_of_ne_true closed)
  case emit m =>
    split at step <;> cases step
    exact .emit phase ‹_›
  case hangUp =>
    cases step
    exact .hangUp phase
  all_goals cases step

theorem drain?_rule {a : Attempt} (phase : r.phase = .draining a)
    (step : r.drain? config clock a act = some (next, effects)) :
    Rule config clock r act next effects := by
  cases act <;> simp only [drain?] at step
  case discard =>
    split at step
    · rename_i m rest stream
      cases step
      exact .discard phase stream
    · cases step
  case conclude =>
    split at step
    · rename_i exhausted
      obtain ⟨stream, closed⟩ : a.stream = [] ∧ a.streamOpen = false := by simpa using exhausted
      have rule : Rule config clock r .conclude _ _ := .conclude phase stream closed
      rw [Option.some.inj step] at rule
      exact rule
    · cases step
  case emit m =>
    split at step <;> cases step
    exact .lateEmit phase ‹_›
  case hangUp =>
    cases step
    exact .lateHangUp phase
  all_goals cases step

theorem advance?_rule (step : r.advance? config clock act = some (next, effects)) :
    Rule config clock r act next effects := by
  unfold advance? at step
  cases phase : r.phase with
  | starting =>
    simp only [phase] at step
    cases act with
    | launch l =>
      have rule : Rule config clock r (.launch l) _ _ := .launch phase
      rw [Option.some.inj step] at rule
      exact rule
    | _ => cases step
  | listening a =>
    simp only [phase] at step
    exact listen?_rule phase step
  | draining a =>
    simp only [phase] at step
    exact drain?_rule phase step
  | pausing result wakeAt =>
    simp only [phase] at step
    cases act with
    | resume =>
      simp only at step
      split at step <;> cases step
      exact .resume phase ‹_›
    | abandon =>
      simp only at step
      split at step <;> cases step
      exact .abandon phase ‹_›
    | _ => cases step
  | stopping result =>
    simp only [phase] at step
    cases act with
    | report =>
      simp only at step
      split at step <;> cases step
      exact .report phase ‹_›
    | _ => cases step
  | closing result k =>
    simp only [phase] at step
    cases act with
    | farewell =>
      have rule : Rule config clock r .farewell _ _ := .farewell phase
      rw [Option.some.inj step] at rule
      exact rule
    | _ => cases step
  | ended | crashed =>
    simp only [phase] at step
    cases step

theorem step?_eq_some_iff :
    r.step? config clock act = some (next, effects) ↔ Rule config clock r act next effects := by
  constructor
  · intro step
    cases act
    case kill =>
      cases step
      exact .kill
    case collect =>
      simp only [step?] at step
      split at step <;> cases step
      rename_i busy
      obtain ⟨running, letters⟩ :
          r.collector.stopped = false ∧ r.collector.mailbox.isEmpty = false := by
        simpa using busy
      exact .collect running letters
    case flush =>
      simp only [step?] at step
      split at step <;> cases step
      exact .flush ‹_›
    all_goals exact advance?_rule step
  · intro rule
    cases rule with
    | kill => rfl
    | collect running letters => simp [step?, running, letters]
    | flush due => simp [step?, due]
    | launch phase => simp [step?, advance?, phase]
    | obey phase killed => simp [step?, advance?, phase, listen?, killed]
    | expire phase deadline due => simp [step?, advance?, phase, listen?, deadline, due]
    | sample phase due => simp [step?, advance?, phase, listen?, due]
    | tick phase due => simp [step?, advance?, phase, listen?, due]
    | receive phase stream => simp [step?, advance?, phase, listen?, stream]
    | endOfStream phase stream closed => simp [step?, advance?, phase, listen?, stream, closed]
    | emit phase streamOpen => simp [step?, advance?, phase, listen?, streamOpen]
    | hangUp phase => simp [step?, advance?, phase, listen?]
    | discard phase stream => simp [step?, advance?, phase, drain?, stream]
    | conclude phase stream closed => simp [step?, advance?, phase, drain?, stream, closed]
    | lateEmit phase streamOpen => simp [step?, advance?, phase, drain?, streamOpen]
    | lateHangUp phase => simp [step?, advance?, phase, drain?]
    | resume phase due => simp [step?, advance?, phase, due]
    | abandon phase killed => simp [step?, advance?, phase, killed]
    | report phase stopped => simp [step?, advance?, phase, stopped]
    | farewell phase => simp [step?, advance?, phase]

end

/-! ## What the functions of a runner leave alone -/

def Effect.isQuiet : Effect → Bool
  | .result _ | .left | .released | .woke => false
  | _ => true

def Effect.ofFiring (fired : Nat × Hook × Firing) : Effect := .fired fired.1 fired.2.1 fired.2.2

theorem reveal_fst (r : Runner) (s : Sight) :
    (r.reveal s).1 = { r with hooks := (Hook.observeAll r.hooks s).1 } := rfl

theorem reveal_snd (r : Runner) (s : Sight) :
    (r.reveal s).2 = (Hook.observeAll r.hooks s).2.map Effect.ofFiring := rfl

theorem ofFiring_quiet (fired : List (Nat × Hook × Firing)) :
    ∀ e ∈ fired.map Effect.ofFiring, e.isQuiet = true := by
  intro e member
  obtain ⟨_, _, rfl⟩ := List.mem_map.1 member
  rfl

theorem reveal_quiet (r : Runner) (s : Sight) : ∀ e ∈ (r.reveal s).2, e.isQuiet = true :=
  ofFiring_quiet _

theorem flushed_quiet (snapshot : Option Stats.Snapshot) :
    ∀ e ∈ snapshot.toList.map Effect.flushed, e.isQuiet = true := by
  intro e member
  obtain ⟨_, _, rfl⟩ := List.mem_map.1 member
  rfl

theorem foldl_reveal {f : Runner × List Effect → Int → Runner × List Effect} (pids : List Int)
    (x : Runner × List Effect)
    (shows : ∀ x pid, f x pid = ((x.1.reveal (.pid pid)).1, x.2 ++ (x.1.reveal (.pid pid)).2)) :
    pids.foldl f x =
      ({ x.1 with hooks := (Hook.observeEach x.1.hooks (pids.map .pid)).1 },
        x.2 ++ (Hook.observeEach x.1.hooks (pids.map .pid)).2.map Effect.ofFiring) := by
  induction pids generalizing x with
  | nil => simp [Hook.observeEach]
  | cons pid rest ih =>
      rw [List.foldl_cons, ih, shows]
      simp [reveal_fst, reveal_snd, Hook.observeEach]

/-- What may come of the spawning of a process. -/
inductive Launched (config : Manager.Config) (clock : Clock) (r : Runner) (l : Launch) :
    Runner → Prop where
  | followed (spawned : l.failure = none) (timely : Attempt.isTimely config clock.now = true) :
      Launched config clock r l
        { r with phase := .listening (.start config r.command clock.now clock.epoch) }
  | crashed (spawned : l.failure = none) (late : Attempt.isTimely config clock.now = false) :
      Launched config clock r l { r with collector := r.collector.post .stop, phase := .crashed }
  | failed {error : String} (failure : l.failure = some error) :
      Launched config clock r l (r.stop (Attempt.failedResult r.command clock.epoch error))

theorem launched_follow (config : Manager.Config) (clock : Clock) (r : Runner) {l : Launch}
    (spawned : l.failure = none) : Launched config clock r l (r.follow config clock) := by
  unfold follow
  split
  · exact .followed spawned ‹_›
  · exact .crashed spawned (eq_false_of_ne_true ‹_›)

theorem launch_cases (config : Manager.Config) (clock : Clock) (r : Runner) (l : Launch) :
    ∃ hooks q seen, r.launch config clock l = (q, seen) ∧ (∀ e ∈ seen, e.isQuiet = true) ∧
      Launched config clock { r with attempts := r.attempts + 1, hooks } l q := by
  simp only [launch]
  rw [foldl_reveal l.pids _ fun _ _ => rfl]
  have quiet := ofFiring_quiet (Hook.observeEach r.hooks (l.pids.map .pid)).2
  generalize (Hook.observeEach r.hooks (l.pids.map .pid)).2.map Effect.ofFiring = seen at quiet
  generalize (Hook.observeEach r.hooks (l.pids.map .pid)).1 = hooks
  cases failure : l.failure with
  | none =>
      exact ⟨hooks, _, _, rfl, by simpa [Effect.isQuiet] using quiet,
        launched_follow config clock _ failure⟩
  | some error =>
      refine ⟨_, _, _, rfl, ?_, .failed failure⟩
      intro e member
      rcases List.mem_append.1 member with member | member
      · rcases List.mem_cons.1 member with rfl | member
        · rfl
        · exact quiet e member
      · exact reveal_quiet _ _ e member

theorem receive_fst (clock : Clock) (r : Runner) (a : Attempt) (m : Message) :
    ∃ hooks collector phase, (r.receive clock a m).1 = { r with hooks, collector, phase } ∧
      ((∃ b, phase = .listening b) ∨ ∃ b, phase = .draining b) := by
  refine ⟨_, _, _, rfl, ?_⟩
  split
  · exact .inr ⟨_, rfl⟩
  · exact .inl ⟨_, rfl⟩

theorem receive_quiet (clock : Clock) (r : Runner) (a : Attempt) (m : Message) :
    ∀ e ∈ (r.receive clock a m).2, e.isQuiet = true := by
  intro e member
  rcases List.mem_append.1 member with member | member
  · exact reveal_quiet _ _ e member
  · split at member
    · rw [List.mem_singleton.1 member]
      rfl
    · cases member

theorem conclude_fst (config : Manager.Config) (clock : Clock) (r : Runner) (a : Attempt) :
    ∃ hooks, (r.conclude config clock a).1 =
      if (a.conclude clock.now).state = .killed then { r with hooks }.stop (a.conclude clock.now)
      else
        match (Policy.of config r.command).next r.failures (a.conclude clock.now).state
          (clock.now - a.began) with
        | (failures, some d) =>
            { r with
              hooks
              failures
              phase := .pausing (a.conclude clock.now) (Clock.wakeAt clock.now d) }
        | (failures, none) => { r with hooks, failures }.stop (a.conclude clock.now) := by
  refine ⟨(Hook.observeAll r.hooks (.exit (a.conclude clock.now).state)).1, ?_⟩
  unfold conclude
  simp only [reveal]
  split
  · rfl
  · rcases (Policy.of config r.command).next r.failures (a.conclude clock.now).state
      (clock.now - a.began) with ⟨failures, _ | d⟩ <;> rfl

theorem conclude_quiet (config : Manager.Config) (clock : Clock) (r : Runner) (a : Attempt) :
    ∀ e ∈ (r.conclude config clock a).2, e.isQuiet = true := by
  intro e member
  apply reveal_quiet r (.exit (a.conclude clock.now).state)
  unfold conclude at member
  simp only at member
  split at member
  · exact member
  · split at member <;> exact member

/-! ## What every rule leaves alone -/

section
variable {config : Manager.Config} {clock : Clock} {r next : Runner} {act : Action}
  {effects : List Effect}

theorem Rule.identity (rule : Rule config clock r act next effects) :
    next.command = r.command ∧ next.origin = r.origin ∧
      (act ≠ .kill → next.killed = r.killed) := by
  cases rule with
  | kill => exact ⟨rfl, rfl, fun calm => absurd rfl calm⟩
  | @launch l phase =>
      obtain ⟨hooks, q, seen, launch, -, launched⟩ := launch_cases config clock r l
      rw [launch]
      cases launched <;> exact ⟨rfl, rfl, fun _ => rfl⟩
  | @receive a m rest phase stream =>
      obtain ⟨_, _, _, received, -⟩ := receive_fst clock r { a with stream := rest } m
      rw [received]
      exact ⟨rfl, rfl, fun _ => rfl⟩
  | @conclude a phase stream closed =>
      obtain ⟨hooks, concluded⟩ := conclude_fst config clock r a
      rw [concluded]
      split
      · exact ⟨rfl, rfl, fun _ => rfl⟩
      · split <;> exact ⟨rfl, rfl, fun _ => rfl⟩
  | @farewell result k phase => cases k <;> exact ⟨rfl, rfl, fun _ => rfl⟩
  | _ => exact ⟨rfl, rfl, fun _ => rfl⟩

theorem Rule.command_eq (rule : Rule config clock r act next effects) :
    next.command = r.command := rule.identity.1

theorem Rule.origin_eq (rule : Rule config clock r act next effects) :
    next.origin = r.origin := rule.identity.2.1

theorem Rule.killed_eq (rule : Rule config clock r act next effects) (calm : act ≠ .kill) :
    next.killed = r.killed := rule.identity.2.2 calm

theorem Rule.effects_quiet (rule : Rule config clock r act next effects)
    (staying : act ≠ .farewell) :
    (∀ e ∈ effects, e.isQuiet = true) ∨
      ∃ result, r.phase = .stopping result ∧ next = { r with phase := .closing result .leave } ∧
        effects = [.result result] := by
  cases rule with
  | @launch l phase =>
      obtain ⟨hooks, q, seen, launch, quiet, -⟩ := launch_cases config clock r l
      rw [launch]
      exact .inl quiet
  | collect | flush => exact .inl (flushed_quiet _)
  | tick => exact .inl (reveal_quiet _ _)
  | receive => exact .inl (receive_quiet _ _ _ _)
  | conclude => exact .inl (conclude_quiet _ _ _ _)
  | report phase stopped => exact .inr ⟨_, phase, rfl, rfl⟩
  | farewell => exact absurd rfl staying
  | obey | expire => exact .inl (by simp [Effect.isQuiet])
  | _ => exact .inl (by simp)

def Phase.epilogue? : Phase → Option (JobResult × Option Farewell)
  | .closing result next => some (result, some next)
  | .ended result => some (result, none)
  | _ => none

theorem Rule.epilogue?_eq (rule : Rule config clock r act next effects) (silent : act ≠ .report)
    (staying : act ≠ .farewell) : next.phase.epilogue? = r.phase.epilogue? := by
  cases rule with
  | @launch l phase =>
      obtain ⟨hooks, q, seen, launch, -, launched⟩ := launch_cases config clock r l
      rw [launch, phase]
      cases launched <;> rfl
  | @tick a phase due => rw [phase]; rfl
  | @receive a m rest phase stream =>
      obtain ⟨_, _, _, received, following⟩ := receive_fst clock r { a with stream := rest } m
      rw [received, phase]
      rcases following with ⟨b, rfl⟩ | ⟨b, rfl⟩ <;> rfl
  | @conclude a phase stream closed =>
      obtain ⟨hooks, concluded⟩ := conclude_fst config clock r a
      rw [concluded, phase]
      split
      · rfl
      · split <;> rfl
  | report => exact absurd rfl silent
  | farewell => exact absurd rfl staying
  | kill | collect | flush => rfl
  | obey phase | expire phase | sample phase | endOfStream phase | emit phase | hangUp phase
  | discard phase | lateEmit phase | lateHangUp phase | resume phase | abandon phase =>
      rw [phase]; rfl

theorem Rule.no_result (rule : Rule config clock r act next effects) (silent : act ≠ .report) :
    ∀ e ∈ effects, ∀ result, e ≠ .result result := by
  by_cases last : act = .farewell
  · rw [last] at rule
    cases rule with
    | @farewell result k phase => cases k <;> simp [Runner.farewell]
  · rcases rule.effects_quiet last with quiet | ⟨result, phase, rfl, rfl⟩
    · intro e member result told
      exact absurd (quiet e member) (by simp [told, Effect.isQuiet])
    · have same := rule.epilogue?_eq silent last
      simp [phase, Phase.epilogue?] at same

def reported? (r : Runner) : Option JobResult := r.phase.epilogue?.map Prod.fst

theorem phase_of_published {result : JobResult} (published : r.published? = some result) :
    r.phase = .ended result := by
  unfold published? at published
  split at published
  · rename_i phase
    rw [phase, Option.some.inj published]
  · cases published

theorem reported?_of_published {result : JobResult} (published : r.published? = some result) :
    r.reported? = some result := by
  rw [reported?, phase_of_published published]
  rfl

theorem Rule.reported?_eq (rule : Rule config clock r act next effects) (silent : act ≠ .report) :
    next.reported? = r.reported? := by
  by_cases last : act = .farewell
  · rw [last] at rule
    cases rule with
    | @farewell result k phase =>
        rw [reported?, reported?, phase]
        cases k <;> rfl
  · rw [reported?, reported?, rule.epilogue?_eq silent last]

def Phase.hasLeft : Phase → Bool
  | .closing _ .leave => false
  | .closing _ _ | .ended _ => true
  | _ => false

def Phase.hasNotified : Phase → Bool
  | .closing _ .wake | .closing _ .publish | .ended _ => true
  | _ => false

theorem Phase.hasLeft_eq (p : Phase) :
    p.hasLeft = p.epilogue?.any fun last => last.2 != some .leave := by
  cases p with
  | closing result k => cases k <;> rfl
  | _ => rfl

theorem Phase.hasNotified_eq (p : Phase) :
    p.hasNotified =
      p.epilogue?.any fun last => last.2 != some .leave && last.2 != some .release := by
  cases p with
  | closing result k => cases k <;> rfl
  | _ => rfl

def Phase.isLeaving : Phase → Bool
  | .closing _ .release | .closing _ .wake => true
  | _ => false

theorem Phase.isLeaving_eq (p : Phase) :
    p.isLeaving = p.epilogue?.any fun last => last.2 == some .release || last.2 == some .wake := by
  cases p with
  | closing result k => cases k <;> rfl
  | _ => rfl

theorem Rule.standing_eq (rule : Rule config clock r act next effects) (staying : act ≠ .farewell) :
    next.phase.hasLeft = r.phase.hasLeft ∧ next.phase.hasNotified = r.phase.hasNotified := by
  by_cases silent : act = .report
  · rw [silent] at rule
    cases rule with
    | report phase => rw [phase]; exact ⟨rfl, rfl⟩
  · simp only [Phase.hasLeft_eq, Phase.hasNotified_eq, rule.epilogue?_eq silent staying, and_self]

theorem Rule.isLeaving_eq (rule : Rule config clock r act next effects)
    (staying : act ≠ .farewell) : next.phase.isLeaving = r.phase.isLeaving := by
  by_cases silent : act = .report
  · rw [silent] at rule
    cases rule with
    | report phase => rw [phase]; rfl
  · rw [Phase.isLeaving_eq, Phase.isLeaving_eq, rule.epilogue?_eq silent staying]

end

end Runner

end Overseer
