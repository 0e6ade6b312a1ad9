import Overseer.Proofs.Runner.Rule

/-!
# What a job starts after it was asked to end

A pause between two attempts ends when its time is over or when the job is asked to end, and when
both have come a runner may take either. So a job that was asked to end may still start a process.
The steps that a runner has taken are kept here beside its state, which makes it possible to say how
many processes it starts after the request, and at which of its steps that is decided.
-/

namespace Overseer.Runner

structure Taken where
  clock : Clock
  before : Runner
  act : Action

/-- A runner with the steps that brought it here, the latest first. -/
inductive History (config : Manager.Config) : List Taken → Runner → Prop where
  | new (now : Nat) (command : Command) (factory : Nat) (hooks : List Hook) (origin : Origin) :
      History config [] (.new config now command factory hooks origin)
  | next {past : List Taken} {r next : Runner} {clock : Clock} {act : Action}
      {effects : List Effect} (history : History config past r)
      (step : r.step? config clock act = some (next, effects)) :
      History config (⟨clock, r, act⟩ :: past) next

def Taken.launches (t : Taken) : Bool :=
  match t.act with
  | .launch _ => true
  | _ => false

/-- Whether the runner began the next attempt although it could have given it up. -/
def Taken.overrules (config : Manager.Config) (t : Taken) : Bool :=
  match t.act with
  | .resume => (t.before.step? config t.clock .abandon).isSome
  | _ => false

def due (r : Runner) : Nat :=
  match r.phase with
  | .starting => 1
  | _ => 0

section
variable {config : Manager.Config} {clock : Clock} {r next : Runner} {act : Action}
  {effects : List Effect} {past later : List Taken} {t : Taken}

theorem Rule.killed_stays (rule : Rule config clock r act next effects) (killed : r.killed = true) :
    next.killed = true := by
  by_cases again : act = .kill
  · rw [again] at rule
    cases rule
    rfl
  · rw [rule.killed_eq again, killed]

/-- A runner comes to start a process only by a pause that is over. After the request to end, this
overrules the request. -/
theorem Rule.launch_balance (rule : Rule config clock r act next effects)
    (killed : r.killed = true) :
    (Taken.mk clock r act).launches.toNat + next.due =
      ((Taken.mk clock r act).overrules config).toNat + r.due := by
  have still {p : Phase} (phase : r.phase = p) : r.due = Runner.due { r with phase := p } := by
    rw [due, due, phase]
  cases rule with
  | kill | collect | flush => simp [Taken.launches, Taken.overrules, due]
  | @launch l phase =>
      obtain ⟨hooks, q, seen, launch, -, launched⟩ := launch_cases config clock r l
      rw [launch, still phase]
      cases launched <;> rfl
  | @tick a phase due => rw [still phase]; rfl
  | @receive a m rest phase stream =>
      obtain ⟨_, _, _, received, following⟩ := receive_fst clock r { a with stream := rest } m
      rw [received, still phase]
      rcases following with ⟨b, rfl⟩ | ⟨b, rfl⟩ <;> rfl
  | @conclude a phase stream closed =>
      obtain ⟨hooks, concluded⟩ := conclude_fst config clock r a
      rw [concluded, still phase]
      split
      · rfl
      · split <;> rfl
  | @farewell result k phase =>
      rw [still phase]
      cases k <;> rfl
  | @resume result wakeAt phase due =>
      have possible : r.step? config clock .abandon = some _ :=
        step?_eq_some_iff.2 (.abandon phase killed)
      rw [still phase]
      simp [Taken.launches, Taken.overrules, possible, Runner.due]
  | obey phase | expire phase | sample phase | endOfStream phase | emit phase | hangUp phase
  | discard phase | lateEmit phase | lateHangUp phase | abandon phase | report phase =>
      rw [still phase]; rfl

theorem History.last_step (history : History config (t :: past) r) :
    History config past t.before ∧
      ∃ effects, Rule config t.clock t.before t.act r effects := by
  cases history with
  | next history step => exact ⟨history, _, step?_eq_some_iff.1 step⟩

theorem History.killed (history : History config (later ++ t :: past) r) (asked : t.act = .kill) :
    r.killed = true := by
  induction later generalizing r with
  | nil =>
      obtain ⟨-, effects, rule⟩ := history.last_step
      rw [asked] at rule
      cases rule
      rfl
  | cons u later ih =>
      obtain ⟨history, effects, rule⟩ := history.last_step
      exact rule.killed_stays (ih history)

/-- After a job was asked to end, it starts as many processes as it was about to start when it was
asked, and one more each time that a pause is over and it begins the next attempt although it could
have given it up. -/
theorem launches_after_kill (history : History config (later ++ t :: past) r)
    (asked : t.act = .kill) :
    later.countP Taken.launches + r.due =
      later.countP (Taken.overrules config) + t.before.due := by
  induction later generalizing r with
  | nil =>
      obtain ⟨-, effects, rule⟩ := history.last_step
      rw [asked] at rule
      cases rule
      rfl
  | cons u later ih =>
      obtain ⟨history, effects, rule⟩ := history.last_step
      have before := ih history
      have step := rule.launch_balance (history.killed asked)
      rw [List.countP_cons, List.countP_cons]
      cases launches : u.launches <;> cases overrules : u.overrules config <;>
        simp [launches, overrules] at step ⊢ <;> omega

end

def replay? (config : Manager.Config) :
    List Taken → Runner → List (Clock × Action) → Option (List Taken × Runner)
  | past, r, [] => some (past, r)
  | past, r, (clock, act) :: rest =>
      (r.step? config clock act).bind fun (next, _) =>
        replay? config (⟨clock, r, act⟩ :: past) next rest

theorem History.of_replay {config : Manager.Config} {past whole : List Taken} {r last : Runner}
    {acts : List (Clock × Action)} (history : History config past r)
    (played : replay? config past r acts = some (whole, last)) : History config whole last := by
  induction acts generalizing past r with
  | nil =>
      cases played
      exact history
  | cons head rest ih =>
      obtain ⟨⟨next, effects⟩, step, played⟩ := Option.bind_eq_some_iff.1 played
      exact ih (history.next step) played

def impatient : Manager.Config := { Manager.Config.default with restartDelay := 0 }

def restless : Runner :=
  .new impatient 0 { Command.new "job" "test" with maxRestart := 2 } 0 [] .direct

def stubborn : List (Clock × Action) :=
  [(⟨0, 0⟩, .launch ⟨[], none⟩), (⟨50, 50⟩, .emit (.exit .error)), (⟨50, 50⟩, .receive),
    (⟨50, 50⟩, .kill), (⟨100, 100⟩, .hangUp), (⟨100, 100⟩, .conclude), (⟨100, 100⟩, .resume),
    (⟨100, 100⟩, .launch ⟨[], none⟩)]

def relaunched : List Taken × Runner := (replay? impatient [] restless stubborn).get (by decide)

theorem history_relaunched :
    History impatient (relaunched.1.take 4 ++ relaunched.1[4] :: relaunched.1.drop 5)
      relaunched.2 := by
  have played : replay? impatient [] restless stubborn = some relaunched :=
    (Option.some_get _).symm
  rw [← List.drop_eq_getElem_cons, List.take_append_drop]
  exact History.of_replay (.new 0 _ 0 [] .direct) played

theorem launches_after_kill_stubborn :
    ∃ later t past r, History impatient (later ++ t :: past) r ∧ t.act = .kill ∧
      later.countP Taken.launches = 1 ∧ later.countP (Taken.overrules impatient) = 1 := by
  refine ⟨_, _, _, _, history_relaunched, rfl, by decide, ?_⟩
  have balance := launches_after_kill history_relaunched rfl
  have launched : (relaunched.1.take 4).countP Taken.launches = 1 := by decide
  have running : relaunched.2.due = 0 := rfl
  have settled : relaunched.1[4].before.due = 0 := rfl
  omega

/-- A job that was asked to end while it waited for the end of a stream starts another process. -/
theorem killed_job_launches_again :
    ¬ ∀ (config : Manager.Config) (later past : List Taken) (t : Taken) (r : Runner),
      History config (later ++ t :: past) r → t.act = .kill → 0 < t.before.attempts →
        t.before.due = 0 → later.countP Taken.launches = 0 := by
  intro never
  have silent := never impatient _ _ _ _ history_relaunched rfl (by decide) rfl
  exact absurd silent (by decide)

end Overseer.Runner
