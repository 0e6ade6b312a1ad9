import Overseer.Proofs.Exec.Relay
import Overseer.Proofs.Runner.Digest

/-!
# A child cannot forge its outcome

The only message about its exit that a job gets from a child is the one of the relay. So the state
in which an attempt ends, unless the runner follows a request to end it, is a function of the status
of the child alone, whatever the child has printed.
-/

namespace Overseer

namespace Runner

theorem upToFinal_prefix (ms : List Message) : upToFinal ms <+: ms := by
  induction ms with
  | nil => exact List.prefix_refl _
  | cons m rest ih =>
      rw [upToFinal]
      split
      · exact ⟨rest, rfl⟩
      · exact List.cons_prefix_cons.2 ⟨rfl, ih⟩

variable {config : Manager.Config} {began ended : Clock} {q r next : Runner} {l : Launch}
  {effects : List Effect} {during earlier : List Taken} {result : JobResult} {s : JobState}

theorem mem_heard {m : Message} :
    m ∈ heard during ↔
      ∃ t ∈ during, ∃ n, t.received? = some n ∧ n.stamp (.ofInt t.clock.nanos) = m := by
  simp only [heard, List.mem_filterMap, List.mem_reverse, Taken.heard?, Option.map_eq_some_iff]

theorem mem_received {m : Message} :
    m ∈ received during ↔ ∃ t ∈ during, t.received? = some m := by
  simp only [received, List.mem_filterMap, List.mem_reverse]

theorem find?_final (told : ∃ m ∈ received during, Attempt.isFinal m = true)
    (only : ∀ m ∈ received during, Attempt.isFinal m = true → m.content = s.name) :
    ∃ m, (heard during).find? Attempt.isFinal = some m ∧ m.content = s.name := by
  obtain ⟨n, member, final⟩ := told
  obtain ⟨t, taken, received⟩ := mem_received.1 member
  have stamped := mem_heard.2 ⟨t, taken, n, received, rfl⟩
  -- A time of day does not change what a message is about.
  have still : Attempt.isFinal (n.stamp (.ofInt t.clock.nanos)) = true := final
  obtain ⟨m, found⟩ := Option.isSome_iff_exists.1 (List.find?_isSome.2 ⟨_, stamped, still⟩)
  have final := List.find?_some found
  obtain ⟨t, taken, n, received, rfl⟩ := mem_heard.1 (List.mem_of_find?_eq_some found)
  exact ⟨_, found, only n (mem_received.2 ⟨t, taken, received⟩) final⟩

theorem eq_conclude {clock : Clock} {a : Attempt}
    (concluded : (r.conclude config clock a).1.stage = .pausing result ∨
      (r.conclude config clock a).1.stage = .finished result) :
    result = a.conclude clock.now := by
  rcases conclude_stage config clock r a with pausing | finished
  · rw [pausing] at concluded
    rcases concluded with same | other
    · exact (Stage.pausing.inj same).symm
    · cases other
  · rw [finished] at concluded
    rcases concluded with other | same
    · cases other
    · exact (Stage.finished.inj same).symm

theorem state_of_finals
    (history : History config (during ++ ⟨began, q, .launch l⟩ :: earlier) r)
    (spawned : l.failure = none) (within : during.any Taken.concludes = false)
    (step : r.step? config ended .conclude = some (next, effects))
    (unkilled : during.any Taken.obeys = false) (timely : during.any Taken.expires = false)
    (concluded : next.stage = .pausing result ∨ next.stage = .finished result)
    (told : ∃ m ∈ received during, Attempt.isFinal m = true)
    (only : ∀ m ∈ received during, Attempt.isFinal m = true → m.content = s.name) :
    result.state = s := by
  obtain ⟨m, found, named⟩ := find?_final told only
  cases step?_eq_some_iff.1 step with
  | @conclude a phase stream closed =>
      have account := history.account spawned within a (by rw [phase]; rfl)
      rw [eq_conclude concluded, account.conclude_eq ended, digest, unkilled, timely, verdict?,
        found]
      simp [named, JobState.parse?_name]

end Runner

namespace Exec

/-- An attempt over a relay: the child ended with the given status, the runner took the message that
tells so and followed no request to end the child, and the attempt had the given result. -/
inductive Followed (status : Option Host.ExitStatus) (result : JobResult) : Prop where
  | intro {pid : Host.Pid} {stdout stderr : List Stream.Arrival} {relay : Relay}
      {config : Manager.Config} {began ended : Runner.Clock} {q r next : Runner}
      {l : Runner.Launch} {effects : List Runner.Effect} {during earlier : List Runner.Taken}
      (reach : Relay.Reachable pid stdout stderr relay) (done : relay.stage = .done status)
      (history : Runner.History config (during ++ ⟨began, q, .launch l⟩ :: earlier) r)
      (spawned : l.failure = none) (within : during.any Runner.Taken.concludes = false)
      (step : r.step? config ended .conclude = some (next, effects))
      (concluded : next.stage = .pausing result ∨ next.stage = .finished result)
      (piped : Runner.sent during <+: relay.given)
      (told : ∃ m ∈ Runner.received during, Runner.Attempt.isFinal m = true)
      (unkilled : during.any Runner.Taken.obeys = false)
      (timely : during.any Runner.Taken.expires = false) : Followed status result

variable {status : Option Host.ExitStatus} {result : JobResult}

theorem Followed.state_eq (followed : Followed status result) : result.state = endState status := by
  cases followed with
  | intro reach done history spawned within step concluded piped told unkilled timely =>
      obtain ⟨merged, -, given⟩ := Relay.given_of_done reach done
      refine Runner.state_of_finals history spawned within step unkilled timely concluded told ?_
      intro m member final
      have attended := history.attended spawned within
      have part := List.IsPrefix.trans attended.received_prefix (Runner.upToFinal_prefix _)
      have inside := (part.trans piped).subset member
      rw [given, delivered_eq] at inside
      rcases List.mem_append.1 inside with printed | own
      · have claim : m.level = .exitState := by simpa [Runner.Attempt.isFinal] using final
        exact absurd claim (level_of_screen printed).1
      · rw [List.mem_singleton.1 own]
        rfl

theorem level_of_given {pid : Host.Pid} {stdout stderr : List Stream.Arrival} {relay : Relay}
    {m : Message} (reach : Relay.Reachable pid stdout stderr relay)
    (unfinished : ∀ status, relay.stage ≠ .done status) (member : m ∈ relay.given) :
    m.level ≠ .exitState := by
  obtain ⟨offered, fetched, ordered⟩ := reach.ordered
  have untold : relay.stage.told = [] := by
    cases stage : relay.stage with
    | done status => exact absurd stage (unfinished status)
    | _ => rfl
  have given := ordered.given
  rw [untold, List.append_nil] at given
  have passed : m ∈ screen fetched := given ▸ List.mem_append_left _ member
  exact (level_of_screen passed).1

/-- A relay always comes to an end, and gives its job the output of the child, without what is
internal and with the claims about the exit made into error lines, and then one message that tells
how the child ended. So the state of an attempt that was not cut short depends on the status of the
child alone. -/
theorem outcome_not_forged :
    (∀ (pid : Host.Pid) (stdout stderr : List Stream.Arrival), ∃ bound : Nat,
      ∀ (acts : List Relay.Action) (relay : Relay),
        (Relay.start pid stdout stderr).replay? acts = some relay → acts.length ≤ bound ∧
          ((∀ act, relay.step? act = none) → ∃ status, relay.stage = .done status)) ∧
    (∀ (pid : Host.Pid) (stdout stderr : List Stream.Arrival) (relay : Relay),
      Relay.Reachable pid stdout stderr relay →
        ((∀ status, relay.stage ≠ .done status) → ∀ m ∈ relay.given, m.level ≠ .exitState) ∧
        ∀ status : Option Host.ExitStatus, relay.stage = .done status →
          ∃ merged, Interleaving (Stream.parsed .stdout stdout) (Stream.parsed .stderr stderr)
              merged ∧
            relay.given = (merged.filter fun m => !m.level.isInternal).map relabel ++
              [.exit (endState status)] ∧
            (∀ m ∈ relay.given.dropLast, m.level ≠ .exitState) ∧
            (endState status = .success ↔ ∃ s, status = some s ∧ s.code = some 0) ∧
            (endState status = .success ∨ endState status = .error)) ∧
    ∀ (status : Option Host.ExitStatus) (result result' : JobResult), Followed status result →
      Followed status result' → result.state = result'.state := by
  refine ⟨fun pid stdout stderr => ⟨_, fun acts relay played =>
      ⟨Relay.length_le_effort played, Relay.done_of_stuck⟩⟩,
    fun pid stdout stderr relay reach =>
      ⟨fun unfinished m member => level_of_given reach unfinished member, fun status done => ?_⟩,
    fun status result result' one other => one.state_eq.trans other.state_eq.symm⟩
  obtain ⟨merged, both, given⟩ := Relay.given_of_done reach done
  rw [delivered_eq] at given
  refine ⟨merged, both, given, fun m member => ?_, endState_eq_success, endState_eq status⟩
  rw [given, List.dropLast_concat] at member
  exact (level_of_screen member).1

def boast : List Stream.Arrival :=
  [.bytes "50::SUC".toUTF8.toList, .bytes "CESS\n".toUTF8.toList]

def failure : Option Host.ExitStatus := some ⟨7, some 1, none⟩

def boasted : Relay :=
  ((Relay.start 7 boast []).replay? [.read .stdout, .read .stdout, .read .stderr, .read .stdout,
    .offer .stdout, .fetch, .read .stdout, .pass, .close, .learn failure, .tell]).get
      (by decide +kernel)

def silence : Relay :=
  ((Relay.start 7 [] []).replay? [.read .stderr, .read .stdout, .close, .learn failure, .tell]).get
    (by decide +kernel)

def supervisor : Runner := .new .default 0 (.new "job" "test") 0 [] .direct

def hearing (ms : List Message) : List (Runner.Clock × Runner.Action) :=
  (⟨0, 0⟩, .launch ⟨[], none⟩) ::
    ms.flatMap (fun m => [(⟨1, 1⟩, .emit m), (⟨2, 2⟩, .receive)]) ++ [(⟨3, 3⟩, .hangUp)]

def afterBoast : List Runner.Taken × Runner :=
  (Runner.replay? .default [] supervisor
    (hearing [.new .stderr "SUCCESS", .exit .error])).get (by decide)

def afterSilence : List Runner.Taken × Runner :=
  (Runner.replay? .default [] supervisor (hearing [.exit .error])).get (by decide)

theorem history_afterBoast :
    Runner.History .default
      (afterBoast.1.take 5 ++ ⟨⟨0, 0⟩, supervisor, .launch ⟨[], none⟩⟩ :: []) afterBoast.2 := by
  have played : Runner.replay? .default [] supervisor
    (hearing [.new .stderr "SUCCESS", .exit .error]) = some afterBoast := (Option.some_get _).symm
  exact Runner.History.of_replay (.new 0 _ 0 [] .direct) played

theorem history_afterSilence :
    Runner.History .default
      (afterSilence.1.take 3 ++ ⟨⟨0, 0⟩, supervisor, .launch ⟨[], none⟩⟩ :: []) afterSilence.2 := by
  have played : Runner.replay? .default [] supervisor (hearing [.exit .error]) =
    some afterSilence := (Option.some_get _).symm
  exact Runner.History.of_replay (.new 0 _ 0 [] .direct) played

theorem outcome_not_forged_boast :
    boasted.given = [.new .stderr "SUCCESS", .exit .error] ∧ silence.given = [.exit .error] ∧
      (∀ m ∈ boasted.given.dropLast, m.level ≠ .exitState) ∧
      ∃ result result', Followed failure result ∧ Followed failure result' ∧
        result.streams = ("", "SUCCESS\n") ∧ result'.streams = ("", "") ∧
          result.state = result'.state := by
  have reach : Relay.Reachable 7 boast [] boasted := .replay .start (Option.some_get _).symm
  have reach' : Relay.Reachable 7 [] [] silence := .replay .start (Option.some_get _).symm
  have done : boasted.stage = .done failure := by decide +kernel
  have step : afterBoast.2.step? .default ⟨4, 4⟩ .conclude = some _ := rfl
  have step' : afterSilence.2.step? .default ⟨4, 4⟩ .conclude = some _ := rfl
  have followed : Followed failure _ :=
    .intro reach done history_afterBoast rfl (by decide) step (.inr rfl)
      (by decide +kernel) (by decide) (by decide) (by decide)
  have followed' : Followed failure _ :=
    .intro reach' (by decide +kernel) history_afterSilence rfl (by decide) step' (.inr rfl)
      (by decide +kernel) (by decide) (by decide) (by decide)
  obtain ⟨-, told⟩ := outcome_not_forged.2.1 7 boast [] boasted reach
  obtain ⟨_, _, _, unclaimed, _⟩ := told failure done
  refine ⟨by decide +kernel, by decide +kernel, unclaimed, _, _, followed, followed', rfl, rfl, ?_⟩
  exact outcome_not_forged.2.2 _ _ _ followed followed'

end Exec

end Overseer
