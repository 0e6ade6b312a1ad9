import Overseer.Exec.Relay
import Overseer.Proofs.Stream.Reader

/-!
# What a relay gives to its job

The job gets the messages of both streams, each stream in its own order, without those that are
internal and with the claims about an exit made into error lines. After them comes one message of
the relay itself, which tells how the child ended. Every run of a relay comes to this message, as
each step makes what is left to do smaller and only a relay that is done cannot go on.
-/

namespace Overseer.Exec

namespace Interleaving

variable {α : Type} {as bs cs : List α} {a b : α}

theorem left_concat (both : Interleaving as bs cs) (a : α) :
    Interleaving (as ++ [a]) bs (cs ++ [a]) := by
  induction both with
  | nil => exact .left .nil
  | left _ ih => exact .left ih
  | right _ ih => exact .right ih

theorem right_concat (both : Interleaving as bs cs) (b : α) :
    Interleaving as (bs ++ [b]) (cs ++ [b]) := by
  induction both with
  | nil => exact .right .nil
  | left _ ih => exact .left ih
  | right _ ih => exact .right ih

end Interleaving

/-! ## Screening -/

/-- A claim of the child about its exit is an error line. -/
def relabel (m : Message) : Message :=
  if m.level = .exitState then { m with level := .stderr } else m

def screen (ms : List Message) : List Message :=
  (ms.filter fun m => !m.level.isInternal).map relabel

variable {ms : List Message} {m : Message}

theorem intercept_snd (meter : Meter) (m : Message) :
    (intercept meter m).2 = if m.level.isInternal then none else some (relabel m) := by
  unfold intercept relabel
  by_cases claim : m.level = .exitState
  · have external : m.level.isInternal = false := by
      rw [claim]
      decide
    rw [if_pos claim, if_pos claim, external]
    rfl
  · rw [if_neg claim, if_neg claim]
    cases m.level.isInternal with
    | false => rfl
    | true =>
        simp only [Bool.not_true, Bool.false_eq_true, if_false, if_true]
        repeat' split
        all_goals rfl

theorem screen_append (ms more : List Message) : screen (ms ++ more) = screen ms ++ screen more := by
  simp [screen]

theorem screen_singleton (meter : Meter) (m : Message) :
    screen [m] = (intercept meter m).2.toList := by
  rw [intercept_snd]
  cases internal : m.level.isInternal <;> simp [screen, internal]

theorem delivered_eq (meter : Meter) (ms : List Message) (status : Option Host.ExitStatus) :
    delivered meter ms status = screen ms ++ [.exit (endState status)] := by
  rw [delivered]
  congr 1
  induction ms generalizing meter with
  | nil => rfl
  | cons m rest ih =>
      have more : (interceptAll meter (m :: rest)).2 =
          (intercept meter m).2.toList ++ (interceptAll (intercept meter m).1 rest).2 := rfl
      rw [more, ih, ← screen_singleton, ← screen_append, List.singleton_append]

theorem level_of_screen (member : m ∈ screen ms) :
    m.level ≠ .exitState ∧ m.level.isInternal = false := by
  obtain ⟨m, passed, rfl⟩ := List.mem_map.1 member
  have external : m.level.isInternal = false := by simpa using (List.mem_filter.1 passed).2
  unfold relabel
  split
  · exact ⟨by simp; decide, rfl⟩
  · exact ⟨‹_›, external⟩

theorem endState_eq_success {status : Option Host.ExitStatus} :
    endState status = .success ↔ ∃ s, status = some s ∧ s.code = some 0 := by
  cases status with
  | none => simp [endState]
  | some s => simp [endState, Host.ExitStatus.isSuccess]

theorem endState_eq (status : Option Host.ExitStatus) :
    endState status = .success ∨ endState status = .error := by
  cases status with
  | none => exact .inr rfl
  | some s =>
      unfold endState
      split
      · split
        · exact .inl rfl
        · exact .inr rfl
      · exact .inr rfl

/-! ## A run of the relay -/

namespace Relay

inductive Move (r : Relay) : Action → Relay → Prop where
  | read {source : Source} {reader : Stream.Reader}
      (reads : (r.reader source).read? = some reader) :
      Move r (.read source) (r.setReader source reader)
  | offer {source : Source} {m : Message} (offers : (r.reader source).outgoing = some m)
      (room : r.raw.length < capacity) :
      Move r (.offer source)
        { r.setReader source { r.reader source with outgoing := none } with raw := r.raw ++ [m] }
  | fetch {m : Message} {raw : List Message} (taking : r.stage = .taking)
      (waiting : r.raw = m :: raw) :
      Move r .fetch
        { r with
          raw, meter := (intercept r.meter m).1
          stage := (intercept r.meter m).2.elim .taking .passing }
  | pass {m : Message} (passing : r.stage = .passing m) (room : r.stream.length < capacity) :
      Move r .pass { r with stage := .taking, stream := r.stream ++ [m] }
  | close (taking : r.stage = .taking) (silent : r.isSilent = true) :
      Move r .close { r with stage := .waiting }
  | learn {status : Option Host.ExitStatus} (waiting : r.stage = .waiting) :
      Move r (.learn status) { r with stage := .telling status }
  | tell {status : Option Host.ExitStatus} (telling : r.stage = .telling status)
      (room : r.stream.length < capacity) :
      Move r .tell
        { r with stage := .done status, stream := r.stream ++ [.exit (endState status)] }
  | take {m : Message} {stream : List Message} (waiting : r.stream = m :: stream) :
      Move r .take { r with stream, taken := r.taken ++ [m] }

theorem step?_eq_some_iff {r next : Relay} {act : Action} :
    r.step? act = some next ↔ Move r act next := by
  constructor
  · intro step
    cases act with
    | read source =>
        obtain ⟨reader, reads, rfl⟩ := Option.map_eq_some_iff.1 step
        exact .read reads
    | offer source =>
        simp only [step?] at step
        split at step
        · split at step
          · cases step
            exact .offer ‹_› ‹_›
          · cases step
        · cases step
    | fetch =>
        simp only [step?] at step
        split at step
        · cases step
          exact .fetch ‹_› ‹_›
        · cases step
    | pass =>
        simp only [step?, give?] at step
        split at step
        · split at step
          · cases step
            exact .pass ‹_› ‹_›
          · cases step
        · cases step
    | close =>
        simp only [step?] at step
        split at step
        · split at step
          · cases step
            exact .close ‹_› ‹_›
          · cases step
        · cases step
    | learn status =>
        simp only [step?] at step
        split at step
        · cases step
          exact .learn ‹_›
        · cases step
    | tell =>
        simp only [step?, give?] at step
        split at step
        · split at step
          · cases step
            exact .tell ‹_› ‹_›
          · cases step
        · cases step
    | take =>
        simp only [step?] at step
        split at step
        · cases step
          exact .take ‹_›
        · cases step
  · intro move
    cases move with
    | read reads => exact Option.map_eq_some_iff.2 ⟨_, reads, rfl⟩
    | offer offers room => simp only [step?, offers, room, if_true]
    | fetch taking waiting => simp only [step?, taking, waiting]
    | pass passing room => simp only [step?, give?, passing, room, if_true]
    | close taking silent => simp only [step?, taking, silent, if_true]
    | learn waiting => simp only [step?, waiting]
    | tell telling room => simp only [step?, give?, telling, room, if_true]
    | take waiting => simp only [step?, waiting]

def given (r : Relay) : List Message := r.taken ++ r.stream

def Stage.held : Stage → List Message
  | .passing m => [m]
  | _ => []

def Stage.told : Stage → List Message
  | .done status => [.exit (endState status)]
  | _ => []

def Stage.isLate : Stage → Bool
  | .taking | .passing _ => false
  | _ => true

/-- What has become of the output of a child: each reader has offered a part of its messages, both
parts went into the channel in turn, and the job was given what the pump has passed on of those that
it took. -/
structure Ordered (output : Source → List Message) (r : Relay) (offered : Source → List Message)
    (fetched : List Message) : Prop where
  sound : ∀ source, (r.reader source).Sound
  split : ∀ source, output source = offered source ++ (r.reader source).pending
  merged : Interleaving (offered .stdout) (offered .stderr) (fetched ++ r.raw)
  given : r.given ++ r.stage.held = screen fetched ++ r.stage.told
  late : r.stage.isLate = true → r.isSilent = true

variable {pid : Host.Pid} {stdout stderr : List Stream.Arrival} {r next : Relay} {act : Action}
  {output offered : Source → List Message} {fetched : List Message}

@[simp] theorem reader_setReader (r : Relay) (source other : Source) (reader : Stream.Reader) :
    (r.setReader source reader).reader other = if other = source then reader else r.reader other := by
  cases source <;> cases other <;> rfl

theorem setReader_frame (r : Relay) (source : Source) (reader : Stream.Reader) :
    (r.setReader source reader).raw = r.raw ∧ (r.setReader source reader).stage = r.stage ∧
      (r.setReader source reader).given = r.given := by
  cases source <;> exact ⟨rfl, rfl, rfl⟩

def outputOf (stdout stderr : List Stream.Arrival) : Source → List Message
  | .stdout => Stream.parsed .stdout stdout
  | .stderr => Stream.parsed .stderr stderr

theorem ordered_start (pid : Host.Pid) (stdout stderr : List Stream.Arrival) :
    Ordered (outputOf stdout stderr) (.start pid stdout stderr) (fun _ => []) [] := by
  refine ⟨fun source => ?_, fun source => ?_, .nil, rfl, nofun⟩
  · cases source <;> exact Stream.Reader.sound_start _ _
  · cases source <;> exact (Stream.Reader.pending_start _ _).symm

theorem isSilent_iff :
    r.isSilent = true ↔ r.raw = [] ∧ ∀ source, (r.reader source).finished = true := by
  have both : (∀ source, (r.reader source).finished = true) ↔
      r.stdout.finished = true ∧ r.stderr.finished = true := by
    refine ⟨fun all => ⟨all .stdout, all .stderr⟩, fun both source => ?_⟩
    cases source with
    | stdout => exact both.1
    | stderr => exact both.2
  rw [both, isSilent, Bool.and_eq_true, Bool.and_eq_true, List.isEmpty_iff, and_assoc]

theorem Ordered.early (ordered : Ordered output r offered fetched) {source : Source}
    (running : (r.reader source).finished = false) : r.stage.isLate = false := by
  cases late : r.stage.isLate with
  | false => rfl
  | true =>
      have silent := (isSilent_iff.1 (ordered.late late)).2 source
      cases running.symm.trans silent

theorem Ordered.read (ordered : Ordered output r offered fetched) {source : Source}
    {reader : Stream.Reader} (step : (r.reader source).read? = some reader) :
    Ordered output (r.setReader source reader) offered fetched := by
  obtain ⟨sound, pending⟩ := Stream.Reader.read?_sound (ordered.sound source) step
  obtain ⟨raw, stage, given⟩ := setReader_frame r source reader
  have running := (Stream.Reader.read?_eq_some_iff.1 step).1
  refine ⟨fun other => ?_, fun other => ?_, raw ▸ ordered.merged, ?_, fun late => ?_⟩
  · rw [reader_setReader]
    split
    · exact sound
    · exact ordered.sound other
  · rw [reader_setReader, ordered.split other]
    split
    · rename_i own
      rw [own, pending]
    · rfl
  · rw [stage, given, ordered.given]
  · rw [stage, ordered.early running] at late
    cases late

theorem Ordered.offer (ordered : Ordered output r offered fetched) {source : Source} {m : Message}
    (offers : (r.reader source).outgoing = some m) :
    Ordered output
      { r.setReader source { r.reader source with outgoing := none } with raw := r.raw ++ [m] }
      (fun other => if other = source then offered source ++ [m] else offered other) fetched := by
  obtain ⟨sound, pending⟩ := Stream.Reader.offered_sound (ordered.sound source) offers
  obtain ⟨-, stage, given⟩ :=
    setReader_frame r source { r.reader source with outgoing := none }
  have running : (r.reader source).finished = false := by
    cases finished : (r.reader source).finished with
    | false => rfl
    | true => cases offers.symm.trans ((ordered.sound source).silent finished)
  have read (other : Source) : ({ r.setReader source { r.reader source with outgoing := none } with
      raw := r.raw ++ [m] } : Relay).reader other =
        if other = source then { r.reader source with outgoing := none } else r.reader other := by
    rw [← reader_setReader]
    cases other <;> rfl
  refine ⟨fun other => ?_, fun other => ?_, ?_, ?_, fun late => ?_⟩
  · rw [read]
    split
    · exact sound
    · exact ordered.sound other
  · rw [read, ordered.split other]
    split
    · rename_i own
      rw [own, pending, List.append_assoc, List.singleton_append]
    · rfl
  · rw [← List.append_assoc]
    cases source with
    | stdout => exact ordered.merged.left_concat m
    | stderr => exact ordered.merged.right_concat m
  · have same := ordered.given
    rw [← given, ← stage] at same
    exact same
  · have before : r.stage.isLate = true := stage ▸ late
    rw [ordered.early running] at before
    cases before

theorem Ordered.fetch (ordered : Ordered output r offered fetched) {m : Message}
    {raw : List Message} (taking : r.stage = .taking) (waiting : r.raw = m :: raw) :
    Ordered output
      { r with
        raw, meter := (intercept r.meter m).1
        stage := (intercept r.meter m).2.elim .taking .passing }
      offered (fetched ++ [m]) := by
  have held (passed : Option Message) :
      (passed.elim Stage.taking Stage.passing).held = passed.toList ∧
        (passed.elim Stage.taking Stage.passing).told = [] ∧
        (passed.elim Stage.taking Stage.passing).isLate = false := by
    cases passed <;> exact ⟨rfl, rfl, rfl⟩
  obtain ⟨carried, untold, early⟩ := held (intercept r.meter m).2
  refine ⟨ordered.sound, ordered.split, ?_, ?_, fun late => ?_⟩
  · have merged := ordered.merged
    rw [waiting] at merged
    simpa using merged
  · have before := ordered.given
    simp only [taking, Stage.held, Stage.told, List.append_nil] at before
    rw [carried, untold, List.append_nil, screen_append, screen_singleton r.meter, ← before]
    rfl
  · rw [early] at late
    cases late

theorem Ordered.give (ordered : Ordered output r offered fetched) {stage : Stage} {m : Message}
    (given : r.given ++ m :: stage.held = screen fetched ++ stage.told)
    (late : stage.isLate = true → r.isSilent = true) :
    Ordered output { r with stage, stream := r.stream ++ [m] } offered fetched := by
  refine ⟨ordered.sound, ordered.split, ordered.merged, ?_, late⟩
  rw [← given]
  simp [Relay.given]

theorem Ordered.enter (ordered : Ordered output r offered fetched) {stage : Stage}
    (held : stage.held = r.stage.held) (told : stage.told = r.stage.told)
    (late : r.isSilent = true) : Ordered output { r with stage } offered fetched :=
  ⟨ordered.sound, ordered.split, ordered.merged, by rw [held, told]; exact ordered.given,
    fun _ => late⟩

theorem Ordered.move (ordered : Ordered output r offered fetched) (move : Move r act next) :
    ∃ offered fetched, Ordered output next offered fetched := by
  cases move with
  | read reads => exact ⟨_, _, ordered.read reads⟩
  | offer offers => exact ⟨_, _, ordered.offer offers⟩
  | fetch taking waiting => exact ⟨_, _, ordered.fetch taking waiting⟩
  | pass passing =>
      refine ⟨_, _, ordered.give ?_ nofun⟩
      have before := ordered.given
      rw [passing] at before
      exact before
  | close taking silent =>
      exact ⟨_, _, ordered.enter (by rw [taking]; rfl) (by rw [taking]; rfl) silent⟩
  | learn waiting =>
      exact ⟨_, _, ordered.enter (by rw [waiting]; rfl) (by rw [waiting]; rfl)
        (ordered.late (by rw [waiting]; rfl))⟩
  | tell telling =>
      refine ⟨_, _, ordered.give ?_ fun _ => ordered.late (by rw [telling]; rfl)⟩
      have before := ordered.given
      simp only [telling, Stage.held, Stage.told, List.append_nil] at before
      rw [before]
      rfl
  | take waiting =>
      refine ⟨_, _, ordered.sound, ordered.split, ordered.merged, ?_, ordered.late⟩
      have before := ordered.given
      rw [Relay.given, waiting] at before
      simpa [Relay.given] using before

theorem Reachable.ordered (reach : Reachable pid stdout stderr r) :
    ∃ offered fetched, Ordered (outputOf stdout stderr) r offered fetched := by
  induction reach with
  | start => exact ⟨_, _, ordered_start pid stdout stderr⟩
  | next _ step ih =>
      obtain ⟨offered, fetched, ordered⟩ := ih
      exact ordered.move (step?_eq_some_iff.1 step)

theorem given_of_done {status : Option Host.ExitStatus} (reach : Reachable pid stdout stderr r)
    (done : r.stage = .done status) :
    ∃ merged, Interleaving (Stream.parsed .stdout stdout) (Stream.parsed .stderr stderr) merged ∧
      r.given = delivered (Meter.new.attach pid) merged status := by
  obtain ⟨offered, fetched, ordered⟩ := reach.ordered
  obtain ⟨empty, finished⟩ := isSilent_iff.1 (ordered.late (by rw [done]; rfl))
  have whole (source : Source) : offered source = outputOf stdout stderr source := by
    have all := ordered.split source
    rw [Stream.Reader.pending_of_finished (ordered.sound source) (finished source),
      List.append_nil] at all
    exact all.symm
  refine ⟨fetched, ?_, ?_⟩
  · have merged := ordered.merged
    rw [empty, List.append_nil, whole, whole] at merged
    exact merged
  · have given := ordered.given
    simp only [done, Stage.held, Stage.told, List.append_nil] at given
    rw [delivered_eq, given]

/-! ## The end of a run -/

def replay? (r : Relay) : List Action → Option Relay
  | [] => some r
  | act :: rest => (r.step? act).bind fun next => next.replay? rest

theorem Reachable.replay {last : Relay} {acts : List Action}
    (reach : Reachable pid stdout stderr r) (played : r.replay? acts = some last) :
    Reachable pid stdout stderr last := by
  induction acts generalizing r with
  | nil =>
      cases played
      exact reach
  | cons act rest ih =>
      obtain ⟨next, step, played⟩ := Option.bind_eq_some_iff.1 played
      exact ih (reach.next step) played

def Stage.effort : Stage → Nat
  | .taking => 4
  | .passing _ => 6
  | .waiting => 3
  | .telling _ => 2
  | .done _ => 0

/-- An upper bound for the steps that a relay still takes. A message takes four of them: it is
offered, fetched, passed on and taken. -/
def effort (r : Relay) : Nat :=
  r.stdout.effort + r.stderr.effort + 3 * r.raw.length + r.stage.effort + r.stream.length

theorem effort_setReader (source : Source) (reader : Stream.Reader) :
    (r.setReader source reader).effort + (r.reader source).effort = r.effort + reader.effort := by
  cases source <;> simp only [effort, setReader, Relay.reader] <;> omega

theorem offer_effort {source : Source} {m : Message} (offers : (r.reader source).outgoing = some m) :
    ({ r.setReader source { r.reader source with outgoing := none } with
      raw := r.raw ++ [m] } : Relay).effort < r.effort := by
  have offered := Stream.Reader.offered_effort offers
  cases source <;>
    simp only [effort, setReader, Relay.reader, List.length_append, List.length_singleton]
      at offered ⊢ <;> omega

theorem Move.effort_lt (move : Move r act next) : next.effort < r.effort := by
  cases move with
  | @read source reader reads =>
      have same := effort_setReader (r := r) source reader
      have less := Stream.Reader.read?_effort reads
      omega
  | offer offers => exact offer_effort offers
  | @fetch m raw taking waiting =>
      have most (passed : Option Message) :
          (passed.elim Stage.taking Stage.passing).effort ≤ 6 := by
        cases passed with
        | none => exact (by decide : 4 ≤ 6)
        | some => exact Nat.le_refl 6
      have before : r.stage.effort = 4 := by rw [taking]; rfl
      have after := most (intercept r.meter m).2
      simp only [effort, waiting, List.length_cons]
      omega
  | pass passing =>
      simp only [effort, passing, Stage.effort, List.length_append, List.length_singleton]
      omega
  | close taking =>
      simp only [effort, taking, Stage.effort]
      omega
  | learn waiting =>
      simp only [effort, waiting, Stage.effort]
      omega
  | tell telling =>
      simp only [effort, telling, Stage.effort, List.length_append, List.length_singleton]
      omega
  | take waiting =>
      simp only [effort, waiting, List.length_cons]
      omega

theorem length_le_effort {last : Relay} {acts : List Action} (played : r.replay? acts = some last) :
    acts.length ≤ r.effort := by
  induction acts generalizing r with
  | nil => exact Nat.zero_le _
  | cons act rest ih =>
      obtain ⟨next, step, played⟩ := Option.bind_eq_some_iff.1 played
      have less := (step?_eq_some_iff.1 step).effort_lt
      have most := ih played
      rw [List.length_cons]
      omega

theorem done_of_stuck (stuck : ∀ act, r.step? act = none) : ∃ status, r.stage = .done status := by
  have blocked {act : Action} {next : Relay} (move : Move r act next) : False := by
    cases (step?_eq_some_iff.2 move).symm.trans (stuck act)
  have room : r.stream.length < capacity := by
    cases stream : r.stream with
    | nil => decide
    | cons => exact (blocked (.take stream)).elim
  cases stage : r.stage with
  | done status => exact ⟨status, rfl⟩
  | telling => exact (blocked (.tell stage room)).elim
  | waiting =>
      have learns : Move r (.learn none) { r with stage := .telling none } := .learn stage
      exact (blocked learns).elim
  | passing => exact (blocked (.pass stage room)).elim
  | taking =>
      have empty : r.raw = [] := by
        cases raw : r.raw with
        | nil => rfl
        | cons => exact (blocked (.fetch stage raw)).elim
      have finished (source : Source) : (r.reader source).finished = true := by
        cases running : (r.reader source).finished with
        | true => rfl
        | false =>
            -- It could read on, or offer the message that it has.
            cases outgoing : (r.reader source).outgoing with
            | none =>
                have reads := Stream.Reader.read?_eq_some_iff.2 ⟨running, outgoing, rfl⟩
                exact (blocked (.read reads)).elim
            | some => exact (blocked (.offer outgoing (by rw [empty]; decide))).elim
      exact (blocked (.close stage (isSilent_iff.2 ⟨empty, finished⟩))).elim

end Relay

end Overseer.Exec
