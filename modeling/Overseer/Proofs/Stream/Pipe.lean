import Mathlib
import Overseer.Stream.Pipe
import Overseer.Proofs.Stream.Reader

/-!
# What comes out of a pipe

The receiver of a pipe gets the messages of the lines of the stream, in order, up to the number
after which it hangs up. Neither the chunks in which the stream arrives nor the order in which
reader and receiver act make a difference, and every run comes to the end of the stream, which is
announced once.
-/

namespace Overseer.Stream

def arriving (chunks : List (List UInt8)) (failing : Bool) : List Arrival :=
  chunks.map .bytes ++ [if failing then .failed else .ended]

theorem content_arriving (chunks : List (List UInt8)) (failing : Bool) :
    content (arriving chunks failing) = chunks.flatten := by
  induction chunks with
  | nil => cases failing <;> rfl
  | cons chunk rest ih => exact congrArg (chunk ++ ·) ih

theorem fails_arriving (chunks : List (List UInt8)) (failing : Bool) :
    fails (arriving chunks failing) = failing := by
  induction chunks with
  | nil => cases failing <;> rfl
  | cons chunk rest ih => exact ih

theorem arriving_cons (chunk : List UInt8) (rest : List (List UInt8)) (failing : Bool) :
    arriving (chunk :: rest) failing = .bytes chunk :: arriving rest failing := rfl

theorem Reader.read_arriving {r : Reader} {chunks : List (List UInt8)} {failing : Bool}
    (coming : r.arrivals = arriving chunks failing) (running : r.finished = false) :
    (∃ rest, r.read.arrivals = arriving rest failing) ∧
      (r.read.finished = true → r.read.buffer = [] ∧ r.read.arrivals = arriving [] failing) := by
  unfold Reader.read
  split
  · exact ⟨⟨chunks, coming⟩, fun finished => by simp [takeLine, running] at finished⟩
  · cases chunks with
    | cons chunk rest =>
        rw [coming, arriving_cons]
        exact ⟨⟨rest, rfl⟩, fun finished => absurd finished (by simp [running])⟩
    | nil =>
        cases failing with
        | true =>
            have failed : r.arrivals = [.failed] := coming
            simp only [failed]
            exact ⟨⟨[], rfl⟩, fun _ => ⟨trivial, rfl⟩⟩
        | false =>
            have ended : r.arrivals = [.ended] := coming
            simp only [ended]
            split
            · rename_i empty
              exact ⟨⟨[], rfl⟩, fun _ => ⟨List.isEmpty_iff.1 empty, rfl⟩⟩
            · exact ⟨⟨[], rfl⟩, fun finished => by simp [takeLine, running] at finished⟩

def messagesOf (default : Level) (failing : Bool) (bytes : List UInt8) : List Message :=
  messages (.new default) (cut (!failing) [] bytes)

def upTo : Option Nat → List Message → List Message
  | some k, ms => ms.take k
  | none, ms => ms

theorem isPrefix_upTo {limit : Option Nat} {some all : List Message} (begins : some <+: all)
    (within : ∀ k, limit = .some k → some.length ≤ k) : some <+: upTo limit all := by
  cases limit with
  | none => exact begins
  | some k => exact List.prefix_take_iff.2 ⟨begins, within k rfl⟩

namespace Pipe

variable {p next : Pipe} {act : Action} {limit : Option Nat}

inductive Move (p : Pipe) : Action → Pipe → Prop where
  | read {reader : Reader} (reads : p.read? = some reader) :
      Move p .read { p with toReader := reader }
  | refuse {m : Message} (offers : p.outgoing = some m) (gone : p.listening = false) :
      Move p .send { p with outgoing := none, forwarding := false }
  | send {m : Message} (offers : p.outgoing = some m) (listening : p.listening = true)
      (room : p.channel.length < p.capacity) :
      Move p .send { p with outgoing := none, channel := p.channel ++ [m] }
  | receive {m : Message} {rest : List Message} (listening : p.listening = true)
      (waiting : p.channel = m :: rest) :
      Move p .receive { p with channel := rest, received := p.received ++ [m] }
  | hangUp (listening : p.listening = true) :
      Move p .hangUp { p with listening := false, channel := [] }

theorem act_eq_some_iff : p.act act = some next ↔ Move p act next := by
  constructor
  · intro step
    cases act with
    | read =>
        obtain ⟨reader, reads, rfl⟩ := Option.map_eq_some_iff.1 step
        exact .read reads
    | send =>
        simp only [Pipe.act] at step
        split at step
        · cases step
        · split at step
          · cases step
            exact .refuse ‹_› (by simpa using ‹(!p.listening) = true›)
          · split at step
            · cases step
              exact .send ‹_› (by simpa using ‹¬(!p.listening) = true›) ‹_›
            · cases step
    | receive =>
        simp only [Pipe.act] at step
        split at step
        · cases step
          exact .receive ‹_› ‹_›
        · cases step
    | hangUp =>
        simp only [Pipe.act] at step
        split at step
        · cases step
          exact .hangUp ‹_›
        · cases step
  · intro move
    cases move with
    | read reads => exact Option.map_eq_some_iff.2 ⟨_, reads, rfl⟩
    | refuse offers gone => simp [Pipe.act, offers, gone]
    | send offers listening room => simp [Pipe.act, offers, listening, room]
    | receive listening waiting => simp [Pipe.act, listening, waiting]
    | hangUp listening => simp [Pipe.act, listening]

/-! ## Runs -/

def permits (limit : Option Nat) (p : Pipe) : Action → Prop
  | .read | .send => True
  | .receive => limit ≠ some p.received.length
  | .hangUp => limit = some p.received.length

/-- A pipe in which nothing can happen any more. -/
def Stuck (limit : Option Nat) (p : Pipe) : Prop := ∀ act, permits limit p act → p.act act = none

/-- What may become of a pipe, with the steps by which it did, each as the pipe before and after
it. -/
inductive Run (limit : Option Nat) (first : Pipe) : List (Pipe × Pipe) → Pipe → Prop where
  | start : Run limit first [] first
  | next {steps : List (Pipe × Pipe)} {p next : Pipe} {act : Action} (run : Run limit first steps p)
      (permitted : permits limit p act) (step : p.act act = some next) :
      Run limit first (steps ++ [(p, next)]) next

def announcements (steps : List (Pipe × Pipe)) : List Pipe :=
  (steps.filter fun (before, after) => !before.finished && after.finished).map (·.2)

structure Faithful (limit : Option Nat) (failing : Bool) (all : List Message) (p : Pipe) :
    Prop where
  room : 0 < p.capacity
  coming : ∃ chunks, p.arrivals = arriving chunks failing
  within : ∀ k, limit = some k → p.received.length ≤ k
  listening : p.listening = true →
    p.toReader.Sound ∧ all = p.received ++ p.channel ++ p.toReader.pending
  gone : p.listening = false → p.received <+: all ∧ limit = some p.received.length

variable {chunks : List (List UInt8)} {failing : Bool} {all : List Message}

theorem Faithful.move (faithful : Faithful limit failing all p) (permitted : permits limit p act)
    (move : Move p act next) : Faithful limit failing all next := by
  cases move with
  | @read reader reads =>
      obtain ⟨chunks, coming⟩ := faithful.coming
      obtain ⟨running, -, rfl⟩ := Reader.read?_eq_some_iff.1 reads
      refine ⟨faithful.room, (Reader.read_arriving coming running).1, faithful.within, ?_,
        faithful.gone⟩
      intro listening
      obtain ⟨sound, split⟩ := faithful.listening listening
      obtain ⟨sound', same⟩ := Reader.read?_sound sound reads
      exact ⟨sound', split.trans (by rw [← same])⟩
  | refuse offers gone =>
      exact ⟨faithful.room, faithful.coming, faithful.within,
        fun listening => absurd (gone.symm.trans listening) nofun, faithful.gone⟩
  | @send m offers listening room =>
      refine ⟨faithful.room, faithful.coming, faithful.within, fun _ => ?_, faithful.gone⟩
      obtain ⟨sound, split⟩ := faithful.listening listening
      obtain ⟨sound', offered⟩ := Reader.offered_sound sound offers
      exact ⟨sound', by rw [split, offered]; simp⟩
  | @receive m rest listening waiting =>
      refine ⟨faithful.room, faithful.coming, ?_, fun _ => ?_,
        fun gone => absurd (listening.symm.trans gone) nofun⟩
      · intro k limited
        have most := faithful.within k limited
        have other : p.received.length ≠ k := by
          rintro rfl
          exact permitted limited
        rw [List.length_append, List.length_singleton]
        omega
      · obtain ⟨sound, split⟩ := faithful.listening listening
        exact ⟨sound, by rw [split, waiting]; simp⟩
  | hangUp listening =>
      refine ⟨faithful.room, faithful.coming, faithful.within, nofun, fun _ => ⟨?_, permitted⟩⟩
      rw [(faithful.listening listening).2, List.append_assoc]
      exact List.prefix_append _ _

theorem Run.faithful {steps : List (Pipe × Pipe)} {first : Pipe}
    (start : Faithful limit failing all first) (run : Run limit first steps p) :
    Faithful limit failing all p := by
  induction run with
  | start => exact start
  | next _ permitted step ih => exact ih.move permitted (act_eq_some_iff.1 step)

theorem Move.finished (move : Move p act next) (finished : p.finished = true) :
    next.finished = true := by
  cases move with
  | read reads => cases finished.symm.trans (Reader.read?_eq_some_iff.1 reads).1
  | refuse | send | receive | hangUp => exact finished

theorem Faithful.spent (faithful : Faithful limit failing all p) (move : Move p act next)
    (running : p.finished = false) (finished : next.finished = true) :
    next.buffer = [] ∧ next.arrivals = arriving [] failing := by
  cases move with
  | read reads =>
      obtain ⟨chunks, coming⟩ := faithful.coming
      obtain ⟨-, -, rfl⟩ := Reader.read?_eq_some_iff.1 reads
      exact (Reader.read_arriving coming running).2 finished
  | refuse | send | receive | hangUp => cases running.symm.trans finished

theorem announcements_concat (steps : List (Pipe × Pipe)) (before after : Pipe) :
    announcements (steps ++ [(before, after)]) =
      announcements steps ++ if !before.finished && after.finished then [after] else [] := by
  simp only [announcements, List.filter_append, List.map_append, List.filter_cons, List.filter_nil]
  split <;> rfl

theorem Run.announced {steps : List (Pipe × Pipe)} {first : Pipe}
    (start : Faithful limit failing all first) (fresh : first.finished = false)
    (run : Run limit first steps p) :
    (p.finished = false → announcements steps = []) ∧
      (p.finished = true → ∃ done, announcements steps = [done] ∧ done.buffer = [] ∧
        done.arrivals = arriving [] failing) := by
  induction run with
  | start => exact ⟨fun _ => rfl, fun finished => by cases fresh.symm.trans finished⟩
  | @next steps p next act run permitted step ih =>
      have move := act_eq_some_iff.1 step
      rw [announcements_concat]
      cases before : p.finished with
      | true => simp [move.finished before, ih.2 before]
      | false =>
          rw [ih.1 before]
          cases after : next.finished with
          | true =>
              have spent := (run.faithful start).spent move before after
              simp [spent]
          | false => simp

/-! ## The end of a run -/

def effort (p : Pipe) : Nat := p.toReader.effort + p.channel.length + p.listening.toNat

theorem Move.effort_lt (move : Move p act next) : next.effort < p.effort := by
  cases move with
  | read reads =>
      have less := Reader.read?_effort reads
      simp only [effort]
      omega
  | refuse offers =>
      have offered := Reader.offered_effort offers
      simp only [effort, Reader.effort] at offered ⊢
      omega
  | send offers =>
      have offered := Reader.offered_effort offers
      simp only [effort, List.length_append, List.length_singleton]
      omega
  | receive listening waiting =>
      simp only [effort, waiting, List.length_cons]
      omega
  | hangUp listening =>
      simp only [effort, listening, List.length_nil, Bool.toNat_true, Bool.toNat_false]
      omega

theorem Run.length_add_effort_le {steps : List (Pipe × Pipe)} {first : Pipe}
    (run : Run limit first steps p) : steps.length + p.effort ≤ first.effort := by
  induction run with
  | start => simp
  | next _ _ step ih =>
      have less := (act_eq_some_iff.1 step).effort_lt
      rw [List.length_append, List.length_singleton]
      omega

theorem Stuck.not_move (stuck : Stuck limit p) (permitted : permits limit p act) :
    ¬Move p act next := by
  intro move
  cases (act_eq_some_iff.2 move).symm.trans (stuck act permitted)

theorem Stuck.idle (stuck : Stuck limit p)
    (room : p.listening = true → p.channel.length < p.capacity) : p.outgoing = none := by
  cases offers : p.outgoing with
  | none => rfl
  | some m =>
      have silent {next : Pipe} : ¬Move p .send next := stuck.not_move trivial
      cases listening : p.listening with
      | true => exact absurd (.send offers listening (room listening)) silent
      | false => exact absurd (.refuse offers listening) silent

theorem Stuck.finished (stuck : Stuck limit p) (idle : p.outgoing = none) : p.finished = true := by
  cases running : p.finished with
  | true => rfl
  | false =>
      have reads := Reader.read?_eq_some_iff.2 ⟨running, idle, rfl⟩
      have move : Move p .read _ := .read reads
      exact absurd move (stuck.not_move trivial)

theorem Faithful.ended (faithful : Faithful limit failing all p) (stuck : Stuck limit p) :
    p.finished = true ∧ p.received = upTo limit all := by
  cases listening : p.listening with
  | false =>
      obtain ⟨begins, limited⟩ := faithful.gone listening
      have idle := stuck.idle fun there => by cases listening.symm.trans there
      refine ⟨stuck.finished idle, ?_⟩
      rw [limited]
      exact List.prefix_iff_eq_take.1 begins
  | true =>
      have leaves : Move p .hangUp _ := .hangUp listening
      have unlimited : limit ≠ some p.received.length := by
        intro limited
        have permitted : permits limit p .hangUp := limited
        exact stuck.not_move permitted leaves
      have empty : p.channel = [] := by
        cases waiting : p.channel with
        | nil => rfl
        | cons m rest =>
            have receives : Move p .receive _ := .receive listening waiting
            exact absurd receives (stuck.not_move unlimited)
      have finished := stuck.finished (stuck.idle fun _ => by simpa [empty] using faithful.room)
      obtain ⟨sound, split⟩ := faithful.listening listening
      simp only [empty, Reader.pending_of_finished sound finished, List.append_nil] at split
      refine ⟨finished, ?_⟩
      rw [split]
      cases limit with
      | none => rfl
      | some k => exact (List.take_of_length_le (faithful.within k rfl)).symm

theorem faithful_start (default : Level) {capacity : Nat} (room : 0 < capacity)
    (limit : Option Nat) (chunks : List (List UInt8)) (failing : Bool) :
    Faithful limit failing (messagesOf default failing chunks.flatten)
      (.start default capacity (arriving chunks failing)) where
  room := room
  coming := ⟨chunks, rfl⟩
  within := fun k _ => Nat.zero_le k
  listening := fun _ => by
    refine ⟨Reader.sound_start _ _, ?_⟩
    show _ = (Reader.start default (arriving chunks failing)).pending
    rw [Reader.pending_start, parsed, content_arriving, fails_arriving, messagesOf]
  gone := nofun

theorem Faithful.begins (faithful : Faithful limit failing all p) : p.received <+: all := by
  cases listening : p.listening with
  | false => exact (faithful.gone listening).1
  | true =>
      rw [(faithful.listening listening).2, List.append_assoc]
      exact List.prefix_append _ _

/-- However a stream is cut into chunks, whatever the capacity of the channel and in whichever order
reader and receiver act: the receiver has always got a beginning of the messages of the stream, up
to the number after which it hangs up; no run goes on for ever; and when nothing can happen any more
it has got all of them, and the end was announced once, with nothing left to read. -/
theorem consumed_to_end (default : Level) (capacity : Nat) (room : 1 ≤ capacity)
    (limit : Option Nat) (chunks : List (List UInt8)) (failing : Bool)
    {steps : List (Pipe × Pipe)} {p : Pipe}
    (run : Run limit (.start default capacity (arriving chunks failing)) steps p) :
    p.received <+: upTo limit (messagesOf default failing chunks.flatten) ∧
      (announcements steps).length ≤ 1 ∧
      steps.length ≤ (Pipe.start default capacity (arriving chunks failing)).effort ∧
      (Stuck limit p →
        p.received = upTo limit (messagesOf default failing chunks.flatten) ∧
          ∃ done, announcements steps = [done] ∧ done.buffer = [] ∧
            done.arrivals = arriving [] failing) := by
  have start := faithful_start default room limit chunks failing
  have faithful := run.faithful start
  have announced := run.announced start rfl
  refine ⟨isPrefix_upTo faithful.begins faithful.within, ?_, ?_, fun stuck => ?_⟩
  · cases finished : p.finished with
    | false => simp [announced.1 finished]
    | true =>
        obtain ⟨done, once, -⟩ := announced.2 finished
        simp [once]
  · exact Nat.le_of_add_right_le run.length_add_effort_le
  · obtain ⟨finished, received⟩ := faithful.ended stuck
    exact ⟨received, announced.2 finished⟩

/-! ## The run that takes what there is -/

theorem run_hangUp {steps : List (Pipe × Pipe)} {first : Pipe} (run : Run limit first steps p) :
    ∃ steps q, Run limit first steps q ∧
      q = (if some p.received.length = limit then (p.act .hangUp).getD p else p) ∧
      q.effort ≤ p.effort ∧ (limit = some q.received.length → q.listening = false) := by
  by_cases limited : some p.received.length = limit
  · rw [if_pos limited]
    cases listening : p.listening with
    | true =>
        have move : Move p .hangUp _ := .hangUp listening
        have step := act_eq_some_iff.2 move
        have permitted : permits limit p .hangUp := limited.symm
        exact ⟨_, _, run.next permitted step, by rw [step]; rfl, Nat.le_of_lt move.effort_lt,
          fun _ => rfl⟩
    | false =>
        have stays : p.act .hangUp = none := by simp [Pipe.act, listening]
        exact ⟨_, p, run, by rw [stays]; rfl, Nat.le_refl _, fun _ => listening⟩
  · rw [if_neg limited]
    exact ⟨_, p, run, rfl, Nat.le_refl _, fun same => absurd same.symm limited⟩

theorem act_of_some (found : (p.act .receive <|> p.act .send <|> p.act .read) = some next) :
    ∃ act, act ≠ .hangUp ∧ p.act act = some next := by
  cases receives : p.act .receive with
  | some _ => exact ⟨.receive, nofun, by simpa [receives] using found⟩
  | none =>
      cases sends : p.act .send with
      | some _ => exact ⟨.send, nofun, by simpa [receives, sends] using found⟩
      | none => exact ⟨.read, nofun, by simpa [receives, sends] using found⟩

theorem act_of_none (found : (p.act .receive <|> p.act .send <|> p.act .read) = none)
    (other : act ≠ .hangUp) : p.act act = none := by
  obtain ⟨receive, send, read⟩ :
      p.act .receive = none ∧ p.act .send = none ∧ p.act .read = none := by simpa using found
  cases act with
  | receive => exact receive
  | send => exact send
  | read => exact read
  | hangUp => exact absurd rfl other

theorem run_runWithin (fuel : Nat) {steps : List (Pipe × Pipe)} {first : Pipe}
    (run : Run limit first steps p) :
    ∃ steps, Run limit first steps (runWithin limit fuel p) ∧
      (p.effort < fuel → Stuck limit (runWithin limit fuel p)) := by
  induction fuel generalizing p steps with
  | zero => exact ⟨_, run, nofun⟩
  | succ fuel ih =>
      obtain ⟨steps, q, run, hungUp, most, deaf⟩ := run_hangUp run
      rw [runWithin, ← hungUp]
      cases found : q.act .receive <|> q.act .send <|> q.act .read with
      | some next =>
          obtain ⟨act, other, step⟩ := act_of_some found
          have move := act_eq_some_iff.1 step
          have permitted : permits limit q act := by
            cases move with
            | receive listening => exact fun limited => nomatch (deaf limited).symm.trans listening
            | hangUp => exact absurd rfl other
            | read | refuse | send => trivial
          obtain ⟨steps, run, stuck⟩ := ih (run.next permitted step)
          have less := move.effort_lt
          exact ⟨steps, run, fun enough => stuck (by omega)⟩
      | none =>
          refine ⟨steps, run, fun _ act permitted => ?_⟩
          by_cases other : act = .hangUp
          · subst other
            simp [Pipe.act, deaf permitted]
          · exact act_of_none found other

theorem length_content_le (size : Arrival → Nat) (bytes : ∀ bs, size (.bytes bs) = bs.length)
    (arrivals : List Arrival) : (content arrivals).length ≤ (arrivals.map size).sum := by
  induction arrivals with
  | nil => exact Nat.zero_le _
  | cons first rest ih =>
      cases first with
      | bytes bs =>
          rw [content, List.length_append, List.map_cons, List.sum_cons, bytes]
          exact Nat.add_le_add_left ih _
      | ended | failed => exact Nat.zero_le _

theorem effort_lt_measure (p : Pipe) : p.effort < p.measure := by
  unfold effort Reader.effort measure
  extract_lets size
  have bytes := length_content_le size (fun _ => rfl) p.arrivals
  have outgoing : p.outgoing.toList.length ≤ 1 := by cases p.outgoing <;> simp
  have running := Bool.toNat_le (!p.finished)
  have listening := Bool.toNat_le p.listening
  rw [← List.sum_eq_foldl_nat]
  omega

theorem run_run (limit : Option Nat) (p : Pipe) :
    ∃ steps, Run limit p steps (p.run limit) ∧ Stuck limit (p.run limit) := by
  have nothing : Run limit p [] p := .start
  obtain ⟨steps, run, stuck⟩ := run_runWithin p.measure nothing
  exact ⟨steps, run, stuck p.effort_lt_measure⟩

theorem received_run (default : Level) {capacity : Nat} (room : 0 < capacity) (limit : Option Nat)
    (chunks : List (List UInt8)) (failing : Bool) :
    ((Pipe.start default capacity (arriving chunks failing)).run limit).received =
      upTo limit (messagesOf default failing chunks.flatten) := by
  obtain ⟨steps, run, stuck⟩ := run_run limit (.start default capacity (arriving chunks failing))
  exact ((run.faithful (faithful_start default room limit chunks failing)).ended stuck).2

def torn : List (List UInt8) := [[0xC3], [0xA9, 0x0D], [0x0A, 0x62, 0x0A, 0x63]]

theorem consumed_to_end_torn :
    1 ≤ 1 ∧ ∃ steps p, Run (some 1) (.start .stdout 1 (arriving torn true)) steps p ∧
      Stuck (some 1) p ∧ p.received = [.new .stdout "é"] ∧ (announcements steps).length = 1 := by
  obtain ⟨steps, run, stuck⟩ := run_run (some 1) (.start .stdout 1 (arriving torn true))
  have first : upTo (some 1) (messagesOf .stdout true torn.flatten) = [.new .stdout "é"] := by cbv
  obtain ⟨-, -, -, ended⟩ :=
    consumed_to_end .stdout 1 (Nat.le_refl 1) (some 1) torn true run
  obtain ⟨received, done, once, -⟩ := ended stuck
  exact ⟨Nat.le_refl 1, steps, _, run, stuck, received.trans first, congrArg List.length once⟩

end Pipe

end Overseer.Stream
