import Overseer.Proofs.Stats.Windows
import Overseer.Stats.Service

/-!
# What a service hands over

A service that comes to work does what its aggregator would do if it were called with the lines one
by one, in the order in which they were fed, with a flush at each tick and one behind the last line.
A service whose first tick is out of the range of the clock never comes to work: it hands over
nothing, whatever it is fed and however it is stopped.
-/

namespace Overseer.Stats

def Letter.line? : Letter → Option String
  | .line text => some text
  | .stop => none

namespace Service

open Aggregator

def Action.line? : Action → Option String
  | .feed line => some line
  | _ => none

def Action.tick? : Action → Option Int
  | .tick _ epoch => some epoch
  | _ => none

def Action.isRead : Action → Bool
  | .read _ => true
  | _ => false

def waiting (v : Service) : List String :=
  v.collector.mailbox.filterMap Letter.line?

inductive Move (v : Service) : Action → Service → Prop where
  | fed (held : v.handle = .held) (line : String) : Move v (.feed line) (v.post (.line line))
  | stopping (held : v.handle = .held) :
      Move v .stop { v.post .stop with handle := .stopping }
  | dropped (held : v.handle = .held) : Move v .drop { v with handle := .dropped }
  | took {line : String} {rest : List Letter} (running : v.collector.stopped = false)
      (found : v.collector.mailbox = .line line :: rest) (epoch : Int) :
      Move v (.read epoch) { v with
        collector.aggregator := v.collector.aggregator.accept line
        collector.mailbox := rest }
  | ended {rest : List Letter} (running : v.collector.stopped = false)
      (found : v.collector.mailbox = .stop :: rest ∨
        v.handle = .dropped ∧ v.collector.mailbox = [] ∧ rest = [])
      (epoch : Int) :
      Move v (.read epoch) { v with
        collector.aggregator := v.collector.aggregator.reset
        collector.mailbox := rest
        collector.stopped := true
        delivered := v.delivered ++ (v.collector.aggregator.snapshot? epoch).toList }
  | ticked (running : v.collector.stopped = false) (now : Nat) (epoch : Int) :
      Move v (.tick now epoch) { v with
        collector.aggregator := v.collector.aggregator.reset
        collector.nextTick := v.collector.nextTick + v.collector.period
        delivered := v.delivered ++ (v.collector.aggregator.snapshot? epoch).toList }
  | joined (waits : v.handle = .stopping) (done : v.collector.stopped = true) :
      Move v .joined { v with handle := .returned }

variable {v w : Service} {a : Action} {epoch : Int}

theorem receive_last {c : Collector} (running : c.stopped = false) (found : c.mailbox = [])
    (epoch : Int) :
    (c.post .stop).receive epoch =
      (c.aggregator.snapshot? epoch,
        { c with aggregator := c.aggregator.reset, mailbox := [], stopped := true }) := by
  simp [Collector.post, Collector.receive, Collector.flush, Aggregator.flush, running, found]

theorem move_of_read (read : v.read? epoch = some w) : Move v (.read epoch) w := by
  unfold read? at read
  split at read
  · cases read
  · rename_i running
    replace running := eq_false_of_ne_true running
    split at read
    · rename_i letter rest found
      cases read
      cases letter with
      | line line =>
          rw [Collector.receive_line running found]
          simp only [deliver, Option.toList_none, List.append_nil]
          exact .took running found epoch
      | stop =>
          rw [Collector.receive_stop running found]
          exact .ended running (.inl found) epoch
    · rename_i found
      split at read
      · rename_i dropped
        cases read
        rw [receive_last running found]
        exact .ended running (.inr ⟨dropped, found, rfl⟩) epoch
      · cases read

theorem move_of_step (step : v.step? a = some w) : Move v a w := by
  cases a with
  | read epoch => exact move_of_read step
  | feed line =>
      simp only [step?, Option.ite_none_right_eq_some, Option.some.injEq] at step
      obtain ⟨held, rfl⟩ := step
      exact .fed held line
  | stop =>
      simp only [step?, Option.ite_none_right_eq_some, Option.some.injEq] at step
      obtain ⟨held, rfl⟩ := step
      exact .stopping held
  | drop =>
      simp only [step?, Option.ite_none_right_eq_some, Option.some.injEq] at step
      obtain ⟨held, rfl⟩ := step
      exact .dropped held
  | tick now epoch =>
      simp only [step?, Option.ite_none_right_eq_some, Option.some.injEq] at step
      obtain ⟨due, rfl⟩ := step
      exact .ticked (Collector.running_of_due due) now epoch
  | joined =>
      simp only [step?, Option.ite_none_right_eq_some, Option.some.injEq] at step
      obtain ⟨⟨waits, done⟩, rfl⟩ := step
      exact .joined waits done

/-! ## Accounts -/

/-- What a service did with what it was asked for: the work of its aggregator is made of the lines,
in order, and of a flush for each tick, with one more flush at the end. -/
structure Accounts (fresh : Aggregator) (actions : List Action) (v : Service)
    (windows : List Window) (since : List String) : Prop where
  delivered : v.delivered = fresh.snapshots (work windows since)
  lines : windows.flatMap Window.lines ++ since ++ v.waiting = actions.filterMap Action.line?
  epochs : ∃ last : Option Int, last.isSome = v.collector.stopped ∧
    windows.map Window.epoch = actions.filterMap Action.tick? ++ last.toList
  reads : actions.countP Action.isRead =
    (windows.flatMap Window.lines ++ since).length + v.collector.stopped.toNat
  nothingLeft : v.collector.stopped = true → since = [] ∧ v.waiting = []

inductive Stage (v : Service) : Prop where
  | filling (running : v.collector.stopped = false) (free : v.handle = .held ∨ v.handle = .dropped)
      (letters : v.collector.mailbox = v.waiting.map .line)
  | closing (running : v.collector.stopped = false) (waits : v.handle = .stopping)
      (letters : v.collector.mailbox = v.waiting.map .line ++ [.stop])
  | done (stopped : v.collector.stopped = true) (left : v.handle ≠ .held)
      (letters : v.collector.mailbox = [])

structure Sound (fresh : Aggregator) (actions : List Action) (v : Service)
    (windows : List Window) (since : List String) : Prop
    extends Accounts fresh actions v windows since where
  aggregator : v.collector.aggregator = (fresh.run (work windows since)).2
  stage : Stage v

variable {fresh : Aggregator} {actions : List Action} {windows : List Window} {since : List String}
  {scope : String} {interval : Nat}

theorem filterMap_concat {α β : Type} (f : α → Option β) (l : List α) (a : α) :
    (l ++ [a]).filterMap f = l.filterMap f ++ (f a).toList := by
  cases made : f a <;> simp [made]

theorem run_feed (calls : List Call) (line : String) :
    ((Aggregator.new scope interval).run (calls ++ [.feed line])).2 =
      ((Aggregator.new scope interval).run calls).2.accept line := by
  have begun : History scope interval [] (.new scope interval) := .start
  obtain ⟨events, history, -⟩ := begun.run calls
  rw [run_append]
  exact perform_feed history.told.sorted line

theorem snapshots_feed (g : Aggregator) (calls : List Call) (line : String) :
    g.snapshots (calls ++ [.feed line]) = g.snapshots calls := by
  have silent := snapshots_feeds (g.run calls).2 [line]
  rw [snapshots_append, ← List.map_singleton, silent, List.append_nil]

theorem run_flush (g : Aggregator) (calls : List Call) (epoch : Int) :
    (g.run (calls ++ [.flush epoch])).2 = (g.run calls).2.reset := by
  rw [run_append]
  rfl

theorem post_collector (running : v.collector.stopped = false) (l : Letter) :
    (v.post l).collector = { v.collector with mailbox := v.collector.mailbox ++ [l] } :=
  Collector.post_of_running running l

namespace Stage

theorem letters_of_stopped (stage : Stage v) (stopped : v.collector.stopped = true) :
    v.collector.mailbox = [] := by
  cases stage with
  | filling running | closing running =>
      rw [stopped] at running
      cases running
  | done _ _ letters => exact letters

theorem waiting_of_stopped (stage : Stage v) (stopped : v.collector.stopped = true) :
    v.waiting = [] := by
  rw [waiting, stage.letters_of_stopped stopped]
  rfl

theorem letters_of_running (stage : Stage v) (running : v.collector.stopped = false) :
    (v.handle = .held ∨ v.handle = .dropped) ∧ v.collector.mailbox = v.waiting.map .line ∨
      v.handle = .stopping ∧ v.collector.mailbox = v.waiting.map .line ++ [.stop] := by
  cases stage with
  | filling _ free letters => exact .inl ⟨free, letters⟩
  | closing _ waits letters => exact .inr ⟨waits, letters⟩
  | done stopped =>
      rw [running] at stopped
      cases stopped

theorem running_of_held (stage : Stage v) (held : v.handle = .held) :
    v.collector.stopped = false := by
  cases stage with
  | filling running | closing running => exact running
  | done _ left => exact absurd held left

theorem letters_of_held (stage : Stage v) (held : v.handle = .held) :
    v.collector.mailbox = v.waiting.map .line := by
  cases stage with
  | filling _ _ letters => exact letters
  | closing _ waits =>
      rw [held] at waits
      cases waits
  | done _ left => exact absurd held left

theorem last_letter {rest : List Letter} (stage : Stage v) (running : v.collector.stopped = false)
    (found : v.collector.mailbox = .stop :: rest ∨
      v.handle = .dropped ∧ v.collector.mailbox = [] ∧ rest = []) :
    v.waiting = [] ∧ rest = [] ∧ v.handle ≠ .held := by
  cases found with
  | inr found =>
      obtain ⟨dropped, empty, rfl⟩ := found
      refine ⟨?_, rfl, by simp [dropped]⟩
      rw [waiting, empty]
      rfl
  | inl found =>
      rcases stage.letters_of_running running with ⟨-, letters⟩ | ⟨waits, letters⟩
      · rw [found] at letters
        cases lines : v.waiting <;> simp [lines] at letters
      · rw [found] at letters
        have handle : v.handle ≠ .held := by simp [waits]
        cases lines : v.waiting <;> simp [lines] at letters
        exact ⟨rfl, letters, handle⟩

end Stage

namespace Sound

theorem of_owner (sound : Sound fresh actions v windows since)
    (aggregator : w.collector.aggregator = v.collector.aggregator)
    (delivered : w.delivered = v.delivered) (stopped : w.collector.stopped = v.collector.stopped)
    (waiting : w.waiting = v.waiting ++ a.line?.toList) (early : a.tick? = none)
    (unread : a.isRead = false) (stage : Stage w) :
    Sound fresh (actions ++ [a]) w windows since := by
  obtain ⟨last, once, epochs⟩ := sound.epochs
  refine ⟨⟨?_, ?_, ⟨last, ?_, ?_⟩, ?_, ?_⟩, ?_, stage⟩
  · rw [delivered, sound.delivered]
  · rw [waiting, filterMap_concat, ← sound.lines, List.append_assoc _ v.waiting]
  · rw [stopped, once]
  · rw [epochs, filterMap_concat, early, Option.toList_none, List.append_nil]
  · rw [List.countP_append, sound.reads, stopped, List.countP_singleton, unread]
    rfl
  · intro ended
    exact ⟨(sound.nothingLeft (stopped ▸ ended)).1, stage.waiting_of_stopped ended⟩
  · rw [aggregator, sound.aggregator]

theorem took {line : String} {rest : List Letter}
    (sound : Sound (.new scope interval) actions v windows since)
    (running : v.collector.stopped = false) (found : v.collector.mailbox = .line line :: rest)
    (epoch : Int) (aggregator : w.collector.aggregator = v.collector.aggregator.accept line)
    (letters : w.collector.mailbox = rest) (delivered : w.delivered = v.delivered)
    (running' : w.collector.stopped = false) (handle : w.handle = v.handle) :
    Sound (.new scope interval) (actions ++ [.read epoch]) w windows (since ++ [line]) := by
  have waiting : v.waiting = line :: w.waiting := by
    simp [Service.waiting, found, letters, Letter.line?]
  obtain ⟨last, once, epochs⟩ := sound.epochs
  refine ⟨⟨?_, ?_, ⟨last, ?_, ?_⟩, ?_, ?_⟩, ?_, ?_⟩
  · rw [delivered, work_feed, snapshots_feed, sound.delivered]
  · rw [filterMap_concat, ← sound.lines, waiting]
    simp [Action.line?]
  · rw [running', once, running]
  · rw [epochs, filterMap_concat]
    simp [Action.tick?]
  · rw [List.countP_append, sound.reads, running, running']
    simp [Action.isRead, Nat.add_assoc]
  · simp [running']
  · rw [aggregator, work_feed, run_feed, sound.aggregator]
  · rcases sound.stage.letters_of_running running with ⟨free, before⟩ | ⟨waits, before⟩
    · rw [found, waiting, List.map_cons, List.cons.injEq] at before
      exact .filling running' (handle ▸ free) (letters.trans before.2)
    · rw [found, waiting, List.map_cons, List.cons_append, List.cons.injEq] at before
      exact .closing running' (handle.trans waits) (letters.trans before.2)

theorem of_flush (sound : Sound fresh actions v windows since)
    (running : v.collector.stopped = false) {epoch : Int} (last : Option Int)
    (aggregator : w.collector.aggregator = v.collector.aggregator.reset)
    (delivered : w.delivered =
      v.delivered ++ (v.collector.aggregator.snapshot? epoch).toList)
    (waiting : w.waiting = v.waiting) (noLine : a.line? = none)
    (time : a.tick?.toList ++ last.toList = [epoch]) (once : last.isSome = w.collector.stopped)
    (read : a.isRead = w.collector.stopped) (stage : Stage w) :
    Sound fresh (actions ++ [a]) w (windows ++ [⟨since, epoch⟩]) [] := by
  have lines : (windows ++ [Window.mk since epoch]).flatMap Window.lines ++ [] =
      windows.flatMap Window.lines ++ since := by simp
  obtain ⟨before, never, epochs⟩ := sound.epochs
  refine ⟨⟨?_, ?_, ⟨last, once, ?_⟩, ?_, fun ended => ⟨rfl, stage.waiting_of_stopped ended⟩⟩, ?_,
    stage⟩
  · rw [delivered, work_flush, snapshots_append, snapshots_flush, ← sound.aggregator,
      sound.delivered]
  · rw [lines, waiting, sound.lines, filterMap_concat, noLine, Option.toList_none, List.append_nil]
  · rw [running, Option.isSome_eq_false_iff, Option.isNone_iff_eq_none] at never
    rw [never, Option.toList_none, List.append_nil] at epochs
    rw [List.map_append, epochs, filterMap_concat, List.append_assoc, time]
    rfl
  · rw [lines, List.countP_append, sound.reads, running, List.countP_singleton, read]
    cases w.collector.stopped <;> rfl
  · rw [aggregator, work_flush, run_flush, sound.aggregator]

theorem step (sound : Sound (.new scope interval) actions v windows since) (move : Move v a w) :
    ∃ windows' since', Sound (.new scope interval) (actions ++ [a]) w windows' since' := by
  have same : v.waiting = v.waiting ++ [] := (List.append_nil _).symm
  cases move with
  | fed held line =>
      have running := sound.stage.running_of_held held
      have posted := post_collector running (.line line)
      have waiting : (v.post (.line line)).waiting = v.waiting ++ [line] := by
        simp [Service.waiting, posted, Letter.line?]
      have letters : (v.post (.line line)).collector.mailbox =
          (v.post (.line line)).waiting.map .line := by
        rw [posted, waiting, List.map_append, ← sound.stage.letters_of_held held]
        rfl
      refine ⟨windows, since,
        sound.of_owner ?_ rfl ?_ waiting rfl rfl (.filling ?_ (.inl held) letters)⟩
      · rw [posted]
      · rw [posted]
      · rw [posted, running]
  | stopping held =>
      have running := sound.stage.running_of_held held
      have posted := post_collector running .stop
      have waiting : (v.post .stop).waiting = v.waiting := by
        simp [Service.waiting, posted, Letter.line?]
      have letters : (v.post .stop).collector.mailbox =
          (v.post .stop).waiting.map .line ++ [.stop] := by
        rw [posted, waiting, ← sound.stage.letters_of_held held]
      refine ⟨windows, since,
        sound.of_owner ?_ rfl ?_ (waiting.trans same) rfl rfl (.closing ?_ rfl letters)⟩
      · rw [posted]
      · rw [posted]
      · rw [posted, running]
  | dropped held =>
      have running := sound.stage.running_of_held held
      exact ⟨windows, since, sound.of_owner rfl rfl rfl same rfl rfl
        (.filling running (.inr rfl) (sound.stage.letters_of_held held))⟩
  | took running found epoch => exact ⟨_, _, sound.took running found epoch rfl rfl rfl running rfl⟩
  | ended running found epoch =>
      obtain ⟨empty, rfl, left⟩ := sound.stage.last_letter running found
      exact ⟨_, [], sound.of_flush running (some epoch) rfl rfl empty.symm rfl rfl rfl rfl
        (.done rfl left rfl)⟩
  | ticked running now epoch =>
      refine ⟨_, [], sound.of_flush running none rfl rfl rfl rfl rfl running.symm running.symm ?_⟩
      rcases sound.stage.letters_of_running running with ⟨free, letters⟩ | ⟨waits, letters⟩
      · exact .filling running free letters
      · exact .closing running waits letters
  | joined waits done =>
      have letters := sound.stage.letters_of_stopped done
      exact ⟨windows, since, sound.of_owner rfl rfl rfl same rfl rfl (.done done nofun letters)⟩

end Sound

/-! ## Runs -/

variable {now : Nat}

theorem run?_append (v : Service) (actions more : List Action) :
    v.run? (actions ++ more) = (v.run? actions).bind fun w => w.run? more := by
  induction actions generalizing v with
  | nil => rfl
  | cons a rest ih =>
      rw [List.cons_append, run?, run?, Option.bind_assoc]
      exact Option.bind_congr fun w _ => ih w

theorem sound_start (inRange : (start scope interval now).collector.stopped = false) :
    Sound (.new scope (interval * nanosPerMilli)) [] (start scope interval now) [] [] := by
  refine ⟨⟨rfl, rfl, ⟨none, inRange.symm, rfl⟩, ?_, ?_⟩, rfl, .filling inRange (.inl rfl) rfl⟩
  · rw [inRange]
    rfl
  · simp [inRange]

theorem sound_of_run (inRange : (start scope interval now).collector.stopped = false)
    (ran : (start scope interval now).run? actions = some v) :
    ∃ windows since, Sound (.new scope (interval * nanosPerMilli)) actions v windows since := by
  -- The accounts are of all actions so far, so the induction takes the last action away.
  induction actions using List.reverseRecOn generalizing v with
  | nil =>
      cases ran
      exact ⟨[], [], sound_start inRange⟩
  | append_singleton actions a ih =>
      rw [run?_append] at ran
      obtain ⟨u, before, step⟩ := Option.bind_eq_some_iff.1 ran
      obtain ⟨w, step, done⟩ := Option.bind_eq_some_iff.1 step
      cases done
      obtain ⟨windows, since, sound⟩ := ih before
      exact sound.step (move_of_step step)

theorem Move.of_stopped (move : Move v a w) (stopped : v.collector.stopped = true) :
    w.collector.stopped = true ∧ w.delivered = v.delivered := by
  have kept (l : Letter) : (v.post l).collector = v.collector :=
    Collector.post_of_stopped stopped l
  cases move with
  | fed held line => exact ⟨(congrArg Collector.stopped (kept _)).trans stopped, rfl⟩
  | stopping held => exact ⟨(congrArg Collector.stopped (kept _)).trans stopped, rfl⟩
  | dropped | joined => exact ⟨stopped, rfl⟩
  | took running | ended running | ticked running =>
      rw [stopped] at running
      cases running

theorem run_of_stopped (stopped : v.collector.stopped = true) (ran : v.run? actions = some w) :
    w.collector.stopped = true ∧ w.delivered = v.delivered := by
  induction actions generalizing v with
  | nil =>
      cases ran
      exact ⟨stopped, rfl⟩
  | cons a rest ih =>
      obtain ⟨u, step, later⟩ := Option.bind_eq_some_iff.1 ran
      obtain ⟨stopped', same⟩ := (move_of_step step).of_stopped stopped
      exact same ▸ ih stopped' later

theorem Stage.exists_read (stage : Stage v) (left : v.handle ≠ .held)
    (running : v.collector.stopped = false) (epoch : Int) :
    ∃ w, v.step? (.read epoch) = some w := by
  show ∃ w, v.read? epoch = some w
  unfold read?
  rw [if_neg (by simp [running])]
  cases letters : v.collector.mailbox with
  | cons l rest => exact ⟨_, rfl⟩
  | nil =>
      rcases stage.letters_of_running running with ⟨free, -⟩ | ⟨-, stop⟩
      · exact ⟨_, if_pos (free.resolve_left left)⟩
      · rw [letters] at stop
        cases lines : v.waiting <;> simp [lines] at stop

theorem Stage.stopped_of_returned (stage : Stage v) (returned : v.handle = .returned) :
    v.collector.stopped = true := by
  cases stage with
  | filling _ free =>
      rw [returned] at free
      cases free <;> contradiction
  | closing _ waits =>
      rw [returned] at waits
      cases waits
  | done stopped => exact stopped

theorem start_stopped (scope : String) (interval now : Nat) :
    (start scope interval now).collector.stopped = decide (Clock.range ≤
      now + (Aggregator.new scope (interval * nanosPerMilli)).interval / nanosPerMilli) := rfl

/-- Every run of a service, whenever it reads and ticks. If its first tick is within the range of
the clock, it hands over what its aggregator would make of the lines one by one, with a flush at
each tick and one at the end, when no line is left. Each sample that is taken is reported in one
attempt, and refused lines make no difference. Otherwise it hands over nothing, and yet it can be
stopped. Nothing is handed over after the end. -/
theorem fed_lines_reported_once (ran : (start scope interval now).run? actions = some v) :
    let fresh := Aggregator.new scope (interval * nanosPerMilli)
    let firstTick := now + fresh.interval / nanosPerMilli
    (v.handle = .returned → v.collector.stopped = true) ∧
      (v.collector.stopped = true →
        ∀ later w, v.run? later = some w → w.delivered = v.delivered) ∧
      (firstTick < Clock.range →
        (v.handle ≠ .held → v.collector.stopped = false →
          ∀ epoch, ∃ w, v.step? (.read epoch) = some w) ∧
        ∃ windows since, Accounts fresh actions v windows since ∧
          v.delivered = fresh.snapshots (fresh.heeded (work windows since)) ∧
          v.delivered = (fresh.attempts windows).filterMap Attempt.snapshot ∧
          fresh.broughtIn (windows.flatMap Window.calls) =
            (fresh.attempts windows).flatMap Attempt.samples ∧
          ∀ before a after, fresh.attempts windows = before ++ a :: after →
            a.Reports scope (before.flatMap Attempt.samples)) ∧
      (Clock.range ≤ firstTick →
        v.delivered = [] ∧
          (v.handle = .held → ∃ w, v.run? [.stop, .joined] = some w ∧ w.delivered = [])) := by
  intro fresh firstTick
  have begun : History scope (interval * nanosPerMilli) [] fresh := .start
  refine ⟨fun returned => ?_, fun stopped later w after => (run_of_stopped stopped after).2,
    fun inRange => ?_, fun outOfRange => ?_⟩
  · cases running : (start scope interval now).collector.stopped with
    | true => exact (run_of_stopped running ran).1
    | false =>
        obtain ⟨_, _, sound⟩ := sound_of_run running ran
        exact sound.stage.stopped_of_returned returned
  · have running : (start scope interval now).collector.stopped = false := by
      rw [start_stopped, decide_eq_false_iff_not, not_le]
      exact inRange
    obtain ⟨windows, since, sound⟩ := sound_of_run running ran
    refine ⟨sound.stage.exists_read, windows, since, sound.toAccounts, ?_, ?_, ?_, ?_⟩
    · rw [snapshots_heeded begun, sound.delivered]
    · rw [sound.delivered, work, snapshots_append, snapshots_feeds, List.append_nil,
        attempts_snapshots]
    · exact (attempts_samples fresh windows).symm
    · exact fun before a after => attempts_report begun rfl
  · have stopped : (start scope interval now).collector.stopped = true := by
      rw [start_stopped, decide_eq_true_iff]
      exact outOfRange
    obtain ⟨ended, nothing⟩ := run_of_stopped stopped ran
    refine ⟨nothing, fun held => ?_⟩
    have posted : (v.post .stop).collector.stopped = true := by
      rw [post, Collector.post_of_stopped ended, ended]
    exact ⟨{ v.post .stop with handle := .returned }, by simp [run?, step?, held, posted], nothing⟩

theorem fed_lines_reported_once_stopped : ∃ v,
    (start "a" 1000 0).run? [.feed "x:1|c", .read 0, .tick 1000 1, .feed "x:1", .stop, .read 2,
      .read 3, .joined] = some v ∧
    (∀ later w, v.run? later = some w → w.delivered = v.delivered) ∧
    ∃ windows : List Window, windows.flatMap Window.lines = ["x:1|c", "x:1"] ∧
      (∃ last, windows.map Window.epoch = [1, last]) ∧
      v.delivered = (Aggregator.new "a" (1000 * nanosPerMilli)).snapshots (work windows []) := by
  have made : ((start "a" 1000 0).run? [.feed "x:1|c", .read 0, .tick 1000 1, .feed "x:1", .stop,
      .read 2, .read 3, .joined]).any (fun v => v.collector.stopped) = true := by decide +kernel
  obtain ⟨v, ran, stopped⟩ := (Option.any_eq_true _ _).1 made
  obtain ⟨-, silent, works, -⟩ := fed_lines_reported_once ran
  obtain ⟨-, windows, since, accounts, -⟩ := works (by decide +kernel)
  obtain ⟨rfl, empty⟩ := accounts.nothingLeft stopped
  have lines := accounts.lines
  rw [empty, List.append_nil, List.append_nil] at lines
  obtain ⟨last, once, epochs⟩ := accounts.epochs
  obtain ⟨last, rfl⟩ := Option.isSome_iff_exists.1 (once.trans stopped)
  exact ⟨v, ran, silent stopped, windows, lines, ⟨last, epochs⟩, accounts.delivered⟩

/-- The longest interval that can be asked for, in milliseconds. -/
def longest : Nat := 18446744073709551615 * Clock.millisPerSecond

/-- The first tick of a service is out of range. What it is fed is lost, and its stop flushes
nothing. -/
theorem stopped_without_flush : ∃ v,
    (start "a" longest 0).run? [.feed "x:1|c", .stop, .joined] = some v ∧ v.handle = .returned ∧
      ∀ epoch, v.delivered ≠
        (Aggregator.new "a" (longest * nanosPerMilli)).snapshots [.feed "x:1|c", .flush epoch] := by
  refine ⟨_, rfl, rfl, fun epoch same => ?_⟩
  have kept : ((Aggregator.new "a" (longest * nanosPerMilli)).run
      [.feed "x:1|c"]).2.buffers.isEmpty = false := by decide +kernel
  rw [← List.singleton_append, snapshots_append, snapshots_flush, snapshot?, kept] at same
  have nothing := (List.append_eq_nil_iff.1 same.symm).2
  cases nothing

end Service

end Overseer.Stats
