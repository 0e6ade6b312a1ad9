import Overseer.Proofs.Stats.Service

/-!
# Services on a clock

A collector that is left to a clock reads every letter when it comes and ticks when it is due. That
is one of the runs of a service (`history_served`), which is fed the lines that are posted before
the first stop.
-/

namespace Overseer.Stats

open Collector (Timeline)

def Collector.fedLines : List Collector.Event → List String
  | [] => []
  | .post (.line text) :: rest => text :: fedLines rest
  | .post .stop :: _ => []
  | .advance _ :: rest => fedLines rest

namespace Service

structure Plays (v : Service) (t : Timeline) : Prop where
  collector : v.collector = t.collector
  delivered : v.delivered = t.flushes.map Prod.snd
  settled : t.collector.mailbox = []
  free : v.handle = .held ∨ t.collector.stopped = true

def Goes (v w : Service) (lines : List String) : Prop :=
  ∃ actions, v.run? actions = some w ∧ actions.filterMap Action.line? = lines

variable {u v w : Service} {t : Timeline} {a : Action} {lines more : List String}

theorem Goes.refl (v : Service) : v.Goes v [] := ⟨[], rfl, rfl⟩

theorem Goes.trans (first : u.Goes v lines) (second : v.Goes w more) :
    u.Goes w (lines ++ more) := by
  obtain ⟨actions, ran, fed⟩ := first
  obtain ⟨actions', ran', fed'⟩ := second
  refine ⟨actions ++ actions', ?_, ?_⟩
  · rw [run?_append, ran, Option.bind_some, ran']
  · rw [List.filterMap_append, fed, fed']

theorem goes_of_step (step : v.step? a = some w) : v.Goes w a.line?.toList := by
  refine ⟨[a], ?_, ?_⟩
  · rw [run?, step]
    rfl
  · cases line : a.line? <;> simp [line]

theorem deliver_plays (delivered : v.delivered = t.flushes.map Prod.snd)
    (r : Option Snapshot × Collector) (settled : r.2.mailbox = [])
    (free : v.handle = .held ∨ r.2.stopped = true) : (v.deliver r).Plays (t.note r) := by
  refine ⟨rfl, ?_, settled, free⟩
  show v.delivered ++ r.1.toList = (t.flushes ++ r.1.toList.map fun s => (t.now, s)).map Prod.snd
  rw [delivered, List.map_append, List.map_map]
  exact congrArg _ (List.map_id _).symm

theorem Plays.of_time (plays : v.Plays t) (now : Nat) : v.Plays { t with now } :=
  ⟨plays.collector, plays.delivered, plays.settled, plays.free⟩

theorem Plays.advanceTo (plays : v.Plays t) (goal fuel : Nat) :
    ∃ w, v.Goes w [] ∧ w.Plays (t.advanceTo goal fuel) ∧ w.handle = v.handle := by
  induction fuel generalizing v t with
  | zero => exact ⟨v, .refl v, plays.of_time goal, rfl⟩
  | succ fuel ih =>
      unfold Timeline.advanceTo
      split
      · rename_i due
        have step : v.step? (.tick goal (t.collector.nextTick * nanosPerMilli)) =
            some (v.deliver (t.collector.tick (t.collector.nextTick * nanosPerMilli))) := by
          rw [step?, plays.collector, if_pos due]
        have ticked := deliver_plays (plays.of_time t.collector.nextTick).delivered
          (t.collector.tick (t.collector.nextTick * nanosPerMilli)) plays.settled plays.free
        obtain ⟨w, goes, plays', handle⟩ := ih ticked
        exact ⟨w, (goes_of_step step).trans goes, plays', handle⟩
      · exact ⟨v, .refl v, plays.of_time goal, rfl⟩

theorem step_post_of_stopped (stopped : t.collector.stopped = true)
    (settled : t.collector.mailbox = []) (l : Letter) : t.step (.post l) = t := by
  simp [Timeline.step, Collector.post_of_stopped stopped, settled, Timeline.drain]

theorem step_post_of_running (running : t.collector.stopped = false)
    (settled : t.collector.mailbox = []) (l : Letter) :
    t.step (.post l) = t.note ((t.collector.post l).receive (t.now * nanosPerMilli)) := by
  simp [Timeline.step, Collector.post_of_running running, settled, Timeline.drain, Timeline.note]

theorem read_posted {l : Letter} (running : t.collector.stopped = false)
    (settled : t.collector.mailbox = []) (posted : u.collector = t.collector.post l)
    (delivered : u.delivered = t.flushes.map Prod.snd) (free : u.handle = .held ∨ l = .stop) :
    ∃ w, u.Goes w [] ∧ w.Plays (t.step (.post l)) ∧ w.handle = u.handle := by
  have mailbox : u.collector.mailbox = [l] := by
    rw [posted, Collector.post_of_running running, settled]
    rfl
  have running' : u.collector.stopped = false := by
    rw [posted, Collector.post_of_running running, running]
  have step : u.step? (.read (t.now * nanosPerMilli)) =
      some (u.deliver (u.collector.receive (t.now * nanosPerMilli))) := by
    rw [step?, read?, running', mailbox]
    rfl
  refine ⟨_, goes_of_step step, ?_, rfl⟩
  rw [step_post_of_running running settled, ← posted]
  refine deliver_plays delivered _ ?_ ?_
  · cases l with
    | line text => rw [Collector.receive_line running' mailbox]
    | stop => rw [Collector.receive_stop running' mailbox]
  · cases l with
    | line text => exact .inl (free.resolve_right (by simp))
    | stop =>
        rw [Collector.receive_stop running' mailbox]
        exact .inr rfl

theorem Plays.line (plays : v.Plays t) (held : v.handle = .held) (text : String) :
    ∃ w, v.Goes w [text] ∧ w.Plays (t.step (.post (.line text))) ∧ w.handle = .held := by
  have fed : v.Goes (v.post (.line text)) [text] := goes_of_step (a := .feed text) (if_pos held)
  have posted : (v.post (.line text)).collector = t.collector.post (.line text) :=
    congrArg (Collector.post · _) plays.collector
  cases running : t.collector.stopped with
  | true =>
      rw [step_post_of_stopped running plays.settled]
      rw [Collector.post_of_stopped running] at posted
      exact ⟨_, fed, ⟨posted, plays.delivered, plays.settled, .inl held⟩, held⟩
  | false =>
      obtain ⟨w, read, plays', handle⟩ :=
        read_posted running plays.settled posted plays.delivered (.inl held)
      exact ⟨w, fed.trans read, plays', handle.trans held⟩

theorem Plays.stop (plays : v.Plays t) (held : v.handle = .held) :
    ∃ w, v.Goes w [] ∧ w.Plays (t.step (.post .stop)) ∧ w.handle ≠ .held := by
  have asked : v.Goes { v.post .stop with handle := .stopping } [] :=
    goes_of_step (a := .stop) (if_pos held)
  have posted : ({ v.post .stop with handle := .stopping } : Service).collector =
      t.collector.post .stop := congrArg (Collector.post · _) plays.collector
  cases running : t.collector.stopped with
  | true =>
      rw [step_post_of_stopped running plays.settled]
      rw [Collector.post_of_stopped running] at posted
      exact ⟨_, asked, ⟨posted, plays.delivered, plays.settled, .inr running⟩, nofun⟩
  | false =>
      obtain ⟨w, read, plays', handle⟩ :=
        read_posted running plays.settled posted plays.delivered (.inr rfl)
      exact ⟨w, asked.trans read, plays', handle ▸ nofun⟩

theorem Plays.after (plays : v.Plays t) (left : v.handle ≠ .held) (events : List Collector.Event) :
    ∃ w, v.Goes w [] ∧ w.Plays (events.foldl Timeline.step t) := by
  induction events generalizing v t with
  | nil => exact ⟨v, .refl v, plays⟩
  | cons e rest ih =>
      cases e with
      | post l =>
          have same := step_post_of_stopped (plays.free.resolve_left left) plays.settled l
          rw [List.foldl_cons, same]
          exact ih plays left
      | advance ms =>
          obtain ⟨u, goes, plays', handle⟩ := plays.advanceTo (t.now + ms) (ms + 1)
          obtain ⟨w, goes', plays''⟩ := ih plays' (handle ▸ left)
          exact ⟨w, goes.trans goes', plays''⟩

theorem Plays.foldl (plays : v.Plays t) (held : v.handle = .held)
    (events : List Collector.Event) :
    ∃ w, v.Goes w (Collector.fedLines events) ∧ w.Plays (events.foldl Timeline.step t) := by
  induction events generalizing v t with
  | nil => exact ⟨v, .refl v, plays⟩
  | cons e rest ih =>
      cases e with
      | post l =>
          cases l with
          | line text =>
              obtain ⟨u, goes, plays', held'⟩ := plays.line held text
              obtain ⟨w, goes', plays''⟩ := ih plays' held'
              exact ⟨w, goes.trans goes', plays''⟩
          | stop =>
              obtain ⟨u, goes, plays', left⟩ := plays.stop held
              obtain ⟨w, goes', plays''⟩ := plays'.after left rest
              exact ⟨w, goes.trans goes', plays''⟩
      | advance ms =>
          obtain ⟨u, goes, plays', handle⟩ := plays.advanceTo (t.now + ms) (ms + 1)
          obtain ⟨w, goes', plays''⟩ := ih plays' (handle.trans held)
          exact ⟨w, goes.trans goes', plays''⟩

theorem history_served (scope : String) (interval : Nat) (events : List Collector.Event) :
    ∃ actions v, (start scope interval 0).run? actions = some v ∧
      actions.filterMap Action.line? = Collector.fedLines events ∧
      (Collector.history scope interval events).map Prod.snd = v.delivered := by
  have begun : (start scope interval 0).Plays ⟨0, .start scope interval 0, []⟩ :=
    ⟨rfl, rfl, rfl, .inl rfl⟩
  obtain ⟨v, ⟨actions, ran, fed⟩, plays⟩ := begun.foldl rfl events
  exact ⟨actions, v, ran, fed, plays.delivered.symm⟩

end Service

end Overseer.Stats
