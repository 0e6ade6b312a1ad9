import Overseer.Proofs.Manager.Handlers
import Overseer.Proofs.Manager.Tasks
import Overseer.Proofs.Manager.Tokens

/-!
# Where the commands are

A command that the manager has taken on is at one of several places, from the submissions that wait
in line to the runner of its job. `contents` says what is at a place. A step that neither takes a
command on nor takes one to another place leaves all of them as they are.
-/

namespace Overseer.Manager

inductive Place where
  | line
  | inbox
  | lane (name : String)
  | hand
  | output
  | admission
  | running (i : Nat)
  | finished (i : Nat)
  | rejected
  deriving DecidableEq, Repr

structure Errand where
  command : Command
  origin : Runner.Origin

def Errand.queued (c : Command) : Errand := ⟨c, .released⟩

def Admission.errands : Admission → List Errand
  | .holding c origin => [⟨c, origin⟩]
  | _ => []

namespace Queue

def lane (q : Queue) (name : String) : List Command := (q.lanes.lookup name).getD []

structure Alike (q q' : Queue) : Prop where
  inbox : q'.inbox = q.inbox
  hand : q'.hand = q.hand
  output : q'.output = q.output
  started : q'.started = q.started
  dispatching : q'.dispatching = q.dispatching
  producing : q'.producing = q.producing

theorem signal_alike (q : Queue) (n : String) : q.Alike (q.signal n) := by
  unfold signal
  split <;> exact ⟨rfl, rfl, rfl, rfl, rfl, rfl⟩

theorem lanes_signal (q : Queue) (n : String) : (q.signal n).lanes = q.lanes := by
  unfold signal
  split <;> rfl

theorem notify_alike (q : Queue) (n : String) : q.Alike (q.notify n) := by
  unfold notify
  split
  · exact ⟨rfl, rfl, rfl, rfl, rfl, rfl⟩
  · exact q.signal_alike n

theorem lanes_notify (q : Queue) (n : String) : (q.notify n).lanes = q.lanes := by
  unfold notify
  split
  · rfl
  · exact q.lanes_signal n

theorem release_alike (q : Queue) (c : Command) (origin : Runner.Origin) :
    q.Alike (if origin = .released then q.notify c.queue else q) := by
  split
  · exact q.notify_alike _
  · exact ⟨rfl, rfl, rfl, rfl, rfl, rfl⟩

theorem lanes_release (q : Queue) (c : Command) (origin : Runner.Origin) :
    (if origin = .released then q.notify c.queue else q).lanes = q.lanes := by
  split
  · exact q.lanes_notify _
  · rfl

theorem enqueue_alike (q : Queue) (c : Command) : q.Alike (q.enqueue c) := by
  rw [enqueue_eq]
  split
  · exact ⟨rfl, rfl, rfl, rfl, rfl, rfl⟩
  · have alike := (q.openLane c).signal_alike c.queue
    exact ⟨alike.inbox, alike.hand, alike.output, alike.started, alike.dispatching, alike.producing⟩

theorem pop_alike (q : Queue) (n : String) : { q with hand := (q.pop n).hand }.Alike (q.pop n) := by
  unfold pop
  split <;> exact ⟨rfl, rfl, rfl, rfl, rfl, rfl⟩

theorem lane_enqueue (q : Queue) (c : Command) (name : String) :
    (q.enqueue c).lane name = if name = c.queue then q.lane name ++ [c] else q.lane name := by
  rw [enqueue_eq]
  split
  · rename_i waiting found
    rw [lane, lane, extendLane, lookup_setLane]
    by_cases same : name = c.queue
    · simp [same, found]
    · simp [same]
  · rename_i missing
    rw [lane, lane, lanes_signal, openLane, List.lookup_append, Table.lookup_cons, List.lookup_nil]
    by_cases same : name = c.queue
    · simp [same, missing]
    · simp [same]

theorem lane_pop_other (q : Queue) {n name : String} (other : name ≠ n) :
    (q.pop n).lane name = q.lane name := by
  unfold pop
  split
  · rfl
  · simp only [lane, lookup_setLane, if_neg other]
  · simp only [lane, Table.lookup_filter, if_neg other]

theorem pop_cases (q : Queue) (free : q.hand = none) (n : String) :
    (q.lane n = [] ∧ (q.pop n).hand = none ∧ (q.pop n).lane n = []) ∨
      ∃ c, q.lane n = c :: (q.pop n).lane n ∧ (q.pop n).hand = some c := by
  unfold pop
  split
  · rename_i missing
    exact .inl ⟨by simp [lane, missing], free, by simp [lane, missing]⟩
  · rename_i c rest found
    exact .inr ⟨c, by simp [lane, lookup_setLane, found], rfl⟩
  · rename_i empty
    exact .inl ⟨by simp [lane, empty], free, by simp [lane, Table.lookup_filter]⟩

end Queue

namespace System

def standing (s : System) : List (Errand × Option JobResult) :=
  s.runners.map fun r => (⟨r.command, r.origin⟩, r.reported?)

def contents (s : System) : Place → List Errand
  | .line => s.commands.map fun c => ⟨c, .admitted⟩
  | .inbox => s.queue.inbox.map .queued
  | .lane name => (s.queue.lane name).map .queued
  | .hand => s.queue.hand.toList.map .queued
  | .output => s.queue.output.map .queued
  | .admission => s.admission.errands
  | .running i =>
      match s.standing[i]? with
      | some (e, none) => [e]
      | _ => []
  | .finished i =>
      match s.standing[i]? with
      | some (e, some _) => [e]
      | _ => []
  | .rejected => []

def Served (s : System) : Place → Prop
  | .line | .output => s.admission ≠ .stopped
  | .inbox => s.queue.started = true → s.queue.dispatching = true
  | .hand => s.queue.started = true → s.queue.producing = true
  | .rejected => False
  | _ => True

def Keeps (s next : System) (p : Place) : Prop :=
  next.Served p → s.Served p ∧ next.contents p = s.contents p

variable {config : Config} {dawn : Int} {s next : System} {act : Action}

theorem keeps_inbox (inbox : next.queue.inbox = s.queue.inbox)
    (started : next.queue.started = s.queue.started)
    (dispatching : next.queue.dispatching = s.queue.dispatching) : s.Keeps next .inbox := by
  simp only [Keeps, Served, contents, started, dispatching, inbox, and_true]
  exact id

theorem keeps_hand (hand : next.queue.hand = s.queue.hand)
    (started : next.queue.started = s.queue.started)
    (producing : next.queue.producing = s.queue.producing) : s.Keeps next .hand := by
  simp only [Keeps, Served, contents, started, producing, hand, and_true]
  exact id

theorem keeps_output (output : next.queue.output = s.queue.output)
    (stopped : next.admission ≠ .stopped → s.admission ≠ .stopped) : s.Keeps next .output :=
  fun served => ⟨stopped served, by simp only [contents, output]⟩

theorem keeps_lane {name : String} (lane : next.queue.lane name = s.queue.lane name) :
    s.Keeps next (.lane name) :=
  fun _ => ⟨trivial, by simp only [contents, lane]⟩

theorem keeps_of_parts (line : s.Keeps next .line) (inbox : s.Keeps next .inbox)
    (hand : s.Keeps next .hand) (output : s.Keeps next .output)
    (lanes : next.queue.lanes = s.queue.lanes)
    (errands : next.admission.errands = s.admission.errands)
    (standing : next.standing = s.standing) : ∀ p, s.Keeps next p
  | .line => line
  | .inbox => inbox
  | .hand => hand
  | .output => output
  | .lane _ => keeps_lane (by simp only [Queue.lane, lanes])
  | .admission => fun _ => ⟨trivial, errands⟩
  | .running _ | .finished _ => fun _ => ⟨trivial, by simp only [contents, standing]⟩
  | .rejected => fun served => ⟨served, rfl⟩

theorem keeps_of_eq (commands : next.commands = s.commands) (queue : s.queue.Alike next.queue)
    (lanes : next.queue.lanes = s.queue.lanes)
    (errands : next.admission.errands = s.admission.errands)
    (stopped : next.admission ≠ .stopped → s.admission ≠ .stopped)
    (standing : next.standing = s.standing) : ∀ p, s.Keeps next p := by
  refine keeps_of_parts (fun served => ⟨stopped served, ?_⟩)
    (keeps_inbox queue.inbox queue.started queue.dispatching)
    (keeps_hand queue.hand queue.started queue.producing) (keeps_output queue.output stopped)
    lanes errands standing
  simp only [contents, commands]

theorem standing_length (s : System) : s.standing[s.runners.length]? = none :=
  List.getElem?_eq_none (by simp [standing])

theorem standing_set {i : Nat} {r r' : Runner} (found : s.runners[i]? = some r)
    (runners : next.runners = s.runners.set i r') (command : r'.command = r.command)
    (origin : r'.origin = r.origin) (reported : r'.reported? = r.reported?) :
    next.standing = s.standing := by
  rw [standing, standing, runners, map_set_eq found]
  rw [command, origin, reported]

theorem standing_askToEnd (asked : Nat → Bool) :
    System.standing { s with runners := askToEnd asked s.runners } = s.standing :=
  map_askToEnd (fun _ _ => rfl) asked s.runners

/-! ## Steps that carry nothing -/

def moves (s : System) (act : Action) : Bool :=
  match act with
  | .enter _ | .dispatch | .produce | .deliver | .takeDirect | .takeReleased | .enroll
  | .runner _ .report => true
  | act => (s.direct? act).isSome

theorem keeps_of_idle (wired : s.Wired) (step : s.step? act = some next)
    (idle : s.moves act = false) : ∀ p, s.Keeps next p := by
  have same : s.queue.Alike s.queue := ⟨rfl, rfl, rfl, rfl, rfl, rfl⟩
  by_cases entering : ∃ n i, act = .entry n i
  · obtain ⟨n, i, rfl⟩ := entering
    have unheard := Option.isNone_iff_eq_none.1 (by simpa [moves] using idle)
    obtain ⟨slices, rfl⟩ := entry_given_up unheard step
    exact keeps_of_eq rfl same rfl rfl id rfl
  cases move_of_step step with
  | aside | push => exact keeps_of_eq rfl same rfl rfl id rfl
  | cancel => exact keeps_of_eq rfl ⟨rfl, rfl, rfl, rfl, rfl, rfl⟩ rfl rfl id rfl
  | start fresh =>
      -- Nobody can have stopped before the start, and nothing is with the admission.
      have off := wired.off_iff.2 fresh
      unfold Queue.start
      split
      · exact keeps_of_eq rfl same rfl (by rw [off]; rfl) (by simp [off]) rfl
      · rename_i resting
        refine keeps_of_parts ?_ ?_ ?_ ?_ rfl (by rw [off]; rfl) rfl <;>
          simp [Keeps, Served, contents, off, resting]
  | kill => exact keeps_of_eq rfl same rfl rfl id (standing_askToEnd _)
  | @run act c factory hooks slices direct known free =>
      cases act with
      | call c =>
          cases c with
          | run => cases idle
          | _ => cases direct
      | entry n i => exact absurd ⟨n, i, rfl⟩ entering
      | _ => cases direct
  | @work i r r' work effects slices log found rule staying =>
      have silent : work ≠ .report := fun report => by
        rw [report] at idle
        cases idle
      exact keeps_of_eq rfl same rfl rfl id
        (standing_set found rfl rule.command_eq rule.origin_eq (rule.reported?_eq silent))
  | leave found phase | publish found phase =>
      exact keeps_of_eq rfl same rfl rfl id
        (standing_set found rfl rfl rfl (by simp [Runner.reported?, phase, Runner.Phase.epilogue?]))
  | @release i r result found phase =>
      exact keeps_of_eq rfl (s.queue.release_alike _ _) (s.queue.lanes_release _ _) rfl id
        (standing_set found rfl rfl rfl (by simp [Runner.reported?, phase, Runner.Phase.epilogue?]))
  | @awaken i r result found phase =>
      have errands : s.admission.awoken.errands = s.admission.errands := by
        cases s.admission <;> rfl
      have stopped : s.admission.awoken ≠ .stopped → s.admission ≠ .stopped := by
        cases s.admission <;> simp [Admission.awoken]
      exact keeps_of_eq rfl same rfl errands stopped
        (standing_set found rfl rfl rfl (by simp [Runner.reported?, phase, Runner.Phase.epilogue?]))
  | stopDispatcher work =>
      -- What the dispatcher has not seen is lost, but it is nobody's any more.
      unfold Queue.stopDispatcher? at work
      split at work <;> cases work
      rename_i asked
      simp only [Bool.and_eq_true] at asked
      have started := wired.started.trans (wired.working (.inl asked.2))
      exact keeps_of_parts (fun served => ⟨served, rfl⟩)
        (fun served => absurd (served started) (by simp)) (fun served => ⟨served, rfl⟩)
        (fun served => ⟨served, rfl⟩) rfl rfl rfl
  | stopProducer work =>
      unfold Queue.stopProducer? at work
      split at work <;> cases work
      rename_i asked
      simp only [Bool.and_eq_true] at asked
      have started := wired.started.trans (wired.working (.inr asked.2))
      exact keeps_of_parts (fun served => ⟨served, rfl⟩) (fun served => ⟨served, rfl⟩)
        (fun served => absurd (served started) (by simp)) (fun served => ⟨served, rfl⟩) rfl rfl rfl
  | stopAdmission cancelled rests =>
      have errands : s.stopAdmission.admission.errands = s.admission.errands := by
        unfold admissionRests at rests
        split at rests
        · simp_all [System.stopAdmission, Admission.errands]
        all_goals simp_all [System.stopAdmission, Admission.errands]
      exact keeps_of_parts (fun served => absurd rfl served) (fun served => ⟨served, rfl⟩)
        (fun served => ⟨served, rfl⟩) (fun served => absurd rfl served) rfl errands rfl
  | arm before | countRoom before | countFull before | wake before =>
      exact keeps_of_eq rfl same rfl (by rw [before]; rfl) (by simp [before]) rfl
  | _ => cases idle

/-! ## What stays -/

theorem reported_stays (step : s.step? act = some next) {i : Nat} {e : Errand} {result : JobResult}
    (reported : s.standing[i]? = some (e, some result)) :
    next.standing[i]? = some (e, some result) := by
  have bound : i < s.standing.length := (List.getElem?_eq_some_iff.1 reported).1
  cases move_of_step step with
  | kill =>
      rw [standing_askToEnd]
      exact reported
  | run direct known free | enroll holding known free =>
      simp only [standing, join, List.map_append]
      rwa [List.getElem?_append_left (by simpa [standing] using bound)]
  | @work j r r' work effects slices log found rule staying =>
      by_cases silent : work = .report
      · -- Another runner reports: this one has done so before.
        have elsewhere : j ≠ i := by
          rintro rfl
          subst silent
          cases rule with
          | report phase =>
              simp [standing, found, Runner.reported?, phase, Runner.Phase.epilogue?] at reported
        simp only [standing, List.map_set]
        rwa [List.getElem?_set_ne elsewhere]
      · rw [standing_set found rfl rule.command_eq rule.origin_eq (rule.reported?_eq silent)]
        exact reported
  | leave found phase | release found phase | awaken found phase | publish found phase =>
      refine (congrArg (fun standing => standing[i]?) ?_).trans reported
      exact standing_set found rfl rfl rfl
        (by simp [Runner.reported?, phase, Runner.Phase.epilogue?])
  | _ => exact reported

end System

namespace Queue

theorem map_fst_setLane (name : String) (lane : List Command)
    (lanes : List (String × List Command)) :
    (setLane name lane lanes).map Prod.fst = lanes.map Prod.fst := by
  induction lanes with
  | nil => rfl
  | cons l rest ih =>
      unfold setLane
      split
      · rfl
      · rw [List.map_cons, List.map_cons, ih]

def Apart (q : Queue) : Prop := (q.lanes.map Prod.fst).Nodup

theorem Apart.dispatch {q next : Queue} (apart : q.Apart) (work : q.dispatch? = some next) :
    next.Apart := by
  unfold dispatch? at work
  split at work <;> cases work
  rw [enqueue_eq]
  split
  · rw [Apart, extendLane, map_fst_setLane]
    exact apart
  · rename_i missing
    rw [Apart, lanes_signal, openLane, List.map_append]
    refine List.nodup_append.2 ⟨apart, by simp, fun n listed n' new same => ?_⟩
    obtain ⟨l, member, rfl⟩ := List.mem_map.1 listed
    rw [List.map_singleton, List.mem_singleton] at new
    exact absurd (List.lookup_eq_none_iff.1 missing l member) (by simp [same, new])

theorem Apart.produce {q next : Queue} (apart : q.Apart) (work : q.produce? = some next) :
    next.Apart := by
  unfold produce? at work
  split at work <;> cases work
  unfold pop
  split
  · exact apart
  · rw [Apart, map_fst_setLane]
    exact apart
  · exact apart.sublist (List.filter_sublist.map _)

end Queue

namespace System

variable {config : Config} {dawn : Int} {s next : System} {act : Action}

theorem Move.apart (move : Move s act next) (apart : s.queue.Apart) : next.queue.Apart := by
  cases move with
  | start =>
      unfold Queue.start
      split <;> exact apart
  | enterQueue =>
      unfold Queue.push
      split
      · exact apart
      · split <;> exact apart
  | dispatch work => exact apart.dispatch work
  | produce work => exact apart.produce work
  | deliver work =>
      unfold Queue.deliver? at work
      split at work
      · split at work
        · cases work
          exact apart
        · split at work <;> cases work
          exact apart
      · cases work
  | stopDispatcher work =>
      unfold Queue.stopDispatcher? at work
      split at work <;> cases work
      exact apart
  | stopProducer work =>
      unfold Queue.stopProducer? at work
      split at work <;> cases work
      exact apart
  | takeReleased ready work =>
      unfold Queue.take? at work
      split at work <;> cases work
      exact apart
  | release | reject =>
      rw [Queue.Apart, Queue.lanes_release]
      exact apart
  | _ => exact apart

theorem apart (reach : Reachable config dawn s) : s.queue.Apart := by
  induction reach with
  | new => exact List.nodup_nil
  | next _ step ih => exact (move_of_step step).apart ih

end System

end Overseer.Manager
