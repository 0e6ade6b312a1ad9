import Mathlib
import Overseer.Manager.Queue
import Overseer.Proofs.Table

/-!
# The tokens of the queue manager

For every lane there is one token on its way: a signal, or a command that left the lane and whose
end has not been told yet. `Balanced` counts the tokens that the queue manager holds together with
those that are out, and each of its steps keeps the account.
-/

namespace Overseer.Manager.Queue

def laneCount (q : Queue) (name : String) : Nat := if (q.lanes.lookup name).isSome then 1 else 0

def tokens (q : Queue) (name : String) : Nat :=
  q.signals.count name + (q.hand.toList ++ q.output).countP fun c => c.queue == name

structure Orderly (q : Queue) : Prop where
  sorted : ∀ {name lane}, (name, lane) ∈ q.lanes → ∀ c ∈ lane, c.queue = name
  alive : q.cancelled = false →
    q.outputOpen = true ∧ (q.started = true → q.dispatching = true ∧ q.producing = true)

/-- A lane has one token, and only after the queue manager was asked to end can it get lost. -/
structure Balanced (q : Queue) (name : String) (out : Nat) : Prop where
  le : q.tokens name + out ≤ q.laneCount name
  eq : q.cancelled = false → q.tokens name + out = q.laneCount name

variable {q next : Queue} {name : String} {out out' : Nat}

theorem laneCount_le (q : Queue) (name : String) : q.laneCount name ≤ 1 := by
  unfold laneCount
  split <;> omega

/-! ## Lanes -/

theorem lookup_setLane (name other : String) (lane : List Command)
    (lanes : List (String × List Command)) :
    (setLane name lane lanes).lookup other =
      if other = name then (lanes.lookup name).map fun _ => lane else lanes.lookup other := by
  induction lanes with
  | nil => simp [setLane]
  | cons l rest ih =>
      obtain ⟨n, l⟩ := l
      unfold setLane
      by_cases here : n = name
      · subst here
        by_cases same : other = n <;> simp [Table.lookup_cons, same]
      · rw [if_neg here, Table.lookup_cons, Table.lookup_cons, Table.lookup_cons, ih]
        by_cases same : other = name
        · subst same
          simp [Ne.symm here]
        · simp [same]

theorem mem_setLane {name n : String} {lane l : List Command}
    {lanes : List (String × List Command)} (member : (n, l) ∈ setLane name lane lanes) :
    (n, l) ∈ lanes ∨ (n, l) = (name, lane) := by
  induction lanes with
  | nil => cases member
  | cons first rest ih =>
      unfold setLane at member
      split at member
      · rename_i here
        rcases List.mem_cons.1 member with new | old
        · exact .inr (new.trans (by rw [here]))
        · exact .inl (List.mem_cons_of_mem _ old)
      · rcases List.mem_cons.1 member with old | later
        · exact .inl (old ▸ List.mem_cons_self)
        · exact (ih later).imp_left (List.mem_cons_of_mem _)

/-! ## The account -/

theorem Balanced.le_one (balanced : q.Balanced name out) : q.tokens name + out ≤ 1 :=
  Nat.le_trans balanced.le (q.laneCount_le name)

theorem Balanced.move (balanced : q.Balanced name out) (cancelled : next.cancelled = q.cancelled)
    (kept : next.tokens name + out' + q.laneCount name =
      q.tokens name + out + next.laneCount name) :
    next.Balanced name out' := by
  refine ⟨?_, fun going => ?_⟩
  · have := balanced.le
    omega
  · have := balanced.eq (cancelled ▸ going)
    omega

theorem Balanced.lose (balanced : q.Balanced name out) (cancelled : next.cancelled = true)
    (lanes : q.laneCount name ≤ next.laneCount name)
    (fewer : next.tokens name + out' ≤ q.tokens name + out) : next.Balanced name out' := by
  refine ⟨?_, fun going => absurd going (by simp [cancelled])⟩
  exact Nat.le_trans fewer (Nat.le_trans balanced.le lanes)

theorem Orderly.cancelled_of_silent (orderly : q.Orderly)
    (silent : (q.started && !q.producing) = true) : q.cancelled = true := by
  refine eq_true_of_ne_false fun going => ?_
  simp only [Bool.and_eq_true, Bool.not_eq_true'] at silent
  have working := ((orderly.alive going).2 silent.1).2
  simp [silent.2] at working

theorem Orderly.cancelled_of_closed (orderly : q.Orderly) (closed : q.outputOpen = false) :
    q.cancelled = true := by
  refine eq_true_of_ne_false fun going => ?_
  have opened := (orderly.alive going).1
  simp [closed] at opened

theorem Orderly.congr (orderly : q.Orderly) (lanes : next.lanes = q.lanes)
    (alive : next.cancelled = false → next.outputOpen = true ∧
      (next.started = true → next.dispatching = true ∧ next.producing = true)) :
    next.Orderly :=
  ⟨by rw [lanes]; exact orderly.sorted, alive⟩

/-! ## Signals -/

theorem signal_of_silent (silent : (q.started && !q.producing) = true) (n : String) :
    q.signal n = q := if_pos silent

theorem signal_of_working (working : (q.started && !q.producing) = false) (n : String) :
    q.signal n = { q with signals := q.signals ++ [n] } := if_neg (by simp [working])

theorem Orderly.signal (orderly : q.Orderly) (n : String) : (q.signal n).Orderly := by
  cases silent : q.started && !q.producing with
  | true =>
      rw [signal_of_silent silent]
      exact orderly
  | false =>
      rw [signal_of_working silent]
      exact orderly.congr rfl orderly.alive

theorem Balanced.signal (orderly : q.Orderly) {n : String}
    (balanced : q.Balanced name (out + if n = name then 1 else 0)) :
    (q.signal n).Balanced name out := by
  cases silent : q.started && !q.producing with
  | true =>
      rw [signal_of_silent silent]
      exact balanced.lose (orderly.cancelled_of_silent silent) (Nat.le_refl _) (by omega)
  | false =>
      rw [signal_of_working silent]
      refine balanced.move rfl ?_
      simp only [tokens, laneCount, List.count_append, List.count_singleton, beq_iff_eq]
      omega

theorem Orderly.notify (orderly : q.Orderly) (n : String) : (q.notify n).Orderly := by
  unfold Queue.notify
  split
  · exact orderly
  · exact orderly.signal n

theorem Balanced.notify (orderly : q.Orderly) (named : name ≠ "") {n : String}
    (balanced : q.Balanced name (out + if n = name then 1 else 0)) :
    (q.notify n).Balanced name out := by
  unfold Queue.notify
  split
  · rename_i unnamed
    have other : n ≠ name := fun same => named (same ▸ String.isEmpty_iff.1 unnamed)
    rwa [if_neg other] at balanced
  · exact balanced.signal orderly

/-! ## The dispatcher -/

theorem Orderly.of_lookup (orderly : q.Orderly) {lane : List Command}
    (found : q.lanes.lookup name = some lane) : ∀ c ∈ lane, c.queue = name := by
  obtain ⟨before, after, lanes, -⟩ := List.lookup_eq_some_iff.1 found
  exact orderly.sorted (by rw [lanes]; exact List.mem_append_right _ List.mem_cons_self)

def openLane (q : Queue) (c : Command) : Queue := { q with lanes := q.lanes ++ [(c.queue, [c])] }

def extendLane (q : Queue) (c : Command) (lane : List Command) : Queue :=
  { q with lanes := setLane c.queue (lane ++ [c]) q.lanes }

theorem enqueue_eq (q : Queue) (c : Command) :
    q.enqueue c = match q.lanes.lookup c.queue with
      | some lane => q.extendLane c lane
      | none => (q.openLane c).signal c.queue := rfl

theorem Orderly.openLane (orderly : q.Orderly) (c : Command) : (q.openLane c).Orderly := by
  refine ⟨fun member d inside => ?_, orderly.alive⟩
  rcases List.mem_append.1 member with old | new
  · exact orderly.sorted old d inside
  · cases List.mem_singleton.1 new
    rw [List.mem_singleton.1 inside]

theorem Orderly.extendLane (orderly : q.Orderly) {c : Command} {lane : List Command}
    (found : q.lanes.lookup c.queue = some lane) : (q.extendLane c lane).Orderly := by
  refine ⟨fun member d inside => ?_, orderly.alive⟩
  rcases mem_setLane member with old | new
  · exact orderly.sorted old d inside
  · cases new
    rcases List.mem_append.1 inside with earlier | last
    · exact orderly.of_lookup found d earlier
    · rw [List.mem_singleton.1 last]

theorem Balanced.openLane (balanced : q.Balanced name out) {c : Command}
    (missing : q.lanes.lookup c.queue = none) :
    (q.openLane c).Balanced name (out + if c.queue = name then 1 else 0) := by
  refine balanced.move rfl ?_
  have lanes : (q.openLane c).laneCount name =
      q.laneCount name + if c.queue = name then 1 else 0 := by
    simp only [laneCount, Queue.openLane, List.lookup_append, Table.lookup_cons, List.lookup_nil]
    by_cases same : c.queue = name
    · subst same
      simp [missing]
    · rw [if_neg same, if_neg (Ne.symm same), Option.or_none, Nat.add_zero]
  rw [lanes, show (q.openLane c).tokens name = q.tokens name from rfl]
  omega

theorem Balanced.extendLane (balanced : q.Balanced name out) {c : Command} {lane : List Command}
    (found : q.lanes.lookup c.queue = some lane) : (q.extendLane c lane).Balanced name out := by
  refine balanced.move rfl ?_
  have lanes : (q.extendLane c lane).laneCount name = q.laneCount name := by
    unfold laneCount Queue.extendLane
    simp only [lookup_setLane]
    by_cases same : name = c.queue
    · rw [if_pos same, same, found]
      rfl
    · rw [if_neg same]
  rw [lanes, show (q.extendLane c lane).tokens name = q.tokens name from rfl]

theorem Orderly.dispatch (orderly : q.Orderly) (work : q.dispatch? = some next) :
    next.Orderly := by
  unfold dispatch? at work
  split at work
  · cases work
    rename_i c rest _ _
    have orderly : Orderly { q with inbox := rest } := orderly.congr rfl orderly.alive
    rw [enqueue_eq]
    split
    · exact orderly.extendLane ‹_›
    · exact (orderly.openLane c).signal _
  · cases work

theorem Balanced.dispatch (orderly : q.Orderly) (balanced : q.Balanced name out)
    (work : q.dispatch? = some next) : next.Balanced name out := by
  unfold dispatch? at work
  split at work
  · cases work
    rename_i c rest _ _
    have orderly : Orderly { q with inbox := rest } := orderly.congr rfl orderly.alive
    have balanced : Balanced { q with inbox := rest } name out := balanced.move rfl rfl
    rw [enqueue_eq]
    split
    · exact balanced.extendLane ‹_›
    · exact (balanced.openLane ‹_›).signal (orderly.openLane c)
  · cases work

/-! ## The producer -/

theorem Orderly.pop (orderly : q.Orderly) (n : String) : (q.pop n).Orderly := by
  unfold Queue.pop
  split
  · exact orderly
  · rename_i c lane found
    refine ⟨fun member d inside => ?_, orderly.alive⟩
    rcases mem_setLane member with old | new
    · exact orderly.sorted old d inside
    · cases new
      exact orderly.of_lookup found d (List.mem_cons_of_mem _ inside)
  · exact ⟨fun member => orderly.sorted (List.mem_filter.1 member).1, orderly.alive⟩

theorem Balanced.pop (orderly : q.Orderly) (free : q.hand = none) {n : String}
    (balanced : q.Balanced name (out + if n = name then 1 else 0)) :
    (q.pop n).Balanced name out := by
  unfold Queue.pop
  split
  · rename_i missing
    have other : n ≠ name := fun same => by
      have bound := balanced.le
      simp [laneCount, ← same, missing] at bound
    rwa [if_neg other] at balanced
  · rename_i c lane found
    have own : c.queue = n := orderly.of_lookup found c List.mem_cons_self
    refine balanced.move rfl ?_
    have lanes : laneCount { q with lanes := setLane n lane q.lanes, hand := some c } name =
        q.laneCount name := by
      unfold laneCount
      simp only [lookup_setLane]
      by_cases same : name = n
      · rw [if_pos same, same, found]
        rfl
      · rw [if_neg same]
    simp only [lanes, tokens, free, Option.toList_some, Option.toList_none, List.cons_append,
      List.nil_append, List.countP_cons, own, beq_iff_eq]
    omega
  · rename_i found
    refine balanced.move rfl ?_
    have lanes : laneCount { q with lanes := q.lanes.filter fun l => l.1 != n } name +
        (if n = name then 1 else 0) = q.laneCount name := by
      unfold laneCount
      simp only [Table.lookup_filter]
      by_cases same : name = n
      · subst same
        simp [found]
      · rw [if_neg same, if_neg (Ne.symm same), Nat.add_zero]
    rw [← lanes, show tokens { q with lanes := q.lanes.filter fun l => l.1 != n } name =
      q.tokens name from rfl]
    omega

theorem Orderly.produce (orderly : q.Orderly) (work : q.produce? = some next) :
    next.Orderly := by
  unfold produce? at work
  split at work
  · cases work
    rename_i n rest _ _ _
    have heard : Orderly { q with signals := rest } := orderly.congr rfl orderly.alive
    exact heard.pop n
  · cases work

theorem Balanced.produce (orderly : q.Orderly) (balanced : q.Balanced name out)
    (work : q.produce? = some next) : next.Balanced name out := by
  unfold produce? at work
  split at work
  · cases work
    rename_i n rest _ free signals
    have heard : Balanced { q with signals := rest } name (out + if n = name then 1 else 0) := by
      refine balanced.move rfl ?_
      simp only [tokens, signals, List.count_cons, beq_iff_eq, laneCount]
      omega
    have ordered : Orderly { q with signals := rest } := orderly.congr rfl orderly.alive
    exact heard.pop ordered free
  · cases work

theorem Orderly.deliver (orderly : q.Orderly) (work : q.deliver? = some next) :
    next.Orderly := by
  unfold deliver? at work
  split at work
  · split at work
    · rename_i closed
      cases work
      have cancelled := orderly.cancelled_of_closed (by simpa using closed)
      exact orderly.congr rfl fun going => absurd going (by simp [cancelled])
    · split at work
      · cases work
        exact orderly.congr rfl orderly.alive
      · cases work
  · cases work

theorem Balanced.deliver (orderly : q.Orderly) (balanced : q.Balanced name out)
    (work : q.deliver? = some next) : next.Balanced name out := by
  unfold deliver? at work
  split at work
  · rename_i c _ hand
    split at work
    · rename_i closed
      cases work
      refine balanced.lose (orderly.cancelled_of_closed (by simpa using closed)) (Nat.le_refl _) ?_
      simp [tokens]
      omega
    · split at work
      · cases work
        refine balanced.move rfl ?_
        simp only [tokens, hand, laneCount, Option.toList_some, Option.toList_none,
          List.countP_append, List.countP_nil]
        omega
      · cases work
  · cases work

/-! ## The output -/

theorem Orderly.take (orderly : q.Orderly) {c : Command} (work : q.take? = some (c, next)) :
    next.Orderly := by
  unfold take? at work
  split at work
  · cases work
    exact orderly.congr rfl orderly.alive
  · cases work

theorem Balanced.take (balanced : q.Balanced name out) {c : Command}
    (work : q.take? = some (c, next)) :
    next.Balanced name (out + if c.queue = name then 1 else 0) := by
  unfold take? at work
  split at work
  · rename_i output
    cases work
    refine balanced.move rfl ?_
    simp only [tokens, output, laneCount, List.countP_append, List.countP_cons, beq_iff_eq]
    omega
  · cases work

theorem Orderly.dropOutput (orderly : q.Orderly) (cancelled : q.cancelled = true) :
    q.dropOutput.Orderly := by
  refine orderly.congr rfl fun going => ?_
  rw [show q.dropOutput.cancelled = true from cancelled] at going
  cases going

theorem Balanced.dropOutput (balanced : q.Balanced name out) (cancelled : q.cancelled = true) :
    q.dropOutput.Balanced name out := by
  refine balanced.lose cancelled (Nat.le_refl _) ?_
  simp only [tokens, Queue.dropOutput, closeOutput, List.countP_append, List.countP_nil]
  omega

/-! ## The end -/

theorem Orderly.stopDispatcher (orderly : q.Orderly) (work : q.stopDispatcher? = some next) :
    next.Orderly := by
  unfold stopDispatcher? at work
  split at work
  · rename_i asked
    cases work
    simp only [Bool.and_eq_true] at asked
    exact orderly.congr rfl fun going => absurd going (by simp [asked.1])
  · cases work

theorem Balanced.stopDispatcher (balanced : q.Balanced name out)
    (work : q.stopDispatcher? = some next) : next.Balanced name out := by
  unfold stopDispatcher? at work
  split at work
  · cases work
    exact balanced.move rfl rfl
  · cases work

theorem Orderly.stopProducer (orderly : q.Orderly) (work : q.stopProducer? = some next) :
    next.Orderly := by
  unfold stopProducer? at work
  split at work
  · rename_i asked
    cases work
    simp only [Bool.and_eq_true] at asked
    exact orderly.congr rfl fun going => absurd going (by simp [asked.1])
  · cases work

theorem Balanced.stopProducer (balanced : q.Balanced name out)
    (work : q.stopProducer? = some next) : next.Balanced name out := by
  unfold stopProducer? at work
  split at work
  · rename_i asked
    cases work
    simp only [Bool.and_eq_true] at asked
    refine balanced.lose asked.1 (Nat.le_refl _) ?_
    simp only [tokens, List.count_nil, Option.toList_none, List.nil_append, List.countP_append]
    omega
  · cases work

/-! ## What is asked from outside -/

theorem Orderly.new (capacity : Nat) : (Queue.new capacity).Orderly :=
  ⟨fun member => (by cases member), fun _ => ⟨rfl, nofun⟩⟩

theorem Balanced.new (capacity : Nat) (name : String) : (Queue.new capacity).Balanced name 0 :=
  ⟨Nat.le_refl _, fun _ => rfl⟩

theorem Orderly.start (orderly : q.Orderly) : q.start.1.Orderly := by
  unfold Queue.start
  split
  · exact orderly
  · exact orderly.congr rfl fun going => ⟨(orderly.alive going).1, fun _ => ⟨rfl, rfl⟩⟩

theorem Balanced.start (balanced : q.Balanced name out) : q.start.1.Balanced name out := by
  unfold Queue.start
  split
  · exact balanced
  · exact balanced.move rfl rfl

theorem Orderly.cancel (orderly : q.Orderly) : q.cancel.Orderly :=
  orderly.congr rfl nofun

theorem Balanced.cancel (balanced : q.Balanced name out) : q.cancel.Balanced name out :=
  balanced.lose rfl (Nat.le_refl _) (Nat.le_refl _)

theorem Orderly.push (orderly : q.Orderly) (c : Command) : (q.push c).1.Orderly := by
  unfold Queue.push
  split
  · exact orderly
  · split
    · exact orderly
    · exact orderly.congr rfl orderly.alive

theorem Balanced.push (balanced : q.Balanced name out) (c : Command) :
    (q.push c).1.Balanced name out := by
  unfold Queue.push
  split
  · exact balanced
  · split
    · exact balanced
    · exact balanced.move rfl rfl

end Overseer.Manager.Queue
