import Overseer.Proofs.Stats.Service

/-!
# The times of snapshots

A snapshot carries the time of its flush, cut down to whole steps. A step has the whole seconds of
the interval, so it is not longer than the interval, and two flushes that are an interval apart
never fall into the same step.
-/

namespace Overseer.Stats

open Aggregator

/-- The times of day that a clock can tell: the seconds fit into a signed word. -/
def Tellable (now : Int) : Prop := now < 2 ^ 63 * nanosPerSecond

/-- The time, in seconds, that a flush at `now` is to carry. -/
structure Stamped (step : Nat) (now stamp : Int) : Prop where
  whole : (step : Int) ∣ stamp
  early : now < 0 → stamp = 0
  le : 0 ≤ now → stamp * nanosPerSecond ≤ now
  lt : 0 ≤ now → now < (stamp + step) * nanosPerSecond

/-- A time is at least an interval before another one. An interval is never below a second. -/
def Apart (interval : Nat) (t u : Int) : Prop := t + (max interval nanosPerSecond : Nat) ≤ u

namespace Aggregator

variable {g g' : Aggregator} {scope : String} {interval : Nat} {events events' : List Event}
  {now t u : Int} {s s' : Snapshot}

theorem record_interval {sample : Sample} {next : Aggregator}
    (recorded : g.record sample = .ok next) : next.interval = g.interval := by
  obtain ⟨a, -, -, rfl⟩ := record_eq_ok_iff.1 recorded
  rfl

theorem History.interval_eq (history : History scope interval events g) :
    g.interval = max interval nanosPerSecond := by
  induction history with
  | start => rfl
  | take _ recorded ih => rw [record_interval recorded, ih]
  | flush _ now ih => exact ih

theorem History.step_eq (history : History scope interval events g) :
    g.step = max (interval / nanosPerSecond) 1 := by
  rw [step, history.interval_eq, nanosPerSecond]
  omega

theorem step_pos (g : Aggregator) : 0 < g.step := by
  rw [step]
  omega

theorem History.step_le (history : History scope interval events g) :
    g.step * nanosPerSecond ≤ max interval nanosPerSecond := by
  rw [history.step_eq, nanosPerSecond]
  omega

/-! ## Cutting down a time -/

theorem timestamp_mul_le (g : Aggregator) (now : Int) :
    g.timestamp now * nanosPerSecond ≤ now.toNat := by
  calc
    g.timestamp now * nanosPerSecond
        ≤ now.toNat / nanosPerSecond * nanosPerSecond :=
      Nat.mul_le_mul_right _ (Nat.div_mul_le_self _ _)
    _ ≤ now.toNat := Nat.div_mul_le_self _ _

theorem lt_timestamp_add_step (g : Aggregator) (now : Int) :
    now.toNat < (g.timestamp now + g.step) * nanosPerSecond := by
  have seconds : now.toNat / nanosPerSecond < g.timestamp now + g.step := by
    have bound := Nat.lt_mul_div_succ (now.toNat / nanosPerSecond) g.step_pos
    rw [timestamp]
    linarith
  exact (Nat.div_lt_iff_lt_mul (by decide)).1 seconds

theorem timestamp_mono (g : Aggregator) (le : t ≤ u) : g.timestamp t ≤ g.timestamp u := by
  have le := Int.toNat_le_toNat le
  unfold timestamp
  gcongr

theorem timestamp_of_early (g : Aggregator) (early : now < 0) : g.timestamp now = 0 := by
  rw [timestamp, Int.toNat_of_nonpos early.le]
  simp

theorem History.timestamp_lt (history : History scope interval events g) (nonneg : 0 ≤ t)
    (apart : Apart interval t u) : g.timestamp t < g.timestamp u := by
  by_contra later
  have low := g.timestamp_mul_le t
  have high := g.lt_timestamp_add_step u
  have short := history.step_le
  have bound : (g.timestamp u + g.step) * nanosPerSecond ≤
      (g.timestamp t + g.step) * nanosPerSecond := by
    have same : g.timestamp u ≤ g.timestamp t := not_lt.1 later
    gcongr
  rw [Nat.add_mul (g.timestamp t)] at bound
  rw [Apart] at apart
  omega

theorem stamped_timestamp (g : Aggregator) (now : Int) : Stamped g.step now (g.timestamp now) := by
  refine ⟨?_, fun early => ?_, fun nonneg => ?_, fun nonneg => ?_⟩
  · exact Int.natCast_dvd_natCast.2 (Nat.dvd_mul_left _ _)
  · rw [g.timestamp_of_early early]
    rfl
  · have le := g.timestamp_mul_le now
    zify at le
    rwa [Int.toNat_of_nonneg nonneg] at le
  · have lt := g.lt_timestamp_add_step now
    zify at lt
    rwa [Int.toNat_of_nonneg nonneg] at lt

/-! ## What a snapshot carries -/

theorem timestamp_of_snapshot (tellable : Tellable now) (made : g.snapshot? now = some s) :
    s.timestamp.toInt = g.timestamp now := by
  obtain ⟨-, rfl⟩ := flush_eq_some.1 made
  have small := g.timestamp_mul_le now
  rw [Tellable, nanosPerSecond] at tellable
  rw [nanosPerSecond] at small
  exact Int64.toInt_ofNat_of_lt (by omega)

theorem History.timestamp_eq (history : History scope interval events g) :
    g.timestamp = (Aggregator.new scope interval).timestamp := by
  have begun : History scope interval [] (.new scope interval) := .start
  funext now
  rw [timestamp, timestamp, history.step_eq, begun.step_eq]

theorem attempts_timestamps (history : History scope interval events g) {windows : List Window}
    (tellable : ∀ w ∈ windows, Tellable w.epoch) :
    (((g.attempts windows).filterMap Attempt.snapshot).map (·.timestamp.toInt)).Sublist
      (windows.map fun w => ((Aggregator.new scope interval).timestamp w.epoch : Int)) := by
  induction windows generalizing g events with
  | nil => exact List.Sublist.slnil
  | cons w rest ih =>
      obtain ⟨tellable, later⟩ := List.forall_mem_cons.1 tellable
      obtain ⟨_, history', -⟩ := history.window w
      obtain ⟨_, filled, -⟩ := history.run (w.lines.map .feed)
      have behind := ih history' later
      rw [attempts, List.filterMap_cons, List.map_cons]
      cases made : (g.run (w.lines.map .feed)).2.snapshot? w.epoch with
      | none => exact behind.cons _
      | some s =>
          have stamp := timestamp_of_snapshot tellable made
          rw [filled.timestamp_eq] at stamp
          simp only [List.map_cons, stamp]
          exact behind.cons_cons _

theorem timestamps_increase (scope : String) {interval : Nat} {times : List Int}
    (nonneg : ∀ t ∈ times, 0 ≤ t) (apart : times.IsChain (Apart interval)) :
    (times.map fun t => ((Aggregator.new scope interval).timestamp t : Int)).Pairwise (· < ·) := by
  have begun : History scope interval [] (.new scope interval) := .start
  have : IsTrans Int (Apart interval) := ⟨fun t u v one two => by
    unfold Apart at one two ⊢
    omega⟩
  rw [List.pairwise_map]
  refine apart.pairwise.imp_of_mem fun {t u} first _ apart => ?_
  exact Int.ofNat_lt.2 (begun.timestamp_lt (nonneg t first) apart)

end Aggregator

/-- The time that a snapshot carries is a multiple of the step, which has the whole seconds of the
interval but is at least one second. It is zero for a flush before 1970, and else the last multiple
that is not after the flush. A later flush of the same job carries no earlier time, and a flush
that is an interval later carries a later one. So if the ticks of a service are an interval apart,
no two of the snapshots that it hands over while it works carry the same time. -/
theorem timestamps_kept_apart (scope : String) (interval : Nat) :
    (∀ events g now s, History scope interval events g → Tellable now →
      (g.flush now).1 = some s →
        Stamped (max (interval / nanosPerSecond) 1) now s.timestamp.toInt) ∧
    (∀ events events' g g' t u s s', History scope interval events g →
      History scope interval events' g' → Tellable t → Tellable u →
      (g.flush t).1 = some s → (g'.flush u).1 = some s' →
        (t ≤ u → s.timestamp.toInt ≤ s'.timestamp.toInt) ∧
        (0 ≤ t → Apart interval t u → s.timestamp.toInt < s'.timestamp.toInt)) ∧
    ∀ period now actions v, (Service.start scope period now).run? actions = some v →
      v.collector.stopped = false →
      (∀ t ∈ actions.filterMap Service.Action.tick?, 0 ≤ t ∧ Tellable t) →
      (actions.filterMap Service.Action.tick?).IsChain (Apart (period * nanosPerMilli)) →
        (v.delivered.map (·.timestamp.toInt)).Pairwise (· < ·) := by
  refine ⟨?_, ?_, ?_⟩
  · intro events g now s history tellable made
    rw [timestamp_of_snapshot tellable made, ← history.step_eq]
    exact g.stamped_timestamp now
  · intro events events' g g' t u s s' history history' tellable tellable' made made'
    rw [timestamp_of_snapshot tellable made, timestamp_of_snapshot tellable' made',
      history'.timestamp_eq, ← history.timestamp_eq]
    exact ⟨fun le => Int.ofNat_le.2 (g.timestamp_mono le),
      fun nonneg apart => Int.ofNat_lt.2 (history.timestamp_lt nonneg apart)⟩
  · intro period now actions v ran running ticks apart
    have inRange : (Service.start scope period now).collector.stopped = false := by
      by_contra stopped
      have ended := (Service.run_of_stopped (eq_true_of_ne_false stopped) ran).1
      rw [running] at ended
      cases ended
    obtain ⟨windows, since, sound⟩ := Service.sound_of_run inRange ran
    obtain ⟨last, once, epochs⟩ := sound.epochs
    rw [running, Option.isSome_eq_false_iff, Option.isNone_iff_eq_none] at once
    rw [once, Option.toList_none, List.append_nil] at epochs
    rw [← epochs] at ticks apart
    have begun : History scope (period * nanosPerMilli) [] (.new scope (period * nanosPerMilli)) :=
      .start
    have tellable : ∀ w ∈ windows, Tellable w.epoch := fun w member =>
      (ticks _ (List.mem_map_of_mem member)).2
    have carried := attempts_timestamps begun tellable
    have increasing := timestamps_increase scope (fun t member => (ticks t member).1) apart
    rw [List.map_map] at increasing
    rw [sound.delivered, work, snapshots_append, snapshots_feeds, List.append_nil,
      ← attempts_snapshots]
    exact increasing.sublist carried

def halfway : List Service.Action :=
  [.feed "x:1|c", .read 0, .tick 2500 3900000000, .tick 5000 6400000000]

def visited : Aggregator :=
  { Aggregator.new "a" 2500000000 with buffers := [("x", .set ["u"])] }

theorem timestamps_kept_apart_halfway :
    (∃ v, (Service.start "a" 2500 0).run? halfway = some v ∧ v.collector.stopped = false ∧
      v.delivered.map (·.timestamp.toInt) = [2, 6] ∧
      (v.delivered.map (·.timestamp.toInt)).Pairwise (· < ·)) ∧
    ∃ s s', (visited.flush 3900000000).1 = some s ∧ (visited.flush 6400000000).1 = some s' ∧
      Stamped 2 3900000000 s.timestamp.toInt ∧ s.timestamp.toInt ≤ s'.timestamp.toInt ∧
      s.timestamp.toInt < s'.timestamp.toInt := by
  constructor
  · have made : ((Service.start "a" 2500 0).run? halfway).any (fun v =>
        !v.collector.stopped && v.delivered.map (·.timestamp.toInt) == [2, 6]) = true := by
      decide +kernel
    obtain ⟨v, ran, told⟩ := (Option.any_eq_true _ _).1 made
    rw [Bool.and_eq_true, Bool.not_eq_true', beq_iff_eq] at told
    have times : halfway.filterMap Service.Action.tick? = [3900000000, 6400000000] := rfl
    refine ⟨v, ran, told.1, told.2, ?_⟩
    apply (timestamps_kept_apart "a" 0).2.2 2500 0 halfway v ran told.1
    · rw [times]
      unfold Tellable
      decide
    · rw [times]
      exact .cons_cons (by unfold Apart; decide) (.singleton _)
  · have recorded : (Aggregator.new "a" 2500000000).record ⟨"x", "u", .set, 1⟩ = .ok visited := rfl
    have history : Aggregator.History "a" 2500000000 _ visited := .take .start recorded
    obtain ⟨s, made⟩ := Option.isSome_iff_exists.1
      (by decide +kernel : (visited.flush 3900000000).1.isSome = true)
    obtain ⟨s', made'⟩ := Option.isSome_iff_exists.1
      (by decide +kernel : (visited.flush 6400000000).1.isSome = true)
    have early : Tellable 3900000000 := by unfold Tellable; decide
    have late : Tellable 6400000000 := by unfold Tellable; decide
    obtain ⟨stamped, ordered, -⟩ := timestamps_kept_apart "a" 2500000000
    obtain ⟨le, lt⟩ := ordered _ _ _ _ _ _ _ _ history history early late made made'
    refine ⟨s, s', made, made', stamped _ _ _ _ history early made, le (by decide), ?_⟩
    exact lt (by decide) (by unfold Apart; decide)

end Overseer.Stats
