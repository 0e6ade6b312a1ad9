import Mathlib
import Overseer.Exec.Supervision
import Overseer.Proofs.Exec.Relay

/-!
# Whom a kill signals

The meter of a child tracks what the child reports: never its own process id, and nothing twice. A
kill reaches the group of the child and whatever those reports stand for. They are taken as they
come, so only a child that reports nothing but positive numbers is signalled and metered as the group
and the single processes that are meant: zero and negative numbers stand for groups of processes, and
a process is metered twice if it is reported with a sign as well.
-/

namespace Overseer

namespace Host.Addressee

theorem ofPid_eq_process {pid : Pid} (positive : 0 < pid) : ofPid pid = .process pid.toNat :=
  if_pos positive

theorem ofGroup_eq_group {leader : Int} (proper : 1 < leader) :
    ofGroup leader = .group leader.toNat := by
  have named : ¬leader < 0 := by omega
  have negative : ¬0 < -leader := by omega
  have not_zero : -leader ≠ 0 := by omega
  have not_one : -leader ≠ -1 := by omega
  rw [ofGroup, if_neg named, ofPid, if_neg negative, if_neg not_zero, if_neg not_one,
    Int.natAbs_neg]
  congr 1
  omega

theorem exists_ofPid_eq_process {pid : Pid} : (∃ n, ofPid pid = .process n) ↔ 0 < pid := by
  refine ⟨?_, fun positive => ⟨_, ofPid_eq_process positive⟩⟩
  rintro ⟨n, single⟩
  by_contra negative
  rw [ofPid, if_neg negative] at single
  repeat' split at single
  all_goals cases single

end Host.Addressee

namespace Exec

/-- The child says that a process belongs to it. -/
def Reports (stdout stderr : List Stream.Arrival) (pid : Host.Pid) : Prop :=
  ∃ source, ∃ m ∈ Relay.outputOf stdout stderr source,
    m.level = .monitorPid ∧ reportedPid? m.content = some pid

/-! ## The meter -/

namespace Meter

structure Tracks (reported : Host.Pid → Prop) (pid : Host.Pid) (m : Meter) : Prop where
  main : m.main = some pid
  tracked : ∀ p ∈ m.tracked, p ≠ pid ∧ reported p
  distinct : m.tracked.Nodup

/-- The processes that a sample sums over. -/
def counted (usage : Host.Pid → Option Usage) (m : Meter) : List Nat :=
  ((m.main.toList ++ m.tracked).filter fun pid => (usage pid).isSome).map Int.natAbs

variable {reported : Host.Pid → Prop} {pid p : Host.Pid} {m : Meter}

theorem Tracks.attach (reported : Host.Pid → Prop) (pid : Host.Pid) :
    (Meter.new.attach pid).Tracks reported pid := ⟨rfl, nofun, List.nodup_nil⟩

theorem Tracks.track (tracks : m.Tracks reported pid) (said : reported p) :
    (m.track p).Tracks reported pid := by
  unfold Meter.track
  split
  · exact tracks
  · rename_i new
    obtain ⟨other, untracked⟩ := not_or.1 new
    have not_main : p ≠ pid := fun same => other (by rw [tracks.main, same])
    refine ⟨tracks.main, fun q member => ?_, ?_⟩
    · rcases List.mem_append.1 member with old | last
      · exact tracks.tracked q old
      · exact List.mem_singleton.1 last ▸ ⟨not_main, said⟩
    · rw [List.nodup_append_comm, List.singleton_append, List.nodup_cons]
      exact ⟨untracked, tracks.distinct⟩

theorem Tracks.sample (tracks : m.Tracks reported pid) (usage : Host.Pid → Option Usage) :
    (m.sample usage).2.Tracks reported pid := by
  simp only [Meter.sample, tracks.main]
  exact ⟨rfl, fun q member => tracks.tracked q (List.mem_filter.1 member).1,
    tracks.distinct.filter _⟩

theorem sample_fst (attached : m.main = some pid) (usage : Host.Pid → Option Usage) :
    (m.sample usage).1 =
      ((m.main.toList ++ m.tracked).filterMap usage).foldl Usage.merge .zero := by
  have present : (m.tracked.filter fun pid => (usage pid).isSome).filterMap usage =
      m.tracked.filterMap usage := by
    rw [List.filterMap_filter]
    congr 1
    funext p
    cases usage p <;> rfl
  simp only [Meter.sample, attached, present, Option.toList_some, List.filterMap_append]
  cases main : usage pid <;> simp [main]

theorem Tracks.counted_nodup (tracks : m.Tracks reported pid) (positive : 0 < pid)
    (processes : Nat → Option Usage) (status : Host.Pid → Option String) :
    (m.counted (usageOf processes status)).Nodup ↔
      ∀ p ∈ m.tracked, p < 0 → (processes p.natAbs).isSome = true →
        -p ≠ pid ∧ -p ∉ m.tracked := by
  have seen : ∀ q, (usageOf processes status q).isSome = (processes q.natAbs).isSome := fun q => by
    simp [usageOf]
  have listed : ∀ q, q ∈ m.main.toList ++ m.tracked ↔ q = pid ∨ q ∈ m.tracked := fun q => by
    simp [tracks.main]
  have whole : (m.main.toList ++ m.tracked).Nodup := by
    rw [tracks.main, Option.toList_some, List.singleton_append, List.nodup_cons]
    exact ⟨fun member => (tracks.tracked pid member).1 rfl, tracks.distinct⟩
  rw [counted, List.nodup_map_iff_inj_on (whole.filter _)]
  simp only [List.mem_filter, listed, seen]
  constructor
  · intro distinct p member negative present
    have opposite : ∀ q, q = pid ∨ q ∈ m.tracked → -p ≠ q := by
      rintro q inside rfl
      have same := distinct p ⟨.inr member, present⟩ (-p) ⟨inside, by simpa using present⟩ (by simp)
      exact negative.ne (self_eq_neg.1 same)
    exact ⟨opposite pid (.inl rfl), fun inside => opposite (-p) (.inr inside) rfl⟩
  · intro apart
    have clash : ∀ p q, p = pid ∨ p ∈ m.tracked → (processes p.natAbs).isSome = true →
        q = pid ∨ q ∈ m.tracked → q = -p → ¬p < 0 := by
      rintro p q inside present inside' rfl negative
      have member : p ∈ m.tracked := inside.resolve_left fun same => by
        exact lt_asymm negative (same ▸ positive)
      obtain ⟨not_main, untracked⟩ := apart p member negative present
      exact inside'.elim not_main untracked
    rintro p ⟨inside, present⟩ q ⟨inside', present'⟩ same
    rcases Int.natAbs_eq_natAbs_iff.1 same with equal | opposite
    · exact equal
    · have not_negative := clash p q inside present inside' (neg_eq_iff_eq_neg.2 opposite).symm
      have not_negative' := clash q p inside' present' inside opposite
      have zero : q = 0 := le_antisymm (neg_nonneg.1 (opposite ▸ not_lt.1 not_negative))
        (not_lt.1 not_negative')
      rw [opposite, zero, neg_zero]

end Meter

theorem intercept_tracks {reported : Host.Pid → Prop} {pid : Host.Pid} {meter : Meter}
    {m : Message} (tracks : meter.Tracks reported pid)
    (said : ∀ p, m.level = .monitorPid → reportedPid? m.content = some p → reported p) :
    (intercept meter m).1.Tracks reported pid := by
  unfold intercept
  split
  · exact tracks
  · split
    · exact tracks
    · split
      · rename_i level
        cases content : reportedPid? m.content with
        | some p => exact tracks.track (said p level content)
        | none => exact tracks
      · exact tracks

/-! ## The supervision -/

theorem Interleaving.mem {α : Type} {as bs cs : List α} (both : Interleaving as bs cs) {c : α}
    (member : c ∈ cs) : c ∈ as ∨ c ∈ bs := by
  induction both with
  | nil => cases member
  | left _ ih =>
      rcases List.mem_cons.1 member with rfl | later
      · exact .inl List.mem_cons_self
      · exact (ih later).imp_left (List.mem_cons_of_mem _)
  | right _ ih =>
      rcases List.mem_cons.1 member with rfl | later
      · exact .inr List.mem_cons_self
      · exact (ih later).imp_right (List.mem_cons_of_mem _)

theorem Relay.Ordered.mem_output {output offered : Source → List Message} {r : Relay}
    {fetched : List Message} (ordered : Relay.Ordered output r offered fetched) {m : Message}
    (member : m ∈ r.raw) : ∃ source, m ∈ output source := by
  rcases ordered.merged.mem (List.mem_append_right _ member) with first | second
  · exact ⟨.stdout, ordered.split _ ▸ List.mem_append_left _ first⟩
  · exact ⟨.stderr, ordered.split _ ▸ List.mem_append_left _ second⟩

theorem Relay.Move.meter {r next : Relay} {act : Relay.Action} (move : Relay.Move r act next) :
    next.meter = r.meter ∨ ∃ m ∈ r.raw, next.meter = (intercept r.meter m).1 := by
  cases move with
  | @read source => exact .inl (by cases source <;> rfl)
  | @offer source => exact .inl (by cases source <;> rfl)
  | fetch taking waiting => exact .inr ⟨_, by rw [waiting]; exact List.mem_cons_self, rfl⟩
  | pass | close | learn | tell | take => exact .inl rfl

namespace Supervision

variable {pid : Host.Pid} {stdout stderr : List Stream.Arrival} {s next : Supervision}
  {act : Action}

def Addressed (stdout stderr : List Stream.Arrival) (pid : Host.Pid)
    (signal : Host.Signal × Host.Addressee) : Prop :=
  signal.2 = .ofGroup pid ∨
    ∃ p, Reports stdout stderr p ∧ p ≠ pid ∧ signal = (.terminate, .ofPid p)

structure Follows (stdout stderr : List Stream.Arrival) (pid : Host.Pid) (s : Supervision) :
    Prop where
  ordered : ∃ offered fetched,
    Relay.Ordered (Relay.outputOf stdout stderr) s.relay offered fetched
  tracks : s.relay.meter.Tracks (Reports stdout stderr) pid
  addressed : ∀ signal ∈ s.sent, Addressed stdout stderr pid signal

theorem Follows.start (stdout stderr : List Stream.Arrival) (pid : Host.Pid) :
    (start pid stdout stderr).Follows stdout stderr pid :=
  ⟨⟨_, _, Relay.ordered_start pid stdout stderr⟩, .attach _ pid, nofun⟩

theorem Follows.relay (follows : s.Follows stdout stderr pid) {act : Relay.Action} {relay : Relay}
    (move : Relay.Move s.relay act relay) : { s with relay }.Follows stdout stderr pid := by
  obtain ⟨offered, fetched, ordered⟩ := follows.ordered
  have tracks : relay.meter.Tracks (Reports stdout stderr) pid := by
    rcases move.meter with same | ⟨m, waiting, changed⟩
    · rw [same]
      exact follows.tracks
    · obtain ⟨source, printed⟩ := ordered.mem_output waiting
      rw [changed]
      exact intercept_tracks follows.tracks fun p level content =>
        ⟨source, m, printed, level, content⟩
  exact ⟨ordered.move move, tracks, follows.addressed⟩

theorem Follows.sample (follows : s.Follows stdout stderr pid)
    (usage : Host.Pid → Option Usage) :
    { s with relay := { s.relay with meter := (s.relay.meter.sample usage).2 } }.Follows stdout
      stderr pid := by
  obtain ⟨offered, fetched, ordered⟩ := follows.ordered
  exact ⟨⟨offered, fetched, ordered.sound, ordered.split, ordered.merged, ordered.given,
    ordered.late⟩, follows.tracks.sample usage, follows.addressed⟩

theorem Follows.send (follows : s.Follows stdout stderr pid)
    {signals : List (Host.Signal × Host.Addressee)}
    (addressed : ∀ signal ∈ signals, Addressed stdout stderr pid signal) (begun grace : Nat) :
    ({ s with begun, grace }.send signals).Follows stdout stderr pid := by
  refine ⟨follows.ordered, follows.tracks, fun signal member => ?_⟩
  rcases List.mem_append.1 member with earlier | new
  · exact follows.addressed signal earlier
  · exact addressed signal new

theorem Follows.group (follows : s.Follows stdout stderr pid) {targets : KillTargets}
    (found : s.relay.targets? = some targets) : targets.group = pid := by
  unfold Relay.targets? killTargets? at found
  split at found
  · cases found
  · rw [follows.tracks.main] at found
    cases found
    rfl

theorem Follows.step (follows : s.Follows stdout stderr pid) (step : s.step? act = some next) :
    next.Follows stdout stderr pid := by
  cases act with
  | relay act =>
      obtain ⟨relay, moved, rfl⟩ := Option.map_eq_some_iff.1 step
      exact follows.relay (Relay.step?_eq_some_iff.1 moved)
  | sample processes status =>
      simp only [step?] at step
      split at step
      · cases step
        exact follows
      · cases step
        exact follows.sample _
  | killGroup =>
      simp only [step?] at step
      split at step
      · rename_i targets found
        cases step
        refine follows.send (fun signal member => .inl ?_) _ _
        rw [List.mem_singleton.1 member, follows.group found]
      · cases step
        exact follows
  | killTracked =>
      simp only [step?] at step
      split at step
      · cases step
      · cases step
        refine follows.send (fun signal member => .inr ?_) _ _
        obtain ⟨p, tracked, rfl⟩ := List.mem_map.1 member
        obtain ⟨other, said⟩ := follows.tracks.tracked p tracked
        exact ⟨p, said, other, rfl⟩
  | expire =>
      simp only [step?] at step
      split at step
      · cases step
      · split at step
        · rename_i targets found
          cases step
          refine follows.send (fun signal member => .inl ?_) _ _
          rw [List.mem_singleton.1 member, follows.group found]
        · cases step
          exact ⟨follows.ordered, follows.tracks, follows.addressed⟩

theorem Reachable.follows (reach : Reachable pid stdout stderr s) :
    s.Follows stdout stderr pid := by
  induction reach with
  | start => exact .start stdout stderr pid
  | next _ step ih => exact ih.step step

/-- The meter tracks what the child reports, once and never the child itself, and a kill signals the
group of the child and what those numbers stand for. A number is a single process if it is positive,
and a process is counted twice exactly if it was also reported with a sign. So all is as it is meant
for a child that reports positive numbers only. -/
theorem signals_reach_reported (child : 1 < pid) (reach : Reachable pid stdout stderr s) :
    (s.relay.meter.main = some pid ∧ s.relay.meter.tracked.Nodup ∧
      ∀ p ∈ s.relay.meter.tracked, p ≠ pid ∧ Reports stdout stderr p) ∧
    (∀ signal ∈ s.sent, signal.2 = .group pid.toNat ∨
      ∃ p, Reports stdout stderr p ∧ p ≠ pid ∧ signal = (.terminate, .ofPid p)) ∧
    (∀ next, s.step? .killTracked = some next → ∃ signals, next.sent = s.sent ++ signals ∧
      ((∀ signal ∈ signals, ∃ n, signal.2 = .process n) ↔ ∀ p ∈ s.relay.meter.tracked, 0 < p)) ∧
    (∀ processes status,
      (s.relay.meter.sample (usageOf processes status)).1 =
        ((pid :: s.relay.meter.tracked).filterMap (usageOf processes status)).foldl Usage.merge
          .zero ∧
      ((s.relay.meter.counted (usageOf processes status)).Nodup ↔
        ∀ p ∈ s.relay.meter.tracked, p < 0 → (processes p.natAbs).isSome = true →
          -p ≠ pid ∧ -p ∉ s.relay.meter.tracked)) ∧
    ((∀ p, Reports stdout stderr p → 0 < p) →
      (∀ p ∈ s.relay.meter.tracked, 0 < p) ∧
      (∀ signal ∈ s.sent, signal.2 = .group pid.toNat ∨
        ∃ p, 0 < p ∧ Reports stdout stderr p ∧ p ≠ pid ∧ signal = (.terminate, .process p.toNat)) ∧
      ∀ processes status, (s.relay.meter.counted (usageOf processes status)).Nodup) := by
  have follows := reach.follows
  have positive : 0 < pid := lt_trans one_pos child
  have sent : ∀ signal ∈ s.sent, signal.2 = .group pid.toNat ∨
      ∃ p, Reports stdout stderr p ∧ p ≠ pid ∧ signal = (.terminate, .ofPid p) := by
    intro signal member
    rw [← Host.Addressee.ofGroup_eq_group child]
    exact follows.addressed signal member
  have distinct := follows.tracks.counted_nodup positive
  refine ⟨⟨follows.tracks.main, follows.tracks.distinct, follows.tracks.tracked⟩, sent, ?_, ?_, ?_⟩
  · intro next step
    simp only [step?] at step
    split at step
    · cases step
    · cases step
      refine ⟨_, rfl, ?_⟩
      simp only [List.forall_mem_map, Host.Addressee.exists_ofPid_eq_process]
  · intro processes status
    have sum := Meter.sample_fst follows.tracks.main (usageOf processes status)
    rw [follows.tracks.main] at sum
    exact ⟨sum, distinct processes status⟩
  · intro genuine
    have tracked : ∀ p ∈ s.relay.meter.tracked, 0 < p := fun p member =>
      genuine p (follows.tracks.tracked p member).2
    refine ⟨tracked, fun signal member => (sent signal member).imp_right ?_,
      fun processes status => (distinct processes status).2 fun p member negative =>
        absurd negative (lt_asymm (tracked p member))⟩
    rintro ⟨p, said, other, rfl⟩
    exact ⟨p, genuine p said, said, other, by
      rw [Host.Addressee.ofPid_eq_process (genuine p said)]⟩

def replay? (s : Supervision) : List Action → Option Supervision
  | [] => some s
  | act :: rest => (s.step? act).bind fun next => next.replay? rest

theorem Reachable.replay {last : Supervision} {acts : List Action}
    (reach : Reachable pid stdout stderr s) (played : s.replay? acts = some last) :
    Reachable pid stdout stderr last := by
  induction acts generalizing s with
  | nil =>
      cases played
      exact reach
  | cons act rest ih =>
      obtain ⟨next, step, played⟩ := Option.bind_eq_some_iff.1 played
      exact ih (reach.next step) played

def paired : List Stream.Arrival := [.bytes "101::9\n".toUTF8.toList]

def pairedKilled : Supervision :=
  ((start 7 paired []).replay? [.relay (.read .stdout), .relay (.read .stdout),
    .relay (.offer .stdout), .relay .fetch, .killGroup, .killTracked]).get (by decide +kernel)

theorem signals_reach_reported_paired :
    pairedKilled.sent = [(.terminate, .group 7), (.terminate, .process 9)] ∧
    ∀ processes status, (pairedKilled.relay.meter.counted (usageOf processes status)).Nodup := by
  have reach : Reachable 7 paired [] pairedKilled := .replay .start (Option.some_get _).symm
  have printed : ∀ source, ∀ m ∈ Relay.outputOf paired [] source,
      reportedPid? m.content = some 9 := by
    intro source
    cases source <;> decide +kernel
  have genuine : ∀ p, Reports paired [] p → 0 < p := by
    rintro p ⟨source, m, member, -, content⟩
    cases (printed source m member).symm.trans content
    decide
  exact ⟨by decide +kernel,
    ((signals_reach_reported (by decide) reach).2.2.2.2 genuine).2.2⟩

def stray : List Stream.Arrival := [.bytes "101::0\n101::-1\n101::-7\n".toUTF8.toList]

def strayKilled : Supervision :=
  ((start 7 stray []).replay? [.relay (.read .stdout), .relay (.read .stdout),
    .relay (.offer .stdout), .relay .fetch, .relay (.read .stdout), .relay (.offer .stdout),
    .relay .fetch, .relay (.read .stdout), .relay (.offer .stdout), .relay .fetch, .killGroup,
    .killTracked]).get (by decide +kernel)

/-- The group of the supervisor and all processes are told to end, and the child is counted twice. -/
theorem stray_numbers_signalled :
    Reachable 7 stray [] strayKilled ∧ strayKilled.relay.meter.tracked = [0, -1, -7] ∧
    (.terminate, .senderGroup) ∈ strayKilled.sent ∧ (.terminate, .everyone) ∈ strayKilled.sent ∧
    strayKilled.relay.meter.counted
      (usageOf (fun n => if n = 7 then some .zero else none) fun _ => none) = [7, 7] := by
  refine ⟨.replay .start (Option.some_get _).symm, by decide +kernel, by decide +kernel,
    by decide +kernel, ?_⟩
  have attached : strayKilled.relay.meter = ⟨some 7, [0, -1, -7]⟩ := by decide +kernel
  rw [attached]
  rfl

end Supervision

end Exec

end Overseer
