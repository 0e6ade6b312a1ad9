import Overseer.Exposition
import Overseer.Proofs.Stats.Aggregator
import Overseer.Proofs.Text.Utf8

/-!
# Statistics under their labels

A flush writes the scope of its aggregator before every key, and what is recorded of the snapshot is
labelled with the scope and the key again. The two are told apart whatever dots they hold: a gauge
shows what the last snapshot of its job said of its key, and nothing else.
-/

namespace Overseer.Stats

/-! ## Keys of a snapshot -/

namespace Snapshot

variable {g : Aggregator} {s : Snapshot} {now : Int} {key : String}

theorem dropLeading_append (lead rest : List Char) :
    dropLeading lead (lead ++ rest) = some rest := by
  induction lead with
  | nil => rfl
  | cons c lead ih => rw [List.cons_append, dropLeading, if_pos rfl, ih]

theorem stripScope_label (scope key : String) : stripScope scope s!"{scope}.{key}" = key := by
  have chars : (s!"{scope}.{key}").toList = scope.toList ++ ['.'] ++ key.toList := by
    simp [toString]
  rw [stripScope, chars, dropLeading_append]
  exact String.ofList_toList

theorem scope_of_flush (flushed : (g.flush now).1 = some s) : s.scope = g.scope := by
  obtain ⟨-, rfl⟩ := Aggregator.flush_eq_some.1 flushed
  rfl

theorem keys_of_flush (flushed : (g.flush now).1 = some s) :
    s.keys = g.buffers.map fun (key, a) => (key, a.value) := by
  obtain ⟨-, rfl⟩ := Aggregator.flush_eq_some.1 flushed
  simp [keys, stripScope_label]

theorem lookup_keys (flushed : (g.flush now).1 = some s) (key : String) :
    s.keys.lookup key = s.get? s!"{s.scope}.{key}" := by
  rw [scope_of_flush flushed, Aggregator.get?_of_flush key flushed, keys_of_flush flushed,
    Table.lookup_map]

theorem series_sorted (sorted : g.keys.Pairwise (· < ·)) (flushed : (g.flush now).1 = some s) :
    (s.series.map fun point => point.1.toUTF8.toList).Pairwise (· < ·) := by
  have names : s.series.map (fun point => point.1.toUTF8.toList) =
      g.keys.map fun key => (s!"{g.scope}.{key}").toUTF8.toList := by
    have names := congrArg (List.map fun name => name.toUTF8.toList)
      (Aggregator.names_of_flush flushed)
    rwa [List.map_map, List.map_map] at names
  rw [names, List.pairwise_map]
  refine sorted.imp fun {key other} less => Text.Utf8.toUTF8_lt ?_
  have less : key.toList < other.toList := less
  have label (key : String) :
      (s!"{g.scope}.{key}").toList = (g.scope.toList ++ ['.']) ++ key.toList := by
    simp [toString]
  show (s!"{g.scope}.{key}").toList < (s!"{g.scope}.{other}").toList
  rw [label, label]
  exact List.append_left_lt less

def points (s : Snapshot) : List ((String × String) × Float) :=
  s.keys.map fun (key, value) => ((s.scope, key), value)

def Made (s : Snapshot) : Prop :=
  ∃ (g : Aggregator) (now : Int), g.keys.Pairwise (· < ·) ∧ (g.flush now).1 = some s

theorem mem_iff_lookup {β : Type} {entries : List (String × β)} {value : β}
    (distinct : (entries.map Prod.fst).Nodup) :
    (key, value) ∈ entries ↔ entries.lookup key = some value := by
  induction entries with
  | nil => simp
  | cons head rest ih =>
      obtain ⟨first, b⟩ := head
      obtain ⟨fresh, distinct⟩ := List.nodup_cons.1 distinct
      rw [List.mem_cons, Table.lookup_cons, Prod.mk.injEq]
      split
      · rename_i same
        subst same
        have absent : (key, value) ∉ rest :=
          fun member => fresh (List.mem_map.2 ⟨_, member, rfl⟩)
        simp [absent, eq_comm]
      · rename_i other
        simp [other, ih distinct]

theorem Made.mem_points (made : s.Made) {job : String} {value : Float} :
    ((job, key), value) ∈ s.points ↔ s.scope = job ∧ s.get? s!"{job}.{key}" = some value := by
  obtain ⟨g, now, sorted, flushed⟩ := made
  have names : s.keys.map Prod.fst = g.keys := by
    rw [keys_of_flush flushed, List.map_map]
    rfl
  have member : (key, value) ∈ s.keys ↔ s.keys.lookup key = some value :=
    mem_iff_lookup (names ▸ sorted.nodup)
  rw [lookup_keys flushed] at member
  simp only [points, List.mem_map, Prod.mk.injEq, Prod.exists]
  constructor
  · rintro ⟨k, v, there, ⟨rfl, rfl⟩, rfl⟩
    exact ⟨rfl, member.1 there⟩
  · rintro ⟨rfl, known⟩
    exact ⟨key, value, member.2 known, ⟨rfl, rfl⟩, rfl⟩

end Snapshot

/-! ## Gauges -/

structure GaugeVec (V : Type) where
  empty : V
  set : String × String → Float → V → V
  get? : V → String × String → Option Float

namespace GaugeVec

variable {V κ : Type} [DecidableEq κ]

/-- The table tells labels apart by their names and keeps the last value of each. -/
structure IsMap (m : GaugeVec V) (name : String × String → κ) : Prop where
  get?_empty : ∀ label, m.get? m.empty label = none
  get?_set : ∀ label value gauges label', m.get? (m.set label value gauges) label' =
    if name label' = name label then some value else m.get? gauges label'

def record (m : GaugeVec V) (gauges : V) (s : Snapshot) : V :=
  s.keys.foldl (fun gauges (key, value) => m.set (s.scope, key) value gauges) gauges

def recordAll (m : GaugeVec V) (snapshots : List Snapshot) : V := snapshots.foldl m.record m.empty

variable {m : GaugeVec V} {name : String × String → κ}

theorem IsMap.get?_foldl (lawful : m.IsMap name) (points : List ((String × String) × Float))
    (gauges : V) (label : String × String) :
    m.get? (points.foldl (fun gauges p => m.set p.1 p.2 gauges) gauges) label =
      ((points.reverse.find? fun p => name p.1 = name label).map Prod.snd).or
        (m.get? gauges label) := by
  induction points using List.reverseRecOn with
  | nil => rfl
  | append_singleton points p ih =>
      rw [List.foldl_append, List.foldl_cons, List.foldl_nil, lawful.get?_set, ih,
        List.reverse_append, List.reverse_singleton, List.singleton_append, List.find?_cons]
      by_cases same : name p.1 = name label
      · simp [same]
      · simp [same, Ne.symm same]

theorem record_eq (m : GaugeVec V) (gauges : V) (s : Snapshot) :
    m.record gauges s = s.points.foldl (fun gauges p => m.set p.1 p.2 gauges) gauges := by
  rw [record, Snapshot.points, List.foldl_map]

theorem recordAll_eq (m : GaugeVec V) (snapshots : List Snapshot) :
    m.recordAll snapshots =
      (snapshots.flatMap Snapshot.points).foldl (fun gauges p => m.set p.1 p.2 gauges) m.empty := by
  rw [recordAll, List.foldl_flatMap]
  congr 1
  funext gauges s
  exact m.record_eq gauges s

theorem IsMap.get?_recordAll (lawful : m.IsMap name) (snapshots : List Snapshot)
    (label : String × String) :
    m.get? (m.recordAll snapshots) label =
      ((snapshots.flatMap Snapshot.points).reverse.find? fun p => name p.1 = name label).map
        Prod.snd := by
  rw [recordAll_eq, lawful.get?_foldl, lawful.get?_empty, Option.or_none]

theorem IsMap.isSome_iff (lawful : m.IsMap name) (snapshots : List Snapshot)
    (label : String × String) :
    (m.get? (m.recordAll snapshots) label).isSome = true ↔
      ∃ s ∈ snapshots, ∃ p ∈ s.points, name p.1 = name label := by
  rw [lawful.get?_recordAll, Option.isSome_map, List.find?_isSome]
  simp only [List.mem_reverse, List.mem_flatMap, decide_eq_true_eq]
  constructor
  · rintro ⟨p, ⟨s, member, there⟩, same⟩
    exact ⟨s, member, p, there, same⟩
  · rintro ⟨s, member, p, there, same⟩
    exact ⟨p, ⟨s, member, there⟩, same⟩

variable {s : Snapshot} {job key : String} {value : Float}

theorem IsMap.get?_record (lawful : m.IsMap id) (made : s.Made) (gauges : V) (job key : String) :
    m.get? (m.record gauges s) (job, key) =
      if s.scope = job then (s.get? s!"{job}.{key}").or (m.get? gauges (job, key))
      else m.get? gauges (job, key) := by
  rw [record_eq, lawful.get?_foldl]
  simp only [id]
  cases found : s.points.reverse.find? fun p => p.1 = (job, key) with
  | none =>
      have absent (value : Float) : ((job, key), value) ∉ s.points := fun there => by
        have all := List.find?_eq_none.1 found _ (List.mem_reverse.2 there)
        simp at all
      split
      · rename_i own
        have unknown : s.get? s!"{job}.{key}" = none := Option.eq_none_iff_forall_ne_some.2
          fun value known => absent value (made.mem_points.2 ⟨own, known⟩)
        rw [unknown]
        rfl
      · rfl
  | some p =>
      obtain ⟨label, value⟩ := p
      have there := List.mem_reverse.1 (List.mem_of_find?_eq_some found)
      have same := List.find?_some found
      obtain rfl : label = (job, key) := by simpa using same
      obtain ⟨own, known⟩ := made.mem_points.1 there
      rw [if_pos own, known]
      rfl

theorem IsMap.get?_of_later (lawful : m.IsMap id) {later : List Snapshot} (gauges : V)
    (made : ∀ t ∈ later, t.Made)
    (silent : ∀ t ∈ later, t.scope = job → t.get? s!"{job}.{key}" = none) :
    m.get? (later.foldl m.record gauges) (job, key) = m.get? gauges (job, key) := by
  induction later generalizing gauges with
  | nil => rfl
  | cons t later ih =>
      obtain ⟨now, made⟩ := List.forall_mem_cons.1 made
      obtain ⟨unsaid, silent⟩ := List.forall_mem_cons.1 silent
      rw [List.foldl_cons, ih _ made silent, lawful.get?_record now]
      split
      · rename_i own
        rw [unsaid own]
        rfl
      · rfl

end GaugeVec

/-! ## Aggregators with one sink -/

namespace Aggregator

def take (g : Aggregator) (s : Sample) : Aggregator :=
  match g.record s with
  | .ok next => next
  | .error _ => g

theorem accept_eq (g : Aggregator) (line : String) :
    g.accept line =
      match Sample.parse line with
      | .ok s => g.take s
      | .error _ => g := by
  unfold accept feed take
  cases Sample.parse line <;> rfl

def Comes (scope : String) (interval : Nat) (g : Aggregator) : Prop :=
  ∃ events, History scope interval events g

variable {scope : String} {interval : Nat} {g : Aggregator}

theorem Comes.take (comes : Comes scope interval g) (s : Sample) :
    Comes scope interval (g.take s) := by
  unfold Aggregator.take
  split
  · obtain ⟨events, history⟩ := comes
    exact ⟨_, history.take ‹_›⟩
  · exact comes

theorem Comes.accept (comes : Comes scope interval g) (line : String) :
    Comes scope interval (g.accept line) := by
  rw [accept_eq]
  split
  · exact comes.take _
  · exact comes

theorem Comes.flush (comes : Comes scope interval g) (now : Int) :
    Comes scope interval (g.flush now).2 := by
  obtain ⟨events, history⟩ := comes
  exact ⟨_, history.flush now⟩

theorem Comes.scope_eq (comes : Comes scope interval g) : g.scope = scope :=
  comes.choose_spec.told.scope

theorem Comes.sorted (comes : Comes scope interval g) : g.keys.Pairwise (· < ·) :=
  comes.choose_spec.told.sorted

end Aggregator

/-- Aggregators of any scopes whose snapshots go to one sink. -/
structure Supply (ι : Type) where
  aggregators : ι → Aggregator
  made : List Snapshot
  recorded : List Snapshot

namespace Supply

variable {ι : Type} [DecidableEq ι]

inductive Event (ι : Type) where
  | feed (i : ι) (line : String)
  | take (i : ι) (s : Sample)
  | flush (i : ι) (now : Int)
  | record (n : Nat)

def start (scopes : ι → String) (intervals : ι → Nat) : Supply ι where
  aggregators i := .new (scopes i) (intervals i)
  made := []
  recorded := []

def set (x : Supply ι) (i : ι) (g : Aggregator) : Supply ι :=
  { x with aggregators := Function.update x.aggregators i g }

def step (x : Supply ι) : Event ι → Supply ι
  | .feed i line => x.set i ((x.aggregators i).accept line)
  | .take i s => x.set i ((x.aggregators i).take s)
  | .flush i now =>
      let (snapshot, g) := (x.aggregators i).flush now
      { x.set i g with made := x.made ++ snapshot.toList }
  | .record n => { x with recorded := x.recorded ++ (x.made[n]?).toList }

def run (scopes : ι → String) (intervals : ι → Nat) (events : List (Event ι)) : Supply ι :=
  events.foldl step (start scopes intervals)

structure Sound (scopes : ι → String) (intervals : ι → Nat) (x : Supply ι) : Prop where
  aggregators : ∀ i, Aggregator.Comes (scopes i) (intervals i) (x.aggregators i)
  made : ∀ s ∈ x.made, s.Made
  recorded : ∀ s ∈ x.recorded, s.Made

variable {scopes : ι → String} {intervals : ι → Nat} {x : Supply ι}

theorem Sound.set (sound : Sound scopes intervals x) {i : ι} {g : Aggregator}
    (comes : Aggregator.Comes (scopes i) (intervals i) g) : Sound scopes intervals (x.set i g) := by
  refine ⟨fun j => ?_, sound.made, sound.recorded⟩
  by_cases own : j = i
  · subst own
    simpa [Supply.set] using comes
  · simpa [Supply.set, own] using sound.aggregators j

theorem Sound.step (sound : Sound scopes intervals x) (event : Event ι) :
    Sound scopes intervals (x.step event) := by
  cases event with
  | feed i line => exact sound.set ((sound.aggregators i).accept line)
  | take i s => exact sound.set ((sound.aggregators i).take s)
  | flush i now =>
      have comes := sound.aggregators i
      obtain ⟨kept, made, recorded⟩ := sound.set (comes.flush now)
      refine ⟨kept, fun s member => ?_, recorded⟩
      rcases List.mem_append.1 member with old | new
      · exact made s old
      · exact ⟨_, now, comes.sorted, Option.mem_toList.1 new⟩
  | record n =>
      refine ⟨sound.aggregators, sound.made, fun s member => ?_⟩
      rcases List.mem_append.1 member with old | new
      · exact sound.recorded s old
      · exact sound.made s (List.mem_of_getElem? (Option.mem_toList.1 new))

theorem sound_run (scopes : ι → String) (intervals : ι → Nat) (events : List (Event ι)) :
    Sound scopes intervals (run scopes intervals events) := by
  unfold run
  induction events using List.reverseRecOn with
  | nil => exact ⟨fun i => ⟨[], .start⟩, nofun, nofun⟩
  | append_singleton events event ih =>
      rw [List.foldl_append]
      exact ih.step event

end Supply

/-! ## What the gauges show -/

variable {ι V : Type} [DecidableEq ι]

/-- A gauge of a job and a key is there as soon as a snapshot of the job with the key was recorded,
and it shows the value of the last one. Recording a snapshot leaves all other gauges alone. -/
theorem gauges_show_last (m : GaugeVec V) (lawful : m.IsMap id) (scopes : ι → String)
    (intervals : ι → Nat) (events : List (Supply.Event ι)) :
    let x := Supply.run scopes intervals events
    (∀ i now s, ((x.aggregators i).flush now).1 = some s →
      s.scope = scopes i ∧
      (s.series.map fun point => point.1.toUTF8.toList).Pairwise (· < ·) ∧
      s.keys = (x.aggregators i).buffers.map (fun (key, a) => (key, a.value)) ∧
      ∀ gauges job key, m.get? (m.record gauges s) (job, key) =
        if job = scopes i then
          (((x.aggregators i).buffers.lookup key).map Aggregate.value).or
            (m.get? gauges (job, key))
        else m.get? gauges (job, key)) ∧
    (∀ job key, (m.get? (m.recordAll x.recorded) (job, key)).isSome = true ↔
      ∃ s ∈ x.recorded, s.scope = job ∧ (s.get? s!"{job}.{key}").isSome = true) ∧
    ∀ earlier s later key value, x.recorded = earlier ++ s :: later →
      s.get? s!"{s.scope}.{key}" = some value →
      (∀ t ∈ later, t.scope = s.scope → t.get? s!"{s.scope}.{key}" = none) →
      m.get? (m.recordAll x.recorded) (s.scope, key) = some value := by
  intro x
  have sound := Supply.sound_run scopes intervals events
  refine ⟨fun i now s flushed => ?_, fun job key => ?_,
    fun earlier s later key value parts known silent => ?_⟩
  · have comes := sound.aggregators i
    have scope := (Snapshot.scope_of_flush flushed).trans comes.scope_eq
    refine ⟨scope, Snapshot.series_sorted comes.sorted flushed, Snapshot.keys_of_flush flushed,
      fun gauges job key => ?_⟩
    rw [lawful.get?_record ⟨_, now, comes.sorted, flushed⟩, scope]
    by_cases own : job = scopes i
    · subst own
      rw [if_pos rfl, if_pos rfl, ← scope, ← Snapshot.lookup_keys flushed,
        Snapshot.keys_of_flush flushed, Table.lookup_map]
    · rw [if_neg own, if_neg (Ne.symm own)]
  · rw [lawful.isSome_iff]
    refine exists_congr fun s => and_congr_right fun member => ?_
    have points := @Snapshot.Made.mem_points s key (sound.recorded s member) job
    rw [Option.isSome_iff_exists]
    constructor
    · rintro ⟨⟨label, value⟩, there, rfl⟩
      obtain ⟨own, known⟩ := points.1 there
      exact ⟨own, value, known⟩
    · rintro ⟨own, value, known⟩
      exact ⟨_, points.2 ⟨own, known⟩, rfl⟩
  · have made (t : Snapshot) (member : t ∈ s :: later) : t.Made :=
      sound.recorded t (parts ▸ List.mem_append_right _ member)
    rw [GaugeVec.recordAll, parts, List.foldl_append, List.foldl_cons,
      lawful.get?_of_later _ (fun t member => made t (List.mem_cons_of_mem _ member)) silent,
      lawful.get?_record (made s List.mem_cons_self), if_pos rfl, known]
    rfl

def GaugeVec.ofMap : GaugeVec (String × String → Option Float) where
  empty _ := none
  set label value gauges := Function.update gauges label (some value)
  get? gauges label := gauges label

theorem GaugeVec.ofMap_isMap : GaugeVec.ofMap.IsMap id :=
  ⟨fun _ => rfl, fun _ _ _ _ => Function.update_apply ..⟩

def dottedScopes (second : Bool) : String := if second then "a.b" else "a"

def dottedEvents : List (Supply.Event Bool) :=
  [.take false ⟨"b.c", "1", .gauge, 1.0⟩, .take true ⟨"c", "2", .gauge, 1.0⟩, .flush true 0,
    .flush false 0, .record 0, .record 1]

def dotted : Supply Bool := .run dottedScopes (fun _ => 0) dottedEvents

def dottedLast : Snapshot := dotted.recorded.getLast (by decide +kernel)

theorem gauges_show_last_dotted :
    let gauges := GaugeVec.ofMap.recordAll dotted.recorded
    gauges ("a", "b.c") = some 1.0 ∧ (gauges ("a.b", "c")).isSome = true ∧
      (gauges ("a", "c")).isSome = false := by
  obtain ⟨-, present, last⟩ := gauges_show_last GaugeVec.ofMap GaugeVec.ofMap_isMap dottedScopes
    (fun _ => 0) dottedEvents
  refine ⟨?_, (present "a.b" "c").2 (by decide +kernel), ?_⟩
  · have parts : dotted.recorded = dotted.recorded.dropLast ++ [dottedLast] :=
      (List.dropLast_append_getLast _).symm
    have scope : dottedLast.scope = "a" := by decide +kernel
    have shown := last _ dottedLast [] "b.c" 1.0 parts (by decide +kernel) nofun
    rwa [scope] at shown
  · rw [Bool.eq_false_iff]
    exact fun there => absurd ((present "a" "c").1 there) (by decide +kernel)

end Overseer.Stats

/-! ## The exposition -/

namespace Overseer.Exposition

open Stats (GaugeVec Snapshot)

variable {gauges : List ((String × String) × Float)} {label : String × String} {value : Float}

def vec : GaugeVec (List ((String × String) × Float)) where
  empty := []
  set := set
  get? gauges label := (gauges.find? fun g => identity g.1 = identity label).map (·.2)

theorem gauges_foldl_record (e : Exposition) (snapshots : List Snapshot) :
    (snapshots.foldl record e).gauges = snapshots.foldl vec.record e.gauges := by
  induction snapshots generalizing e with
  | nil => rfl
  | cons s rest ih => exact ih (e.record s)

theorem find?_insert (fresh : ∀ g ∈ gauges, identity g.1 ≠ identity label) (name : String) :
    (insert label value gauges).find? (fun g => identity g.1 = name) =
      if identity label = name then some (label, value)
      else gauges.find? fun g => identity g.1 = name := by
  induction gauges with
  | nil => by_cases same : identity label = name <;> simp [insert, same]
  | cons g rest ih =>
      obtain ⟨other, fresh⟩ := List.forall_mem_cons.1 fresh
      unfold insert
      split
      · by_cases same : identity label = name <;> simp [List.find?_cons, same]
      · rw [List.find?_cons, ih fresh, List.find?_cons]
        by_cases same : identity label = name
        · subst same
          simp [other]
        · simp [same]

theorem find?_replace (gauges : List ((String × String) × Float)) (label : String × String)
    (value : Float) (name : String) :
    ((gauges.map fun g => if identity g.1 = identity label then (g.1, value) else g).find?
        fun g => identity g.1 = name).map (·.2) =
      (gauges.find? fun g => identity g.1 = name).map fun g =>
        if name = identity label then value else g.2 := by
  induction gauges with
  | nil => rfl
  | cons g rest ih =>
      by_cases own : identity g.1 = identity label <;>
        by_cases same : identity g.1 = name <;> simp_all

theorem vec_isMap : vec.IsMap identity := by
  refine ⟨fun label => rfl, fun label value gauges label' => ?_⟩
  show ((set label value gauges).find? _).map _ = if _ then _ else (gauges.find? _).map _
  unfold set
  split
  · rename_i known
    rw [find?_replace]
    split
    · rename_i same
      rw [same]
      cases found : gauges.find? fun g => identity g.1 = identity label with
      | none =>
          obtain ⟨g, member, own⟩ := List.any_eq_true.1 known
          exact absurd own (List.find?_eq_none.1 found g member)
      | some g => rfl
    · rfl
  · rename_i unknown
    have fresh : ∀ g ∈ gauges, identity g.1 ≠ identity label := by simpa using unknown
    rw [find?_insert fresh]
    by_cases same : identity label = identity label'
    · rw [if_pos same, if_pos same.symm]
      rfl
    · rw [if_neg same, if_neg (Ne.symm same)]

theorem get?_eq_of_apart {V : Type} {m : GaugeVec V} (lawful : m.IsMap id)
    {snapshots : List Snapshot} {job key : String}
    (apart : ∀ s ∈ snapshots, ∀ p ∈ s.points, identity p.1 = identity (job, key) →
      p.1 = (job, key)) :
    (snapshots.foldl record empty).get? job key = m.get? (m.recordAll snapshots) (job, key) := by
  have same : (snapshots.foldl record empty).get? job key =
      vec.get? (vec.recordAll snapshots) (job, key) := by
    rw [get?, gauges_foldl_record]
    rfl
  rw [same, vec_isMap.get?_recordAll, lawful.get?_recordAll]
  refine congrArg _ (List.find?_congr fun p member => ?_)
  obtain ⟨s, recorded, there⟩ := List.mem_flatMap.1 (List.mem_reverse.1 member)
  exact decide_eq_decide.2 ⟨apart s recorded p there, congrArg identity⟩

end Overseer.Exposition
