import Mathlib
import Overseer.Proofs.Table
import Overseer.Proofs.Stats.Collector

/-!
# What a flush reports

The value that a flush reports for a key is a function of the samples that were taken for the key:
of all of them for a gauge, and of those since the last flush for every other kind. A flush reports
exactly the keys for which a sample was ever taken.
-/

namespace Overseer.Stats

def Sample.number (s : Sample) : Float := (Decimal.read? s.value.toList).getD 0.0

def Sample.isSigned (s : Sample) : Bool :=
  s.value.toList.head? = some '+' || s.value.toList.head? = some '-'

namespace Aggregator

/-- What an aggregator goes through. A sample that it refuses leaves no trace. -/
inductive Event where
  | taken (s : Sample)
  | flushed (now : Int)

inductive History (scope : String) (interval : Nat) : List Event → Aggregator → Prop where
  | start : History scope interval [] (.new scope interval)
  | take {events : List Event} {g next : Aggregator} {s : Sample}
      (before : History scope interval events g) (recorded : g.record s = .ok next) :
      History scope interval (.taken s :: events) next
  | flush {events : List Event} {g : Aggregator} (before : History scope interval events g)
      (now : Int) : History scope interval (.flushed now :: events) (g.flush now).2

def taken : List Event → List Sample
  | [] => []
  | .taken s :: before => taken before ++ [s]
  | .flushed _ :: before => taken before

/-- The samples that were taken since the last flush, in order. -/
def recent : List Event → List Sample
  | [] => []
  | .taken s :: before => recent before ++ [s]
  | .flushed _ :: _ => []

def ofKey (key : String) (samples : List Sample) : List Sample := samples.filter (·.key = key)

def report (ever recent : List Sample) : Kind → Float
  | .gauge => ever.foldl (fun level s => if s.isSigned then level + s.number else s.number) 0.0
  | .counter => recent.foldl (fun sum s => sum + s.number / s.rate) 0.0
  | .timer =>
      if recent.isEmpty then 0.0
      else recent.foldl (fun sum s => sum + s.number) 0.0 / Decimal.floatOfNat recent.length
  | .set => Decimal.floatOfNat (recent.map (·.value)).toFinset.card
  | .keyValue => (recent.getLast?.map (·.number)).getD 0.0

/-! ## The samples of one key -/

theorem ofKey_concat (key : String) (samples : List Sample) (s : Sample) :
    ofKey key (samples ++ [s]) =
      if s.key = key then ofKey key samples ++ [s] else ofKey key samples := by
  unfold ofKey
  split <;> simp [*]

theorem recent_subset (events : List Event) : recent events ⊆ taken events := by
  induction events with
  | nil => exact List.nil_subset _
  | cons event before ih =>
      cases event with
      | taken s =>
          intro t member
          rcases List.mem_append.1 member with old | new
          · exact List.mem_append_left _ (ih old)
          · exact List.mem_append_right _ new
      | flushed now => exact List.nil_subset _

theorem ofKey_recent {key : String} {events : List Event} (never : ofKey key (taken events) = []) :
    ofKey key (recent events) = [] := by
  have less : ofKey key (recent events) ⊆ ofKey key (taken events) :=
    List.filter_subset _ (recent_subset events)
  exact List.subset_nil.1 (never ▸ less)

def distinct (samples : List Sample) : List String :=
  samples.foldl (fun seen s => if seen.contains s.value then seen else seen ++ [s.value]) []

def summary (ever recent : List Sample) : Kind → Aggregate
  | .gauge => .gauge (report ever recent .gauge)
  | .counter => .counter (report ever recent .counter)
  | .timer => .timer (recent.foldl (fun sum s => sum + s.number) 0.0) recent.length
  | .set => .set (distinct recent)
  | .keyValue => .keyValue (report ever recent .keyValue)

theorem kind_summary (ever recent : List Sample) (kind : Kind) :
    (summary ever recent kind).kind = kind := by cases kind <;> rfl

theorem summary_nil (kind : Kind) : summary [] [] kind = .new kind := by cases kind <;> rfl

theorem distinct_concat (samples : List Sample) (s : Sample) :
    distinct (samples ++ [s]) =
      if (distinct samples).contains s.value then distinct samples
      else distinct samples ++ [s.value] := by
  simp [distinct]

theorem mem_distinct {samples : List Sample} {text : String} :
    text ∈ distinct samples ↔ text ∈ samples.map (·.value) := by
  induction samples using List.reverseRecOn generalizing text with
  | nil => rfl
  | append_singleton samples s ih =>
      rw [distinct_concat, List.map_append, List.mem_append, List.map_singleton,
        List.mem_singleton]
      split
      · rename_i old
        have there : s.value ∈ samples.map (·.value) := ih.1 (by simpa using old)
        rw [ih, or_iff_left_of_imp (fun same => same ▸ there)]
      · rw [List.mem_append, List.mem_singleton, ih]

theorem nodup_distinct (samples : List Sample) : (distinct samples).Nodup := by
  induction samples using List.reverseRecOn with
  | nil => exact .nil
  | append_singleton samples s ih =>
      rw [distinct_concat]
      split
      · exact ih
      · rename_i fresh
        refine ih.append (List.nodup_singleton _) ?_
        simpa using fresh

theorem length_distinct (samples : List Sample) :
    (distinct samples).length = (samples.map (·.value)).toFinset.card := by
  rw [← List.toFinset_card_of_nodup (nodup_distinct samples)]
  congr 1
  ext text
  simp [mem_distinct]

theorem isSigned_value (s : Sample) : Aggregate.isSigned s.value = s.isSigned := by
  unfold Aggregate.isSigned Sample.isSigned
  cases s.value.toList with
  | nil => rfl
  | cons c rest =>
      rw [List.head?_cons, Bool.eq_iff_iff]
      split <;> simp_all

theorem feed_summary {ever recent : List Sample} {kind : Kind} {s : Sample} {a : Aggregate}
    (fed : (summary ever recent kind).feed s.value s.rate = some a) :
    a = summary (ever ++ [s]) (recent ++ [s]) kind := by
  cases kind with
  | set =>
      cases fed
      exact congrArg Aggregate.set (distinct_concat recent s).symm
  | gauge | counter | timer | keyValue =>
      obtain ⟨v, read, rfl⟩ := Option.map_eq_some_iff.1 fed
      have number : s.number = v := by simp [Sample.number, read]
      simp [summary, report, number, isSigned_value]

theorem feed_isSome_iff (a : Aggregate) (raw : String) (rate : Float) :
    (a.feed raw rate).isSome ↔ (a.kind ≠ .set → (Decimal.read? raw.toList).isSome) := by
  cases a <;> simp [Aggregate.feed, Aggregate.kind]

theorem reset_summary (ever recent : List Sample) (kind : Kind) :
    (summary ever recent kind).reset = summary ever [] kind := by cases kind <;> rfl

theorem value_summary (ever recent : List Sample) (kind : Kind) :
    (summary ever recent kind).value = report ever recent kind := by
  cases kind with
  | timer => simp [summary, report, Aggregate.value]
  | set => simp [summary, report, Aggregate.value, length_distinct]
  | gauge | counter | keyValue => rfl

inductive Kept (ever recent : List Sample) : Option Aggregate → Prop where
  | absent (never : ever = []) : Kept ever recent none
  | present {a : Aggregate} (occurs : ever ≠ []) (kinds : ∀ s ∈ ever, s.kind = a.kind)
      (sum : a = summary ever recent a.kind) : Kept ever recent (some a)

theorem Kept.take {ever recent : List Sample} {found : Option Aggregate} {s : Sample}
    {a : Aggregate} (kept : Kept ever recent found) (less : ever = [] → recent = [])
    (same : (found.getD (.new s.kind)).kind = s.kind)
    (fed : (found.getD (.new s.kind)).feed s.value s.rate = some a) :
    Kept (ever ++ [s]) (recent ++ [s]) (some a) := by
  have current : found.getD (.new s.kind) = summary ever recent s.kind ∧
      ∀ t ∈ ever, t.kind = s.kind := by
    cases kept with
    | absent never =>
        rw [never, less never, summary_nil]
        exact ⟨rfl, nofun⟩
    | present _ kinds sum =>
        rw [Option.getD_some] at same ⊢
        rw [← same]
        exact ⟨sum, kinds⟩
  rw [current.1] at fed
  cases feed_summary fed
  refine .present (List.append_ne_nil_of_right_ne_nil _ (List.cons_ne_nil _ _)) ?_ ?_
  · intro t member
    rw [kind_summary]
    rcases List.mem_append.1 member with old | new
    · exact current.2 t old
    · rw [List.mem_singleton.1 new]
  · rw [kind_summary]

theorem Kept.flush {ever recent : List Sample} {found : Option Aggregate}
    (kept : Kept ever recent found) : Kept ever [] (found.map Aggregate.reset) := by
  cases kept with
  | absent never => exact .absent never
  | @present a occurs kinds sum =>
      refine .present occurs (fun s member => ?_) ?_
      · rw [Aggregate.kind_reset]
        exact kinds s member
      · rw [Aggregate.kind_reset, ← reset_summary ever recent, ← sum]

/-! ## The table of accumulators -/

variable {g next : Aggregator} {key : String} {s : Sample}

theorem lookup_insert (k : String) (a : Aggregate) (buffers : List (String × Aggregate)) :
    (insert key a buffers).lookup k = if k = key then some a else buffers.lookup k := by
  induction buffers with
  | nil => exact Table.lookup_cons k key a []
  | cons head rest ih =>
      obtain ⟨first, b⟩ := head
      unfold insert
      by_cases same : key = first
      · subst same
        rw [if_pos rfl, Table.lookup_cons, Table.lookup_cons]
        split <;> rfl
      · rw [if_neg same]
        split
        · exact Table.lookup_cons k key a _
        · rw [Table.lookup_cons, Table.lookup_cons, ih]
          by_cases other : k = first
          · subst other
            simp [Ne.symm same]
          · simp [other]

theorem sorted_insert {a : Aggregate} {buffers : List (String × Aggregate)}
    (sorted : (buffers.map Prod.fst).Pairwise (· < ·)) :
    ((insert key a buffers).map Prod.fst).Pairwise (· < ·) := by
  induction buffers with
  | nil => exact List.pairwise_singleton _ _
  | cons head rest ih =>
      obtain ⟨first, b⟩ := head
      obtain ⟨least, sorted'⟩ := List.pairwise_cons.1 sorted
      unfold insert
      by_cases same : key = first
      · rw [if_pos same, same]
        exact sorted
      · rw [if_neg same]
        split
        · rename_i before
          refine List.pairwise_cons.2 ⟨?_, sorted⟩
          intro k member
          rcases List.mem_cons.1 member with rfl | member
          · exact before
          · exact before.trans (least k member)
        · rename_i after
          refine List.pairwise_cons.2 ⟨?_, ih sorted'⟩
          intro k member
          rcases (mem_insert k a rest).1 member with rfl | member
          · exact lt_of_le_of_ne (not_lt.1 after) (Ne.symm same)
          · exact least k member

theorem record_eq_ok_iff :
    g.record s = .ok next ↔
      ∃ a, ((g.buffers.lookup s.key).getD (.new s.kind)).kind = s.kind ∧
        ((g.buffers.lookup s.key).getD (.new s.kind)).feed s.value s.rate = some a ∧
        next = { g with buffers := insert s.key a g.buffers } := by
  simp only [record]
  split
  · rename_i same
    split
    · rename_i a fed
      simp [same, fed, eq_comm]
    · rename_i fed
      simp [fed]
  · rename_i other
    simp [other]

/-- An aggregator keeps, for every key, what it is to keep of the samples that it took. -/
structure Told (scope : String) (events : List Event) (g : Aggregator) : Prop where
  scope : g.scope = scope
  sorted : g.keys.Pairwise (· < ·)
  kept : ∀ key, Kept (ofKey key (taken events)) (ofKey key (recent events)) (g.buffers.lookup key)
  numbers : ∀ s ∈ taken events, s.kind ≠ .set → (Decimal.read? s.value.toList).isSome

variable {scope : String} {interval : Nat} {events : List Event}

theorem told_new (scope : String) (interval : Nat) : Told scope [] (.new scope interval) :=
  ⟨rfl, .nil, fun _ => .absent rfl, nofun⟩

theorem Told.take (told : Told scope events g) (recorded : g.record s = .ok next) :
    Told scope (.taken s :: events) next := by
  obtain ⟨a, same, fed, rfl⟩ := record_eq_ok_iff.1 recorded
  have kept := (told.kept s.key).take ofKey_recent same fed
  refine ⟨told.scope, sorted_insert told.sorted, fun key => ?_, fun t member => ?_⟩
  · rw [lookup_insert, taken, recent, ofKey_concat, ofKey_concat]
    by_cases own : s.key = key
    · subst own
      simpa using kept
    · simpa [own, Ne.symm own] using told.kept key
  · rcases List.mem_append.1 member with old | new
    · exact told.numbers t old
    · rw [List.mem_singleton.1 new, ← same]
      exact (feed_isSome_iff _ _ _).1 (Option.isSome_of_eq_some fed)

theorem Told.flush (told : Told scope events g) (now : Int) :
    Told scope (.flushed now :: events) (g.flush now).2 := by
  have keys : (g.flush now).2.keys = g.keys := by simp [Aggregator.flush, reset, Aggregator.keys]
  refine ⟨told.scope, keys ▸ told.sorted, fun key => ?_, told.numbers⟩
  have buffers : (g.flush now).2.buffers.lookup key = (g.buffers.lookup key).map .reset :=
    Table.lookup_map Aggregate.reset g.buffers
  rw [buffers]
  exact (told.kept key).flush

theorem History.told (history : History scope interval events g) : Told scope events g := by
  induction history with
  | start => exact told_new scope interval
  | take _ recorded ih => exact ih.take recorded
  | flush _ now ih => exact ih.flush now

theorem mem_keys_iff : key ∈ g.keys ↔ ∃ a, g.buffers.lookup key = some a := by
  rw [← Option.isSome_iff_exists, List.lookup_isSome_iff]
  simp only [Aggregator.keys, List.mem_map, beq_iff_eq]
  exact exists_congr fun entry => and_congr_right fun _ => eq_comm

theorem Told.mem_keys (told : Told scope events g) :
    key ∈ g.keys ↔ ∃ s ∈ taken events, s.key = key := by
  have member (s : Sample) : s ∈ ofKey key (taken events) ↔ s ∈ taken events ∧ s.key = key := by
    simp [ofKey]
  rw [mem_keys_iff]
  constructor
  · rintro ⟨a, found⟩
    have kept := told.kept key
    rw [found] at kept
    cases kept with
    | present occurs =>
        obtain ⟨s, there⟩ := List.exists_mem_of_ne_nil _ occurs
        exact ⟨s, (member s).1 there⟩
  · rintro ⟨s, there⟩
    have kept := told.kept key
    cases found : g.buffers.lookup key with
    | some a => exact ⟨a, rfl⟩
    | none =>
        rw [found] at kept
        cases kept with
        | absent never => exact absurd ((member s).2 there) (by simp [never])

theorem Told.lookup (told : Told scope events g) (member : s ∈ taken events) :
    g.buffers.lookup s.key =
      some (summary (ofKey s.key (taken events)) (ofKey s.key (recent events)) s.kind) := by
  obtain ⟨a, found⟩ := mem_keys_iff.1 (told.mem_keys.2 ⟨s, member, rfl⟩)
  have kept := told.kept s.key
  rw [found] at kept ⊢
  cases kept with
  | present _ kinds sum =>
      have mine : s ∈ ofKey s.key (taken events) := by simpa [ofKey] using member
      rw [kinds s mine, ← sum]

theorem exists_record_iff (history : History scope interval events g) :
    (∃ next, g.record s = .ok next) ↔
      (∀ t ∈ taken events, t.key = s.key → t.kind = s.kind) ∧
        (s.kind ≠ .set → (Decimal.read? s.value.toList).isSome) := by
  have kept := history.told.kept s.key
  have agree : ((g.buffers.lookup s.key).getD (.new s.kind)).kind = s.kind ↔
      ∀ t ∈ ofKey s.key (taken events), t.kind = s.kind := by
    cases found : g.buffers.lookup s.key with
    | none =>
        rw [found] at kept
        cases kept with
        | absent never => simp [never]
    | some a =>
        rw [found] at kept
        cases kept with
        | present occurs kinds =>
            obtain ⟨t, member⟩ := List.exists_mem_of_ne_nil _ occurs
            rw [Option.getD_some]
            exact ⟨fun same u there => (kinds u there).trans same,
              fun all => (kinds t member).symm.trans (all t member)⟩
  have every : (∀ t ∈ ofKey s.key (taken events), t.kind = s.kind) ↔
      ∀ t ∈ taken events, t.key = s.key → t.kind = s.kind := by simp [ofKey]
  rw [← every, ← agree]
  constructor
  · rintro ⟨next, recorded⟩
    obtain ⟨a, same, fed, -⟩ := record_eq_ok_iff.1 recorded
    have number := (feed_isSome_iff _ _ _).1 (Option.isSome_of_eq_some fed)
    rw [same] at number
    exact ⟨same, number⟩
  · rintro ⟨same, number⟩
    rw [← same, ← feed_isSome_iff _ _ s.rate] at number
    obtain ⟨a, fed⟩ := Option.isSome_iff_exists.1 number
    exact ⟨_, record_eq_ok_iff.2 ⟨a, same, fed, rfl⟩⟩

/-! ## Snapshots -/

theorem label_inj {scope key other : String} :
    s!"{scope}.{key}" = s!"{scope}.{other}" ↔ key = other :=
  String.append_right_inj _

theorem lookup_labelled (scope : String) (entries : List (String × Aggregate)) :
    (entries.map fun (k, a) => (s!"{scope}.{k}", a.value)).lookup s!"{scope}.{key}" =
      (entries.lookup key).map Aggregate.value := by
  induction entries with
  | nil => rfl
  | cons head rest ih =>
      obtain ⟨first, a⟩ := head
      simp only [List.map_cons, Table.lookup_cons, label_inj, ih]
      split <;> rfl

theorem flush_eq_some {snapshot : Snapshot} {now : Int} :
    (g.flush now).1 = some snapshot ↔
      g.buffers ≠ [] ∧
        snapshot = {
          scope := g.scope
          timestamp := .ofNat (g.timestamp now)
          series := g.buffers.map fun (key, a) => (s!"{g.scope}.{key}", a.value) } := by
  simp only [Aggregator.flush, snapshot?, List.isEmpty_iff]
  split <;> simp [*, eq_comm]

theorem names_of_flush {snapshot : Snapshot} {now : Int}
    (flushed : (g.flush now).1 = some snapshot) :
    snapshot.series.map Prod.fst = g.keys.map fun key => s!"{g.scope}.{key}" := by
  obtain ⟨-, rfl⟩ := flush_eq_some.1 flushed
  simp [keys]

theorem get?_of_flush {snapshot : Snapshot} {now : Int} (key : String)
    (flushed : (g.flush now).1 = some snapshot) :
    snapshot.get? s!"{g.scope}.{key}" = (g.buffers.lookup key).map Aggregate.value := by
  obtain ⟨-, rfl⟩ := flush_eq_some.1 flushed
  exact lookup_labelled g.scope g.buffers

theorem flush_isSome (g : Aggregator) (now : Int) :
    (g.flush now).1.isSome ↔ g.keys ≠ [] := by
  simp only [flush, snapshot?, keys, List.isEmpty_iff, ne_eq, List.map_eq_nil_iff]
  split <;> simp [*]

theorem Told.keys_eq_nil (told : Told scope events g) : g.keys = [] ↔ taken events = [] := by
  simp only [List.eq_nil_iff_forall_not_mem, told.mem_keys]
  exact ⟨fun none s member => none s.key ⟨s, member, rfl⟩,
    fun none _ there => none _ there.choose_spec.1⟩

/-- A flush makes a snapshot as soon as a sample was ever taken. It has one value for each key for
which one was taken, and no others, and the value is what is to be reported for the samples of the
key. No sample but that of a set is taken whose value is no number. -/
theorem flush_reports (history : History scope interval events g) (now : Int) :
    ((g.flush now).1.isSome ↔ taken events ≠ []) ∧
      (∀ s ∈ taken events, s.kind ≠ .set → (Decimal.read? s.value.toList).isSome) ∧
      ∀ snapshot, (g.flush now).1 = some snapshot →
        (snapshot.series.map Prod.fst).Nodup ∧
        (∀ name, name ∈ snapshot.series.map Prod.fst ↔
          ∃ s ∈ taken events, name = s!"{scope}.{s.key}") ∧
        ∀ s ∈ taken events, snapshot.get? s!"{scope}.{s.key}" =
          some (report (ofKey s.key (taken events)) (ofKey s.key (recent events)) s.kind) := by
  have told := history.told
  refine ⟨?_, told.numbers, fun snapshot flushed => ?_⟩
  · rw [flush_isSome, ne_eq, told.keys_eq_nil]
  rw [names_of_flush flushed, told.scope]
  refine ⟨told.sorted.nodup.map fun _ _ same => label_inj.1 same, fun name => ?_,
    fun s member => ?_⟩
  · simp only [List.mem_map, told.mem_keys]
    constructor
    · rintro ⟨key, ⟨s, member, rfl⟩, rfl⟩
      exact ⟨s, member, rfl⟩
    · rintro ⟨s, member, rfl⟩
      exact ⟨s.key, ⟨s, member, rfl⟩, rfl⟩
  · have value := get?_of_flush s.key flushed
    rwa [told.lookup member, Option.map_some, value_summary, told.scope] at value

def risen : Sample := ⟨"level", "+4", .gauge, 1.0⟩
def fallen : Sample := ⟨"level", "-1.5", .gauge, 1.0⟩

def counted : Sample := ⟨"hits", "3", .counter, 0.5⟩

theorem flush_reports_moved : ∃ g,
    History "job" 0 [.taken fallen, .flushed 0, .taken counted, .taken risen] g ∧
      (g.flush 0).1.isSome ∧
      ∀ snapshot, (g.flush 0).1 = some snapshot →
        (snapshot.get? "job.level").map Float.toBits = some (2.5 : Float).toBits ∧
        (snapshot.get? "job.hits").map Float.toBits = some (0.0 : Float).toBits := by
  have nothing : History "job" 0 [] (.new "job" 0) := .start
  obtain ⟨g₁, first⟩ := (exists_record_iff nothing).2
    ⟨nofun, fun _ => (by decide +kernel : (Decimal.read? risen.value.toList).isSome)⟩
  obtain ⟨g₂, second⟩ := (exists_record_iff (s := counted) (nothing.take first)).2
    ⟨by decide, fun _ => by decide +kernel⟩
  have flushed := ((nothing.take first).take second).flush 0
  obtain ⟨g₃, third⟩ := (exists_record_iff (s := fallen) flushed).2
    ⟨by decide, fun _ => by decide +kernel⟩
  obtain ⟨made, -, reports⟩ := flush_reports (flushed.take third) 0
  refine ⟨g₃, flushed.take third, made.2 (by simp [taken]), fun snapshot made => ?_⟩
  obtain ⟨-, -, values⟩ := reports snapshot made
  have level : snapshot.get? "job.level" = some (report [risen, fallen] [fallen] .gauge) :=
    values risen (by simp [taken])
  have hits : snapshot.get? "job.hits" = some (report [counted] [] .counter) :=
    values counted (by simp [taken])
  rw [level, hits, Option.map_some, Option.map_some]
  exact ⟨congrArg some (by decide +kernel), congrArg some (by decide +kernel)⟩

end Aggregator

end Overseer.Stats
