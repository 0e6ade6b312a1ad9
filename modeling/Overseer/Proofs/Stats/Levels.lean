import Overseer.Proofs.Stats.Gauges

/-!
# The level of a gauge

A key is a gauge for good if the first valid sample of it that was read is one. Its value is then
what its gauge samples make of it one after the other, whatever else is read and whenever it is
flushed.
-/

namespace Overseer.Stats

def Sample.isValid (s : Sample) : Bool :=
  s.kind == .set || (Decimal.read? s.value.toList).isSome

def sampleOf? (key line : String) : Option Sample :=
  (Sample.parse line).toOption.filter fun s => s.key == key && s.isValid

def samplesOf (key : String) (lines : List String) : List Sample :=
  lines.filterMap (sampleOf? key)

namespace Aggregator

def level (samples : List Sample) : Float :=
  report (samples.filter fun s => s.kind == .gauge) [] .gauge

/-- What is kept of a key: nothing before its first sample, then an accumulator of its kind. -/
inductive Stands : List Sample → Option Aggregate → Prop where
  | absent : Stands [] none
  | gauge {samples : List Sample} (first : samples.head?.map Sample.kind = some .gauge) :
      Stands samples (some (.gauge (level samples)))
  | other {samples : List Sample} {a : Aggregate}
      (first : samples.head?.map Sample.kind = some a.kind) (kind : a.kind ≠ .gauge) :
      Stands samples (some a)

variable {g : Aggregator} {key line : String} {s : Sample} {samples : List Sample}
  {found : Option Aggregate}

def absorb (found : Option Aggregate) (s : Sample) : Option Aggregate :=
  if (found.getD (.new s.kind)).kind = s.kind then
    ((found.getD (.new s.kind)).feed s.value s.rate).or found
  else found

theorem lookup_take (g : Aggregator) (s : Sample) (key : String) :
    (g.take s).buffers.lookup key =
      if s.key = key then absorb (g.buffers.lookup key) s else g.buffers.lookup key := by
  cases recorded : g.record s with
  | ok next =>
      obtain ⟨a, same, fed, rfl⟩ := record_eq_ok_iff.1 recorded
      simp only [Aggregator.take, recorded]
      rw [lookup_insert]
      by_cases own : s.key = key
      · subst own
        simp only [if_true, absorb, same, fed]
        rfl
      · rw [if_neg own, if_neg (Ne.symm own)]
  | error e =>
      simp only [Aggregator.take, recorded]
      split
      · rename_i own
        subst own
        unfold absorb
        split
        · rename_i same
          cases fed : ((g.buffers.lookup s.key).getD (.new s.kind)).feed s.value s.rate with
          | none => rfl
          | some a =>
              rw [record_eq_ok_iff.2 ⟨a, same, fed, rfl⟩] at recorded
              cases recorded
        · rfl
      · rfl

theorem feed_isSome (valid : s.isValid = true) {a : Aggregate} (same : a.kind = s.kind) :
    ∃ b, a.feed s.value s.rate = some b := by
  refine Option.isSome_iff_exists.1 ((feed_isSome_iff a s.value s.rate).2 fun other => ?_)
  rw [same] at other
  simpa [Sample.isValid, other] using valid

theorem absorb_invalid (invalid : s.isValid = false) : absorb found s = found := by
  unfold absorb
  split
  · rename_i same
    have refused : ((found.getD (.new s.kind)).feed s.value s.rate).isSome = false := by
      rw [Bool.eq_false_iff, ne_eq, feed_isSome_iff, same]
      simpa [Sample.isValid] using invalid
    rw [Option.isSome_eq_false_iff, Option.isNone_iff_eq_none] at refused
    rw [refused]
    rfl
  · rfl

theorem level_concat (samples : List Sample) (s : Sample) :
    level (samples ++ [s]) =
      if s.kind = .gauge then
        (if s.isSigned then level samples + s.number else s.number)
      else level samples := by
  unfold level report
  rw [List.filter_append, List.foldl_append]
  by_cases gauge : s.kind = .gauge <;> simp [gauge]

theorem level_append {since : List Sample} (others : ∀ s ∈ since, s.kind ≠ .gauge)
    (samples : List Sample) : level (samples ++ since) = level samples := by
  have none : since.filter (fun s => s.kind == .gauge) = [] := by simpa using others
  rw [level, List.filter_append, none, List.append_nil]
  rfl

theorem feed_gauge (x : Float) (valid : s.isValid = true) (gauge : s.kind = .gauge) :
    (Aggregate.gauge x).feed s.value s.rate =
      some (.gauge (if s.isSigned then x + s.number else s.number)) := by
  obtain ⟨v, read⟩ : ∃ v, Decimal.read? s.value.toList = some v := by
    simpa [Sample.isValid, gauge, Option.isSome_iff_exists] using valid
  simp [Aggregate.feed, Sample.number, read, isSigned_value]

theorem Stands.eq_gauge (stands : Stands samples found)
    (first : samples.head?.map Sample.kind = some .gauge) :
    found = some (.gauge (level samples)) := by
  cases stands with
  | absent => cases first
  | gauge => rfl
  | other other kind => exact absurd (Option.some.inj (other.symm.trans first)) kind

theorem Stands.absorb (stands : Stands samples found) (valid : s.isValid = true) :
    Stands (samples ++ [s]) (absorb found s) := by
  cases stands with
  | absent =>
      have kinds : ((none : Option Aggregate).getD (.new s.kind)).kind = s.kind :=
        Aggregate.kind_new _
      rw [Aggregator.absorb, if_pos kinds, Option.getD_none]
      by_cases gauge : s.kind = .gauge
      · have level := level_concat [] s
        rw [if_pos gauge] at level
        rw [gauge, Aggregate.new, feed_gauge 0.0 valid gauge]
        exact level ▸ .gauge (by simp [gauge])
      · obtain ⟨a, fed⟩ := feed_isSome valid (Aggregate.kind_new s.kind)
        have kind : a.kind = s.kind := (Aggregate.kind_of_feed fed).trans (Aggregate.kind_new _)
        rw [fed]
        exact .other (by simp [kind]) (by rwa [kind])
  | gauge first =>
      have first' : (samples ++ [s]).head?.map Sample.kind = some .gauge := by
        rw [List.head?_append, Option.map_or, first]
        rfl
      have level := level_concat samples s
      have kind : (Aggregate.gauge (Aggregator.level samples)).kind = .gauge := rfl
      rw [Aggregator.absorb, Option.getD_some, kind]
      by_cases gauge : s.kind = .gauge
      · rw [if_pos gauge] at level
        rw [if_pos gauge.symm, feed_gauge _ valid gauge]
        exact level ▸ .gauge first'
      · rw [if_neg gauge] at level
        rw [if_neg (Ne.symm gauge)]
        exact level ▸ .gauge first'
  | @other _ a first kind =>
      have first' : (samples ++ [s]).head?.map Sample.kind = some a.kind := by
        rw [List.head?_append, Option.map_or, first]
        rfl
      rw [Aggregator.absorb, Option.getD_some]
      split
      · rename_i same
        obtain ⟨b, fed⟩ := feed_isSome valid same
        have kept := Aggregate.kind_of_feed fed
        rw [fed]
        exact .other (by rw [kept, first']) (by rwa [kept])
      · exact .other first' kind

theorem Stands.reset (stands : Stands samples found) :
    Stands samples (found.map Aggregate.reset) := by
  cases stands with
  | absent => exact .absent
  | gauge first => exact .gauge first
  | other first kind =>
      refine .other ?_ ?_
      · rw [Aggregate.kind_reset, first]
      · rwa [Aggregate.kind_reset]

theorem Stands.accept {lines : List String}
    (stands : Stands (samplesOf key lines) (g.buffers.lookup key)) (line : String) :
    Stands (samplesOf key (lines ++ [line])) ((g.accept line).buffers.lookup key) := by
  have append : samplesOf key (lines ++ [line]) =
      samplesOf key lines ++ (sampleOf? key line).toList := by
    cases known : sampleOf? key line <;> simp [samplesOf, known]
  rw [append, accept_eq]
  cases parsed : Sample.parse line with
  | error e => simpa [sampleOf?, parsed, Except.toOption] using stands
  | ok s =>
      rw [lookup_take]
      by_cases own : s.key = key
      · by_cases valid : s.isValid = true
        · have known : sampleOf? key line = some s := by
            simp [sampleOf?, parsed, Except.toOption, own, valid]
          rw [known, if_pos own]
          exact stands.absorb valid
        · have known : sampleOf? key line = none := by
            simp [sampleOf?, parsed, Except.toOption, valid]
          rw [known, if_pos own, absorb_invalid (eq_false_of_ne_true valid)]
          simpa using stands
      · have known : sampleOf? key line = none := by
          simp [sampleOf?, parsed, Except.toOption, own]
        rw [known, if_neg own]
        simpa using stands

end Aggregator

end Overseer.Stats
