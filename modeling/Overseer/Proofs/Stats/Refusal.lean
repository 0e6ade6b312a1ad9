import Overseer.Proofs.Stats.Gauges
import Overseer.Stats.Call

/-!
# Refused calls

A call may be refused because its line is no sample, because its key is of another kind, or because
its value is no number where one is needed. In each case it is refused before it has written
anything into the aggregator (`write_run`). So a run goes on after it as if it had not been made
(`run_heeded`), and a key keeps the kind of the first sample of it that was taken.
-/

namespace Overseer.Stats

theorem Aggregate.absorb_run (key raw : String) (rate : Float) (a : Aggregate) :
    (absorb key raw rate).run a =
      match a.feed raw rate with
      | some b => (.ok (), b)
      | none => (.error (.invalidValue key raw), a) := by
  cases a with
  | set seen => rfl
  | gauge | counter | timer | keyValue =>
      cases read : Decimal.read? raw.toList <;> simp [absorb, number, feed, read] <;> rfl

namespace Aggregator

variable {g : Aggregator} {s : Sample} {key : String} {a : Aggregate}

theorem insert_eq_self {buffers : List (String × Aggregate)}
    (sorted : (buffers.map Prod.fst).Pairwise (· < ·)) (found : buffers.lookup key = some a) :
    insert key a buffers = buffers := by
  induction buffers with
  | nil => cases found
  | cons head rest ih =>
      obtain ⟨first, b⟩ := head
      obtain ⟨least, sorted⟩ := List.pairwise_cons.1 sorted
      rw [Table.lookup_cons] at found
      unfold insert
      split
      · rename_i same
        rw [if_pos same] at found
        cases found
        rw [same]
      · rename_i other
        rw [if_neg other] at found
        have member : key ∈ rest.map Prod.fst := mem_keys_iff (g := ⟨"", 0, rest⟩).2 ⟨a, found⟩
        rw [if_neg (not_lt_of_gt (least key member)), ih sorted found]

def outcome (g : Aggregator) (s : Sample) : Except StatsError Unit × Aggregator :=
  match g.record s with
  | .ok next => (.ok (), next)
  | .error e => (.error e, g)

theorem writeFirst_run (absent : g.buffers.lookup s.key = none) :
    (writeFirst s).run g = g.outcome s := by
  unfold writeFirst outcome record
  simp only [Aggregate.absorb_run, absent, Option.getD_none, Aggregate.kind_new, if_true]
  cases (Aggregate.new s.kind).feed s.value s.rate <;> rfl

theorem writeMore_run (sorted : g.keys.Pairwise (· < ·))
    (found : g.buffers.lookup s.key = some a) : (writeMore s a).run g = g.outcome s := by
  unfold writeMore outcome record
  simp only [Aggregate.absorb_run, found, Option.getD_some]
  by_cases same : a.kind = s.kind
  · rw [if_pos same, if_neg (not_not_intro same)]
    cases a.feed s.value s.rate with
    | some b => rfl
    | none =>
        have back : { g with buffers := insert s.key a g.buffers } = g :=
          congrArg (Aggregator.mk g.scope g.interval) (insert_eq_self sorted found)
        exact congrArg (Prod.mk _) back
  · rw [if_neg same, if_pos same]
    rfl

theorem write_run (sorted : g.keys.Pairwise (· < ·)) : (write s).run g = g.outcome s := by
  have looked : (write s).run g =
      ((g.buffers.lookup s.key).elim (writeFirst s) (writeMore s)).run g := rfl
  cases found : g.buffers.lookup s.key with
  | none => rw [looked, found, Option.elim_none, writeFirst_run found]
  | some a => rw [looked, found, Option.elim_some, writeMore_run sorted found]

/-! ## Calls -/

def Call.sample? : Call → Option Sample
  | .feed line => (Sample.parse line).toOption
  | .record s => some s
  | .flush _ => none
  | .isEmpty => none

def Call.isFlush : Call → Bool
  | .flush _ => true
  | _ => false

def Answer.isRefused : Answer → Bool
  | .refused _ => true
  | _ => false

def Answer.snapshot? : Answer → Option Snapshot
  | .flushed snapshot => snapshot
  | _ => none

def snapshots (g : Aggregator) (calls : List Call) : List Snapshot :=
  (g.run calls).1.filterMap Answer.snapshot?

def heeded (g : Aggregator) : List Call → List Call
  | [] => []
  | c :: rest =>
      if (g.perform c).1.isRefused then heeded (g.perform c).2 rest
      else c :: heeded (g.perform c).2 rest

def broughtIn (g : Aggregator) (calls : List Call) : List Sample :=
  (g.heeded calls).filterMap Call.sample?

/-- What a call does. -/
inductive Course (g : Aggregator) : Call → Answer → Aggregator → Prop where
  | took {c : Call} {s : Sample} {next : Aggregator} (about : c.sample? = some s)
      (recorded : g.record s = .ok next) : Course g c .accepted next
  | refused {c : Call} (filled : c.isFlush = false) (e : StatsError) : Course g c (.refused e) g
  | flushed (now : Int) : Course g (.flush now) (.flushed (g.snapshot? now)) g.reset
  | asked : Course g .isEmpty (.empty g.isEmpty) g

variable {c : Call} {answer : Answer} {next : Aggregator} {scope : String} {interval : Nat}
  {events : List Event}

theorem isFlush_of_sample (about : c.sample? = some s) : c.isFlush = false := by
  cases c with
  | feed | record | isEmpty => rfl
  | flush => cases about

theorem perform_of_sample (sorted : g.keys.Pairwise (· < ·)) (about : c.sample? = some s) :
    g.perform c =
      match g.record s with
      | .ok next => (.accepted, next)
      | .error e => (.refused e, g) := by
  have written : g.perform c = ((write s).run g).map .ofOutcome id := by
    cases c with
    | feed line =>
        have parsed : Sample.parse line = .ok s := by
          cases parsed : Sample.parse line <;> simp [Call.sample?, parsed, Except.toOption] at about
          rw [about]
        show ((writeLine line).run g).map Answer.ofOutcome id = _
        rw [writeLine, parsed]
        rfl
    | record t =>
        cases about
        rfl
    | flush | isEmpty => cases about
  rw [written, write_run sorted, outcome]
  cases g.record s <;> rfl

theorem perform_of_malformed {line : String} {e : StatsError}
    (parsed : Sample.parse line = .error e) : g.perform (.feed line) = (.refused e, g) := by
  show ((writeLine line).run g).map Answer.ofOutcome id = _
  rw [writeLine, parsed]
  rfl

theorem perform_feed (sorted : g.keys.Pairwise (· < ·)) (line : String) :
    (g.perform (.feed line)).2 = g.accept line := by
  unfold accept Aggregator.feed
  cases parsed : Sample.parse line with
  | error e =>
      rw [perform_of_malformed parsed]
      rfl
  | ok s =>
      have about : (Call.feed line).sample? = some s := by
        simp [Call.sample?, parsed, Except.toOption]
      rw [perform_of_sample sorted about]
      show _ = match g.record s with | .ok next => next | .error _ => g
      cases g.record s <;> rfl

theorem course_of_perform (sorted : g.keys.Pairwise (· < ·)) (c : Call) :
    Course g c (g.perform c).1 (g.perform c).2 := by
  cases about : c.sample? with
  | some s =>
      rw [perform_of_sample sorted about]
      cases recorded : g.record s with
      | ok next => exact .took about recorded
      | error e => exact .refused (isFlush_of_sample about) e
  | none =>
      cases c with
      | feed line =>
          cases parsed : Sample.parse line with
          | ok s => simp [Call.sample?, parsed, Except.toOption] at about
          | error e =>
              rw [perform_of_malformed parsed]
              exact .refused rfl e
      | record s => cases about
      | flush now => exact .flushed now
      | isEmpty => exact .asked

theorem Course.refused_eq {e : StatsError} (course : Course g c (.refused e) next) : next = g := by
  cases course
  rfl

def bringsIn (c : Call) (answer : Answer) : List Sample :=
  if answer.isRefused then [] else c.sample?.toList

theorem Course.history (course : Course g c answer next)
    (history : History scope interval events g) :
    ∃ events', History scope interval events' next ∧
      taken events' = taken events ++ bringsIn c answer ∧
      recent events' = if c.isFlush then [] else recent events ++ bringsIn c answer := by
  have same {samples : List Sample} : samples = samples ++ [] := (List.append_nil _).symm
  cases course with
  | @took c s next about recorded =>
      have brought : bringsIn c .accepted = [s] := congrArg Option.toList about
      refine ⟨_, history.take recorded, ?_, ?_⟩ <;> rw [brought]
      · rfl
      · rw [isFlush_of_sample about]
        rfl
  | refused filled e =>
      refine ⟨_, history, same, ?_⟩
      rw [filled]
      exact same
  | flushed now => exact ⟨_, history.flush now, same, rfl⟩
  | asked => exact ⟨_, history, same, same⟩

/-! ## Runs -/

theorem run_cons (g : Aggregator) (c : Call) (rest : List Call) :
    g.run (c :: rest) =
      ((g.perform c).1 :: ((g.perform c).2.run rest).1, ((g.perform c).2.run rest).2) := rfl

theorem run_append (g : Aggregator) (calls more : List Call) :
    g.run (calls ++ more) =
      ((g.run calls).1 ++ ((g.run calls).2.run more).1, ((g.run calls).2.run more).2) := by
  induction calls generalizing g with
  | nil => rfl
  | cons c rest ih => rw [List.cons_append, run_cons, run_cons, ih, List.cons_append]

theorem snapshots_append (g : Aggregator) (calls more : List Call) :
    g.snapshots (calls ++ more) = g.snapshots calls ++ (g.run calls).2.snapshots more := by
  rw [snapshots, run_append, List.filterMap_append]
  rfl

theorem heeded_append (g : Aggregator) (calls more : List Call) :
    g.heeded (calls ++ more) = g.heeded calls ++ (g.run calls).2.heeded more := by
  induction calls generalizing g with
  | nil => rfl
  | cons c rest ih =>
      rw [List.cons_append, heeded, heeded, ih, run_cons]
      split <;> rfl

theorem broughtIn_append (g : Aggregator) (calls more : List Call) :
    g.broughtIn (calls ++ more) = g.broughtIn calls ++ (g.run calls).2.broughtIn more := by
  rw [broughtIn, heeded_append, List.filterMap_append]
  rfl

theorem broughtIn_cons (g : Aggregator) (c : Call) (rest : List Call) :
    g.broughtIn (c :: rest) = bringsIn c (g.perform c).1 ++ (g.perform c).2.broughtIn rest := by
  unfold broughtIn bringsIn
  rw [heeded]
  cases (g.perform c).1.isRefused with
  | true => rfl
  | false => cases about : c.sample? <;> simp [about]

theorem run_heeded (history : History scope interval events g) (calls : List Call) :
    g.run (g.heeded calls) =
      ((g.run calls).1.filter fun answer => !answer.isRefused, (g.run calls).2) := by
  induction calls generalizing g events with
  | nil => rfl
  | cons c rest ih =>
      have course := course_of_perform history.told.sorted c
      obtain ⟨events', history', -⟩ := course.history history
      have ih := ih history'
      rw [run_cons, heeded]
      cases refused : (g.perform c).1.isRefused with
      | true =>
          obtain ⟨e, answer⟩ : ∃ e, (g.perform c).1 = .refused e := by
            cases answer : (g.perform c).1 <;> simp [answer, Answer.isRefused] at refused ⊢
          rw [answer] at course
          have same := course.refused_eq
          rw [same] at ih ⊢
          rw [if_pos rfl, ih]
          simp [refused]
      | false =>
          rw [if_neg Bool.false_ne_true, run_cons, ih]
          simp [refused]

theorem snapshots_heeded (history : History scope interval events g) (calls : List Call) :
    g.snapshots (g.heeded calls) = g.snapshots calls := by
  unfold snapshots
  rw [run_heeded history calls, List.filterMap_filter]
  refine List.filterMap_congr fun answer _ => ?_
  cases answer <;> rfl

theorem History.run (history : History scope interval events g) (calls : List Call) :
    ∃ events', History scope interval events' (g.run calls).2 ∧
      taken events' = taken events ++ g.broughtIn calls ∧
      ((∀ c ∈ calls, c.isFlush = false) → recent events' = recent events ++ g.broughtIn calls) := by
  induction calls generalizing g events with
  | nil => exact ⟨events, history, (List.append_nil _).symm, fun _ => (List.append_nil _).symm⟩
  | cons c rest ih =>
      obtain ⟨events', history', first, since⟩ :=
        (course_of_perform history.told.sorted c).history history
      obtain ⟨events'', history'', more, since'⟩ := ih history'
      refine ⟨events'', history'', ?_, fun filled => ?_⟩
      · rw [more, first, broughtIn_cons, List.append_assoc]
      · obtain ⟨filled, later⟩ := List.forall_mem_cons.1 filled
        rw [since' later, since, filled, broughtIn_cons, if_neg Bool.false_ne_true,
          List.append_assoc]

/-! ## Kinds -/

variable {t : Sample}

theorem Told.kind_of_key (told : Told scope events g) (member : s ∈ taken events) :
    (g.buffers.lookup s.key).map Aggregate.kind = some s.kind := by
  rw [told.lookup member, Option.map_some, kind_summary]

theorem Told.same_kind (told : Told scope events g) (member : s ∈ taken events)
    (member' : t ∈ taken events) (same : t.key = s.key) : t.kind = s.kind := by
  have kind := told.kind_of_key member'
  rw [same, told.kind_of_key member] at kind
  exact (Option.some.inj kind).symm

theorem Told.record_other (told : Told scope events g) (member : s ∈ taken events)
    (same : t.key = s.key) (other : t.kind ≠ s.kind) :
    g.record t = .error (.inconsistent s.key s.kind t.kind) := by
  simp only [record, same, told.lookup member, Option.getD_some, kind_summary,
    if_neg (Ne.symm other)]

/-- A call that is refused makes no difference to any later one. The answers of a run, and so its
snapshots, are those of the run without the calls that are refused. The first sample of a key that
is taken settles the kind of the key: whatever is called, all samples of the key that are taken are
of this kind, and a call about one of another kind is refused. -/
theorem refused_calls_leave_no_trace (scope : String) (interval : Nat) (calls : List Call) :
    let fresh := Aggregator.new scope interval
    let g := (fresh.run calls).2
    (∀ c e, (g.perform c).1 = .refused e → ∀ later, (g.perform c).2.run later = g.run later) ∧
      (fresh.run (fresh.heeded calls)).1 =
        (fresh.run calls).1.filter (fun answer => !answer.isRefused) ∧
      fresh.snapshots (fresh.heeded calls) = fresh.snapshots calls ∧
      ∀ s ∈ fresh.broughtIn calls,
        (∀ t ∈ fresh.broughtIn calls, t.key = s.key → t.kind = s.kind) ∧
          ∀ c t, c.sample? = some t → t.key = s.key → t.kind ≠ s.kind →
            (g.perform c).1 = .refused (.inconsistent s.key s.kind t.kind) := by
  intro fresh g
  have begun : History scope interval [] fresh := .start
  obtain ⟨events, history, taken, -⟩ := begun.run calls
  have told := history.told
  rw [Aggregator.taken, List.nil_append] at taken
  refine ⟨fun c e refused later => ?_, congrArg Prod.fst (run_heeded begun calls),
    snapshots_heeded begun calls, fun s member => ?_⟩
  · have course := course_of_perform told.sorted c
    rw [refused] at course
    rw [course.refused_eq]
  · rw [← taken] at member ⊢
    refine ⟨fun t => told.same_kind member, fun c t about same other => ?_⟩
    rw [perform_of_sample told.sorted about, told.record_other member same other]

def hit : Sample := ⟨"k", "1", .counter, 1.0⟩
def hitAsGauge : Sample := ⟨"k", "1", .gauge, 1.0⟩

theorem refused_calls_leave_no_trace_crossed :
    let g := ((Aggregator.new "job" 0).run [.record hit, .flush 0]).2
    (g.perform (.record hitAsGauge)).1 = .refused (.inconsistent "k" .counter .gauge) ∧
      ∀ later, (g.perform (.record hitAsGauge)).2.run later = g.run later := by
  intro g
  obtain ⟨traceless, -, -, kinds⟩ :=
    refused_calls_leave_no_trace "job" 0 [.record hit, .flush 0]
  have member : hit ∈ (Aggregator.new "job" 0).broughtIn [.record hit, .flush 0] := by
    have accepted : ((Aggregator.new "job" 0).perform (.record hit)).1.isRefused = false := by
      decide +kernel
    simp [broughtIn, heeded, accepted, Call.sample?]
  have refused := (kinds hit member).2 (.record hitAsGauge) hitAsGauge rfl rfl (by decide)
  exact ⟨refused, traceless _ _ refused⟩

end Aggregator

end Overseer.Stats
