import Overseer.Proofs.Stats.Refusal

/-!
# Between flushes

Lines that are fed and flushed now and then fall into windows, each of which ends with a flush. A
sample that is taken belongs to one window, and the flush behind it reports it. But for gauges, what
is reported of a key comes from the samples of its window and from no others.
-/

namespace Overseer.Stats.Aggregator

structure Window where
  lines : List String
  epoch : Int

def Window.calls (w : Window) : List Call := w.lines.map .feed ++ [.flush w.epoch]

def work (windows : List Window) (since : List String) : List Call :=
  windows.flatMap Window.calls ++ since.map .feed

/-- An attempt at a snapshot, with the samples that were taken since the attempt before. -/
structure Attempt where
  samples : List Sample
  snapshot : Option Snapshot

def attempts (g : Aggregator) : List Window → List Attempt
  | [] => []
  | w :: rest =>
      ⟨g.broughtIn (w.lines.map .feed), (g.run (w.lines.map .feed)).2.snapshot? w.epoch⟩ ::
        (g.run w.calls).2.attempts rest

/-- Every key that is known by then is in the snapshot. The value of a key that is no gauge is what
the samples of the attempt come to. -/
def Attempt.Reports (scope : String) (earlier : List Sample) (a : Attempt) : Prop :=
  ∀ s ∈ earlier ++ a.samples, ∃ snapshot, a.snapshot = some snapshot ∧
    (s.kind ≠ .gauge → snapshot.get? s!"{scope}.{s.key}" =
      some (report [] (ofKey s.key a.samples) s.kind))

variable {g : Aggregator} {scope : String} {interval : Nat} {events : List Event}

theorem work_feed (windows : List Window) (since : List String) (line : String) :
    work windows (since ++ [line]) = work windows since ++ [.feed line] := by
  simp [work]

theorem work_flush (windows : List Window) (since : List String) (epoch : Int) :
    work (windows ++ [⟨since, epoch⟩]) [] = work windows since ++ [.flush epoch] := by
  simp [work, Window.calls]

/-! ## Snapshots and samples -/

theorem snapshots_feeds (g : Aggregator) (lines : List String) :
    g.snapshots (lines.map .feed) = [] := by
  induction lines generalizing g with
  | nil => rfl
  | cons line rest ih =>
      have silent : g.snapshots [.feed line] = [] := by
        show [Answer.ofOutcome ((writeLine line).run g).1].filterMap Answer.snapshot? = []
        cases ((writeLine line).run g).1 <;> rfl
      rw [List.map_cons, ← List.singleton_append, snapshots_append, silent, ih]
      rfl

theorem snapshots_flush (g : Aggregator) (epoch : Int) :
    g.snapshots [.flush epoch] = (g.snapshot? epoch).toList := by
  show [Answer.flushed (g.snapshot? epoch)].filterMap Answer.snapshot? = _
  cases made : g.snapshot? epoch <;> simp [Answer.snapshot?]

theorem broughtIn_flush (g : Aggregator) (epoch : Int) : g.broughtIn [.flush epoch] = [] := rfl

theorem attempts_snapshots (g : Aggregator) (windows : List Window) :
    (g.attempts windows).filterMap Attempt.snapshot =
      g.snapshots (windows.flatMap Window.calls) := by
  induction windows generalizing g with
  | nil => rfl
  | cons w rest ih =>
      have first : g.snapshots w.calls =
          ((g.run (w.lines.map .feed)).2.snapshot? w.epoch).toList := by
        rw [Window.calls, snapshots_append, snapshots_feeds, snapshots_flush, List.nil_append]
      rw [List.flatMap_cons, snapshots_append, first, ← ih, attempts]
      cases made : (g.run (w.lines.map .feed)).2.snapshot? w.epoch <;> simp

theorem attempts_samples (g : Aggregator) (windows : List Window) :
    (g.attempts windows).flatMap Attempt.samples = g.broughtIn (windows.flatMap Window.calls) := by
  induction windows generalizing g with
  | nil => rfl
  | cons w rest ih =>
      have first : g.broughtIn w.calls = g.broughtIn (w.lines.map .feed) := by
        rw [Window.calls, broughtIn_append, broughtIn_flush, List.append_nil]
      rw [List.flatMap_cons, broughtIn_append, first, ← ih, attempts, List.flatMap_cons]

/-! ## Values -/

theorem report_of_ne_gauge {kind : Kind} (other : kind ≠ .gauge) (ever recent : List Sample) :
    report ever recent kind = report [] recent kind := by
  cases kind with
  | gauge => exact absurd rfl other
  | counter | timer | set | keyValue => rfl

theorem window_reports (history : History scope interval events g) (flushed : recent events = [])
    (w : Window) :
    Attempt.Reports scope (taken events)
      ⟨g.broughtIn (w.lines.map .feed), (g.run (w.lines.map .feed)).2.snapshot? w.epoch⟩ := by
  obtain ⟨events', history', ever, since⟩ := history.run (w.lines.map .feed)
  have told := history'.told
  replace since := since fun c fed => by
    obtain ⟨line, -, rfl⟩ := List.mem_map.1 fed
    rfl
  rw [flushed, List.nil_append] at since
  intro s member
  have member : s ∈ taken events' := ever ▸ member
  have known : (g.run (w.lines.map .feed)).2.keys ≠ [] :=
    mt told.keys_eq_nil.1 (List.ne_nil_of_mem member)
  obtain ⟨snapshot, made⟩ := Option.isSome_iff_exists.1
    ((flush_isSome (g.run (w.lines.map .feed)).2 w.epoch).2 known)
  refine ⟨snapshot, made, fun other => ?_⟩
  have value := get?_of_flush s.key made
  rwa [told.scope, told.lookup member, Option.map_some, value_summary, report_of_ne_gauge other,
    since] at value

theorem History.window (history : History scope interval events g) (w : Window) :
    ∃ events', History scope interval events' (g.run w.calls).2 ∧
      taken events' = taken events ++ g.broughtIn (w.lines.map .feed) ∧ recent events' = [] := by
  obtain ⟨events', history', ever, -⟩ := history.run (w.lines.map .feed)
  refine ⟨.flushed w.epoch :: events', ?_, ever, rfl⟩
  rw [Window.calls, run_append]
  exact history'.flush w.epoch

theorem attempts_report (history : History scope interval events g) (flushed : recent events = [])
    {windows : List Window} {before after : List Attempt} {a : Attempt}
    (cut : g.attempts windows = before ++ a :: after) :
    a.Reports scope (taken events ++ before.flatMap Attempt.samples) := by
  induction windows generalizing g events before with
  | nil => exact absurd cut (by simp [attempts])
  | cons w rest ih =>
      rw [attempts] at cut
      cases before with
      | nil =>
          obtain ⟨rfl, -⟩ := List.cons.inj cut
          rw [List.flatMap_nil, List.append_nil]
          exact window_reports history flushed w
      | cons first before =>
          rw [List.cons_append, List.cons.injEq] at cut
          obtain ⟨rfl, cut⟩ := cut
          obtain ⟨events', history', ever, flushed'⟩ := history.window w
          have reports := ih history' flushed' cut
          rwa [ever, List.append_assoc] at reports

end Overseer.Stats.Aggregator
