import Overseer.Stats.Collector

/-!
# What a collector keeps

An aggregator that has taken a sample in reports its key at every later flush. A collector reads its
mailbox in order, and its last flush comes after everything that was posted before the stop.
-/

namespace Overseer.Stats

namespace Aggregator

variable {g next : Aggregator} {line key : String}

def keys (g : Aggregator) : List String := g.buffers.map Prod.fst

theorem mem_insert (k : String) (a : Aggregate) (buffers : List (String × Aggregate)) :
    k ∈ (insert key a buffers).map Prod.fst ↔ k = key ∨ k ∈ buffers.map Prod.fst := by
  induction buffers with
  | nil => simp [insert]
  | cons head rest ih =>
      obtain ⟨first, b⟩ := head
      unfold insert
      by_cases same : key = first
      · simp [same]
      · by_cases before : key < first
        · simp [same, before]
        · simp only [same, before, if_false, List.map_cons, List.mem_cons, ih]
          exact or_left_comm

theorem record_ok {s : Sample} (recorded : g.record s = .ok next) :
    ∃ a, next = { g with buffers := insert s.key a g.buffers } := by
  simp only [record] at recorded
  split at recorded
  · split at recorded
    · cases recorded
      exact ⟨_, rfl⟩
    · cases recorded
  · cases recorded

theorem feed_ok (fed : g.feed line = .ok next) :
    ∃ s, Sample.parse line = .ok s ∧ s.key ∈ next.keys ∧ next.scope = g.scope ∧
      ∀ k ∈ g.keys, k ∈ next.keys := by
  unfold feed at fed
  cases parsed : Sample.parse line with
  | error e =>
      rw [parsed] at fed
      cases fed
  | ok s =>
      rw [parsed] at fed
      obtain ⟨a, rfl⟩ := record_ok fed
      refine ⟨s, rfl, (mem_insert _ _ _).2 (.inl rfl), rfl, ?_⟩
      intro k member
      exact (mem_insert _ _ _).2 (.inr member)

theorem accept_ok (fed : g.feed line = .ok next) : g.accept line = next := by
  simp only [accept, fed]

theorem accept_keeps (g : Aggregator) (line : String) :
    (g.accept line).scope = g.scope ∧ ∀ k ∈ g.keys, k ∈ (g.accept line).keys := by
  cases fed : g.feed line with
  | ok next =>
      obtain ⟨s, -, -, scope, keys⟩ := feed_ok fed
      rw [accept_ok fed]
      exact ⟨scope, keys⟩
  | error e =>
      have same : g.accept line = g := by simp only [accept, fed]
      rw [same]
      exact ⟨rfl, fun k member => member⟩

theorem foldl_accept_keeps (g : Aggregator) (lines : List String) :
    (lines.foldl accept g).scope = g.scope ∧ ∀ k ∈ g.keys, k ∈ (lines.foldl accept g).keys := by
  induction lines generalizing g with
  | nil => exact ⟨rfl, fun k member => member⟩
  | cons line rest ih =>
      obtain ⟨scope, keys⟩ := accept_keeps g line
      obtain ⟨scope', keys'⟩ := ih (g.accept line)
      refine ⟨scope'.trans scope, ?_⟩
      intro k member
      exact keys' k (keys k member)

theorem snapshot_of_mem (member : key ∈ g.keys) (now : Int) :
    ∃ snapshot, g.snapshot? now = some snapshot ∧
      s!"{g.scope}.{key}" ∈ snapshot.series.map Prod.fst := by
  obtain ⟨⟨k, a⟩, found, rfl⟩ := List.mem_map.1 member
  have occupied : g.buffers.isEmpty = false := by
    rw [List.isEmpty_eq_false_iff_exists_mem]
    exact ⟨_, found⟩
  refine ⟨_, by rw [snapshot?, occupied]; rfl, ?_⟩
  rw [List.map_map]
  exact List.mem_map.2 ⟨_, found, rfl⟩

end Aggregator

namespace Collector

variable {c : Collector} {text : String} {rest : List Letter}

theorem post_of_stopped (stopped : c.stopped = true) (l : Letter) : c.post l = c := by
  rw [post, if_pos stopped]

theorem post_of_running (running : c.stopped = false) (l : Letter) :
    c.post l = { c with mailbox := c.mailbox ++ [l] } := by
  simp [post, running]

theorem foldl_post (c : Collector) (lines : List String) :
    lines.foldl (fun c line => c.post (.line line)) c =
      if c.stopped then c else { c with mailbox := c.mailbox ++ lines.map .line } := by
  induction lines generalizing c with
  | nil => simp
  | cons line rest ih =>
      rw [List.foldl_cons, ih]
      cases stopped : c.stopped with
      | true => simp [post_of_stopped stopped, stopped]
      | false => simp [post_of_running stopped, stopped]

theorem receive_line (running : c.stopped = false) (mailbox : c.mailbox = .line text :: rest)
    (epoch : Int) :
    c.receive epoch =
      (none, { c with aggregator := c.aggregator.accept text, mailbox := rest }) := by
  simp [receive, running, mailbox]

theorem receive_stop (running : c.stopped = false) (mailbox : c.mailbox = .stop :: rest)
    (epoch : Int) :
    c.receive epoch =
      (c.aggregator.snapshot? epoch,
        { c with aggregator := c.aggregator.reset, mailbox := rest, stopped := true }) := by
  simp [receive, running, mailbox, flush, Aggregator.flush]

theorem tick_eq (c : Collector) (epoch : Int) :
    c.tick epoch =
      (c.aggregator.snapshot? epoch,
        { c with aggregator := c.aggregator.reset, nextTick := c.nextTick + c.period }) :=
  rfl

theorem running_of_due {now : Nat} (due : c.due now = true) : c.stopped = false := by
  unfold Collector.due at due
  simp only [Bool.and_eq_true, Bool.not_eq_true'] at due
  exact due.1

end Collector

end Overseer.Stats
