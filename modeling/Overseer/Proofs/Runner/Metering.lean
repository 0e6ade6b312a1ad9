import Overseer.Proofs.Decimal.RoundTrip
import Overseer.Proofs.Runner.Result
import Overseer.Proofs.Stats.Levels
import Overseer.Proofs.Stats.Line

/-!
# What the gauges of the meter show

The meter and the process of a job post their samples to the same collector, and nothing is kept
for the meter: under its keys the collector takes what comes from the process as well. So a snapshot
shows what was metered last, of what the collector has read, if the first valid sample of the key
was a gauge and if the process has not set or moved the gauge since.
-/

namespace Overseer

def Usage.isSound (u : Usage) : Bool :=
  !Decimal.isNegative u.cpu.toBits && !Decimal.isNaN u.cpu.toBits

theorem Usage.isSound_iff {u : Usage} :
    u.isSound = true ↔
      Decimal.isNegative u.cpu.toBits = false ∧ Decimal.isNaN u.cpu.toBits = false := by
  simp [isSound]

namespace Runner

open Stats (Sample samplesOf sampleOf?)

inductive Gauge where
  | cpu
  | rss
  | vms
  | swap
  deriving DecidableEq, Repr

namespace Gauge

def key : Gauge → String
  | cpu => "_cpu_"
  | rss => "_rss_"
  | vms => "_vms_"
  | swap => "_swap_"

def all : List Gauge := [cpu, rss, vms, swap]

def value (u : Usage) : Gauge → Float
  | cpu => u.cpu
  | rss => Decimal.floatOfNat u.rss.toNat
  | vms => Decimal.floatOfNat u.vms.toNat
  | swap => Decimal.floatOfNat u.swap.toNat

def text (u : Usage) : Gauge → String
  | cpu => Decimal.render .plain u.cpu
  | rss => toString u.rss.toNat
  | vms => toString u.vms.toNat
  | swap => toString u.swap.toNat

def line (u : Usage) (g : Gauge) : String := s!"{g.key}:{g.text u}|{Stats.Kind.gauge.name}"

def sample (u : Usage) (g : Gauge) : Sample := ⟨g.key, g.text u, .gauge, 1.0⟩

theorem key_inj {g h : Gauge} (same : g.key = h.key) : g = h := by
  revert same
  cases g <;> cases h <;> decide

theorem usageLines_eq (u : Usage) : usageLines u = all.map (line u) := by
  have kind (text : String) : text ++ "|" ++ "g" = text ++ "|g" := String.append_assoc ..
  simp only [all, List.map_cons, List.map_nil, line, key, Gauge.text, Stats.Kind.name]
  exact congrArg₂ _ (kind _).symm (congrArg₂ _ (kind _).symm
    (congrArg₂ _ (kind _).symm (congrArg₂ _ (kind _).symm rfl)))

/-! ## What the meter writes is read back -/

variable {u : Usage}

theorem text_plain (u : Usage) (g : Gauge) : g.text u ≠ "" ∧ '|' ∉ (g.text u).toList := by
  have whole (n : Nat) : toString n ≠ "" ∧ '|' ∉ (toString n).toList := by
    rw [ne_eq, ← String.toList_eq_nil_iff, Decimal.toList_toString]
    refine ⟨Decimal.natDigits_ne_nil n, fun bar => ?_⟩
    exact absurd (Decimal.isAsciiDigit_of_mem bar) (by decide)
  cases g with
  | cpu =>
      cases number : Decimal.isNaN u.cpu.toBits with
      | true => simp [text, Decimal.render, number]
      | false =>
          obtain ⟨c, rest, shown, first, others⟩ := Decimal.render_plain number
          rw [text, ne_eq, ← String.toList_eq_nil_iff, shown]
          refine ⟨List.append_ne_nil_of_right_ne_nil _ (List.cons_ne_nil _ _), fun bar => ?_⟩
          rcases List.mem_append.1 bar with sign | bar
          · split at sign <;> simp at sign
          rcases List.mem_cons.1 bar with same | behind
          · rw [← same] at first
            revert first
            decide
          · have strange := others _ behind
            revert strange
            decide
  | rss | vms | swap => exact whole _

theorem key_plain (g : Gauge) :
    g.key ≠ "" ∧ (∀ c, g.key.toList.head? = some c → Text.isBlank c = false) ∧
      ':' ∉ g.key.toList := by
  cases g <;> simp [key] <;> decide

theorem parse_line (u : Usage) (g : Gauge) : Sample.parse (g.line u) = .ok (g.sample u) :=
  Sample.parse_line g.key_plain.1 g.key_plain.2.1 g.key_plain.2.2 (g.text_plain u).1
    (g.text_plain u).2

theorem read?_text (sound : u.isSound = true) (g : Gauge) :
    Decimal.read? (g.text u).toList = some (g.value u) := by
  have whole (n : UInt64) :
      Decimal.read? (toString n.toNat).toList = some (Decimal.floatOfNat n.toNat) := by
    rw [Decimal.toList_toString, Decimal.read?_natDigits n.toNat_lt]
  cases g with
  | cpu =>
      obtain ⟨positive, number⟩ := Usage.isSound_iff.1 sound
      exact Decimal.read?_render positive number
  | rss | vms | swap => exact whole _

theorem number_sample (sound : u.isSound = true) (g : Gauge) :
    (g.sample u).number = g.value u := by
  rw [Sample.number, sample, read?_text sound]
  rfl

theorem text_begins (sound : u.isSound = true) (g : Gauge) :
    ∃ c rest, (g.text u).toList = c :: rest ∧ (Text.isAsciiDigit c = true ∨ c = 'i') := by
  have whole (n : Nat) : ∃ c rest, (toString n).toList = c :: rest ∧
      (Text.isAsciiDigit c = true ∨ c = 'i') := by
    obtain ⟨c, rest, split⟩ := List.exists_cons_of_ne_nil (Decimal.natDigits_ne_nil n)
    rw [Decimal.toList_toString, split]
    exact ⟨c, rest, rfl, .inl (Decimal.isAsciiDigit_of_mem (split ▸ List.mem_cons_self))⟩
  cases g with
  | cpu =>
      obtain ⟨positive, number⟩ := Usage.isSound_iff.1 sound
      obtain ⟨c, rest, shown, first, -⟩ := Decimal.render_plain number
      rw [positive, if_neg Bool.false_ne_true] at shown
      exact ⟨c, rest, shown, first⟩
  | rss | vms | swap => exact whole _

theorem isSigned_sample (sound : u.isSound = true) (g : Gauge) :
    (g.sample u).isSigned = false := by
  obtain ⟨c, rest, shown, first⟩ := text_begins sound g
  have unsigned : c ≠ '+' ∧ c ≠ '-' := by
    constructor <;> rintro rfl <;> revert first <;> decide
  simp [Sample.isSigned, sample, shown, unsigned]

theorem sampleOf?_line (sound : u.isSound = true) (g : Gauge) :
    sampleOf? g.key (g.line u) = some (g.sample u) := by
  have valid : (g.sample u).isValid = true := by
    simp [Sample.isValid, sample, read?_text sound]
  rw [sampleOf?, parse_line]
  exact Option.filter_some_pos (by simpa [sample] using valid)

theorem sampleOf?_line_other {key : String} {g : Gauge} (other : g.key ≠ key) (u : Usage) :
    sampleOf? key (g.line u) = none := by
  rw [sampleOf?, parse_line]
  exact Option.filter_some_neg (by simp [sample, other])

end Gauge

/-! ## What the collector has read -/

inductive Feed where
  | meter (g : Gauge) (u : Usage)
  | process (line : String)

namespace Feed

def line : Feed → String
  | meter g u => g.line u
  | process line => line

def isMetered : Feed → Bool
  | meter _ _ => true
  | process _ => false

def usage? (g : Gauge) : Feed → Option Usage
  | meter h u => if h = g then some u else none
  | process _ => none

def moves (key : String) (f : Feed) : Bool :=
  (sampleOf? key f.line).any fun s => s.kind == .gauge

end Feed

def Taken.feeds (t : Taken) : List Feed :=
  match t.act, t.before.phase with
  | .sample u, .listening _ => Gauge.all.map (.meter · u)
  | .receive, .listening a =>
      match a.stream with
      | m :: _ => if m.level = .statistics then [.process m.content] else []
      | [] => []
  | _, _ => []

def feeds (past : List Taken) : List Feed := past.reverse.flatMap Taken.feeds

def Taken.sampled? (t : Taken) : Option Usage :=
  match t.act with
  | .sample u => some u
  | _ => none

def sampled (past : List Taken) : List Usage := past.reverse.filterMap Taken.sampled?

def consumed (past : List Taken) : List Feed := (feeds past).take (reads past).length

/-- The usages that the meter told for a gauge. -/
def metered (g : Gauge) (fs : List Feed) : List Usage := fs.filterMap (Feed.usage? g)

/-- The process has not made something else of the key of a gauge, and what it may have made of the
gauge has been set by the meter since. -/
structure Undisturbed (g : Gauge) (fs : List Feed) : Prop where
  first : (samplesOf g.key (fs.map Feed.line)).head?.all (·.kind == .gauge) = true
  last : (fs.filter (Feed.moves g.key)).getLast?.all Feed.isMetered = true

section
variable {config : Manager.Config} {clock : Clock} {r next : Runner} {act : Action}
  {effects : List Effect} {past later earlier : List Taken} {t : Taken} {key : String}
  {s : Stats.Snapshot} {g : Gauge} {u : Usage} {fs : List Feed}

theorem Taken.lines_eq (t : Taken) : t.lines = t.feeds.map Feed.line := by
  cases act : t.act with
  | sample u =>
      cases phase : t.before.phase <;> simp only [Taken.lines, Taken.feeds, act, phase]
      case listening a => exact Gauge.usageLines_eq u
      all_goals rfl
  | receive =>
      cases phase : t.before.phase <;> simp only [Taken.lines, Taken.feeds, act, phase]
      case listening a =>
        cases a.stream with
        | nil => rfl
        | cons m rest => by_cases counted : m.level = .statistics <;> simp [counted, Feed.line]
      all_goals rfl
  | _ => simp only [Taken.lines, Taken.feeds, act, List.map_nil]

@[simp] theorem feeds_cons : feeds (t :: past) = feeds past ++ t.feeds := by
  simp [feeds]

@[simp] theorem sampled_cons : sampled (t :: past) = sampled past ++ t.sampled?.toList := by
  cases known : t.sampled? <;> simp [sampled, known]

theorem Rule.metered_feeds (rule : Rule config clock r act next effects) (g : Gauge) :
    metered g (Taken.mk clock r act).feeds = (Taken.mk clock r act).sampled?.toList := by
  cases act with
  | sample u =>
      cases rule with
      | sample phase due =>
          simp only [Taken.feeds, Taken.sampled?, phase]
          cases g <;> rfl
  | receive =>
      cases rule with
      | receive phase stream =>
          simp only [Taken.feeds, Taken.sampled?, phase, stream]
          split <;> rfl
      | endOfStream phase stream =>
          simp only [Taken.feeds, Taken.sampled?, phase, stream]
          rfl
  | _ => rfl

theorem History.metered_feeds (history : History config past r) (g : Gauge) :
    metered g (feeds past) = sampled past := by
  induction past generalizing r with
  | nil => rfl
  | cons t past ih =>
      obtain ⟨history, rule⟩ := history.last_rule
      have told := rule.metered_feeds g
      have before := ih history
      rw [metered] at told before ⊢
      rw [feeds_cons, List.filterMap_append, before, told, sampled_cons]

theorem posts_eq (past : List Taken) : posts past = (feeds past).map Feed.line := by
  rw [posts, feeds, List.map_flatMap]
  exact congrArg (past.reverse.flatMap ·) (funext Taken.lines_eq)

theorem History.reads_eq_nil (history : History config past r)
    (never : ∀ t ∈ past, t.before.collector.stopped = true) : reads past = [] := by
  refine List.filterMap_eq_nil_iff.2 fun t member => ?_
  have member := List.mem_reverse.1 member
  obtain ⟨next, rule⟩ := history.rule_of_mem member
  cases rule.dealing with
  | posts none | stops none | ends _ none | flushes _ none => exact none
  | reads _ _ _ _ running => simp [never t member] at running

theorem History.consumed_lines (history : History config past r) :
    (consumed past).map Feed.line = reads past := by
  rcases history.unread with ⟨-, never⟩ | ⟨unread, posted, -⟩
  · rw [consumed, history.reads_eq_nil never]
    rfl
  · rw [consumed, List.map_take, ← posts_eq, posted, List.take_left]

theorem History.consumed_eq (history : History config past r)
    (running : r.collector.stopped = false)
    (idle : ∀ text, r.collector.mailbox.head? ≠ some (.line text)) :
    consumed past = feeds past := by
  rcases history.unread with ⟨stopped, -⟩ | ⟨unread, posted, waiting⟩
  · simp [running] at stopped
  · have none : unread = [] := by
      cases waiting with
      | stopped => rfl
      | running _ mailbox =>
          cases unread with
          | nil => rfl
          | cons text rest => exact absurd (mailbox ▸ rfl) (idle text)
    have all : (reads past).length = (feeds past).length := by
      rw [← List.length_map (f := Feed.line), ← posts_eq, posted, none, List.append_nil]
    rw [consumed, all, List.take_length]

/-! ## What the collector makes of it -/

theorem History.stands (history : History config past r) (key : String) :
    r.collector.aggregator.scope = r.command.id ∧
      Stats.Aggregator.Stands (samplesOf key (reads past))
        (r.collector.aggregator.buffers.lookup key) := by
  induction past generalizing r with
  | nil =>
      cases history with
      | new => exact ⟨rfl, .absent⟩
  | cons t past ih =>
      obtain ⟨history, rule⟩ := history.last_rule
      obtain ⟨scope, stands⟩ := ih history
      rw [rule.command_eq, ← scope, reads_cons]
      have reset : (t.before.collector.aggregator.reset.buffers.lookup key) =
          (t.before.collector.aggregator.buffers.lookup key).map .reset :=
        Table.lookup_map _ _
      cases rule.dealing with
      | posts none collector =>
          have same : r.collector.aggregator = t.before.collector.aggregator := by
            rw [collector, Stats.Collector.foldl_post]
            split <;> rfl
          rw [same, none]
          simpa using stands
      | stops none nothing collector =>
          have same : r.collector.aggregator = t.before.collector.aggregator := by
            rw [collector, Stats.Collector.post]
            split <;> rfl
          rw [same, none]
          simpa using stands
      | reads text rest read nothing running mailbox collector =>
          rw [collector, read]
          exact ⟨(Stats.Aggregator.accept_keeps _ text).1, stands.accept text⟩
      | ends rest none nothing running mailbox collector
      | flushes nextTick none nothing running collector =>
          rw [collector, none, reset, Option.toList_none, List.append_nil]
          exact ⟨rfl, stands.reset⟩

theorem Rule.flushed (rule : Rule config clock r act next effects)
    (shown : .flushed s ∈ effects) :
    r.collector.stopped = false ∧ r.collector.aggregator.snapshot? clock.nanos = some s := by
  have fired (seen : List (Nat × Hook × Firing)) : .flushed s ∉ seen.map Effect.ofFiring := by
    simp [Effect.ofFiring]
  cases rule with
  | collect running letters =>
      cases mailbox : r.collector.mailbox with
      | nil => simp [mailbox] at letters
      | cons letter rest =>
          cases letter with
          | line text => simp [Stats.Collector.receive_line running mailbox] at shown
          | stop =>
              rw [Stats.Collector.receive_stop running mailbox] at shown
              exact ⟨running, by simpa using shown⟩
  | flush due =>
      rw [Stats.Collector.tick_eq] at shown
      exact ⟨Stats.Collector.running_of_due due, by simpa using shown⟩
  | @launch l phase =>
      rw [(launch_shows config clock r l).2] at shown
      rcases List.mem_cons.1 shown with launched | shown
      · cases launched
      · exact absurd shown (fired _)
  | tick phase due =>
      rw [reveal_snd] at shown
      exact absurd shown (fired _)
  | @receive a m rest phase stream =>
      rw [(receive_shows clock r { a with stream := rest } m).2] at shown
      rcases List.mem_append.1 shown with shown | shown
      · exact absurd shown (fired _)
      · split at shown <;> simp at shown
  | @conclude a phase stream closed =>
      rw [(conclude_shows config clock r a).2] at shown
      exact absurd shown (fired _)
  | @farewell result k phase => cases k <;> cases shown <;> rename_i shown <;> cases shown
  | _ => simp at shown

theorem History.shown (history : History config (later ++ t :: earlier) r)
    (shown : .flushed s ∈ t.effects config) (key : String) :
    t.before.collector.stopped = false ∧ ∃ found,
      Stats.Aggregator.Stands (samplesOf key ((consumed earlier).map Feed.line)) found ∧
        s.get? s!"{r.command.id}.{key}" = found.map Stats.Aggregate.value := by
  obtain ⟨before, next, rule⟩ := history.rule_at
  obtain ⟨running, made⟩ := rule.flushed shown
  obtain ⟨scope, stands⟩ := before.stands key
  refine ⟨running, _, before.consumed_lines ▸ stands, ?_⟩
  rw [history.command_eq, ← scope]
  exact Stats.Aggregator.get?_of_flush key made

/-! ## What the meter told last -/

theorem mem_samplesOf {sample : Sample} :
    sample ∈ samplesOf key (fs.map Feed.line) ↔ ∃ f ∈ fs, sampleOf? key f.line = some sample := by
  simp [samplesOf]

theorem exists_latest (latest : (metered g fs).getLast? = some u) :
    ∃ before since, fs = before ++ .meter g u :: since ∧ metered g since = [] := by
  obtain ⟨_, split⟩ := List.getLast?_eq_some_iff.1 latest
  obtain ⟨front, back, rfl, -, last⟩ := List.filterMap_eq_append_iff.1 split
  obtain ⟨between, f, since, rfl, -, told, none⟩ := List.filterMap_eq_cons_iff.1 last
  have same : f = .meter g u := by
    cases f with
    | process line => cases told
    | meter h v =>
        simp only [Feed.usage?] at told
        split at told <;> cases told
        rename_i own
        rw [own]
  exact ⟨front ++ between, since, by rw [same, List.append_assoc], none⟩

theorem Undisturbed.since {before since : List Feed}
    (undisturbed : Undisturbed g (before ++ .meter g u :: since))
    (none : metered g since = []) :
    ∀ s ∈ samplesOf g.key (since.map Feed.line), s.kind ≠ .gauge := by
  have quiet : since.filter (Feed.moves g.key) = [] := by
    -- The last to do it would be the meter, telling another value.
    by_contra moved
    have last := undisturbed.last
    rw [List.append_cons, List.filter_append, List.getLast?_append_of_ne_nil _ moved,
      List.getLast?_eq_some_getLast moved] at last
    have member := List.mem_filter.1 (List.getLast_mem moved)
    generalize (since.filter (Feed.moves g.key)).getLast moved = f at last member
    obtain ⟨posted, moves⟩ := member
    cases f with
    | process line => cases last
    | meter h v =>
        by_cases own : h = g
        · have told := List.filterMap_eq_nil_iff.1 none _ posted
          simp [Feed.usage?, own] at told
        · have other := Gauge.sampleOf?_line_other (fun same => own (Gauge.key_inj same)) v
          simp [Feed.moves, Feed.line, other] at moves
  intro s member gauge
  obtain ⟨f, posted, read⟩ := mem_samplesOf.1 member
  have still := List.filter_eq_nil_iff.1 quiet f posted
  simp [Feed.moves, read, gauge] at still

theorem Undisturbed.eq_value (undisturbed : Undisturbed g fs)
    (latest : (metered g fs).getLast? = some u) (sound : u.isSound = true)
    {found : Option Stats.Aggregate}
    (stands : Stats.Aggregator.Stands (samplesOf g.key (fs.map Feed.line)) found) :
    found = some (.gauge (g.value u)) := by
  obtain ⟨before, since, rfl, none⟩ := exists_latest latest
  have others := undisturbed.since none
  have samples : samplesOf g.key ((before ++ .meter g u :: since).map Feed.line) =
      samplesOf g.key (before.map Feed.line) ++ [g.sample u] ++
        samplesOf g.key (since.map Feed.line) := by
    simp [samplesOf, Feed.line, Gauge.sampleOf?_line sound]
  have first : (samplesOf g.key ((before ++ .meter g u :: since).map Feed.line)).head?.map
      Sample.kind = some .gauge := by
    have first := undisturbed.first
    rw [samples] at first ⊢
    generalize samplesOf g.key (before.map Feed.line) = told at first
    cases told with
    | nil => rfl
    | cons s rest => simpa using first
  have gauge : (g.sample u).kind = .gauge := rfl
  calc found
      = some (.gauge (Stats.Aggregator.level (samplesOf g.key (before.map Feed.line) ++
          [g.sample u]))) := by
        rw [stands.eq_gauge first, samples, Stats.Aggregator.level_append others]
    _ = some (.gauge (g.value u)) := by
        rw [Stats.Aggregator.level_concat, if_pos gauge, Gauge.isSigned_sample sound,
          if_neg Bool.false_ne_true, Gauge.number_sample sound]

theorem Undisturbed.of_silent
    (silent : ∀ line, .process line ∈ fs → sampleOf? g.key line = none) : Undisturbed g fs := by
  have own {f : Feed} {s : Sample} (member : f ∈ fs) (read : sampleOf? g.key f.line = some s) :
      f.isMetered = true ∧ s.kind = .gauge := by
    cases f with
    | process line => cases (silent line member).symm.trans read
    | meter h v =>
        refine ⟨rfl, ?_⟩
        obtain ⟨same, -⟩ := Option.filter_eq_some_iff.1 read
        rw [Feed.line, Gauge.parse_line] at same
        cases same
        rfl
  constructor
  · rw [Option.all_eq_true]
    intro s head
    obtain ⟨f, posted, read⟩ := mem_samplesOf.1 (List.mem_of_head? head)
    simp [(own posted read).2]
  · rw [Option.all_eq_true]
    intro f last
    obtain ⟨posted, moves⟩ := List.mem_filter.1 (List.mem_of_getLast? last)
    obtain ⟨s, read, -⟩ := (Option.any_eq_true _ _).1 moves
    exact (own posted read).1

/-! ## What a snapshot shows -/

/-- A snapshot shows for each gauge what the meter told last, of what the collector had read, if the
process has left the gauge undisturbed; and so it does in every other run in which the collector has
read the same from the meter. A process that does not use the key leaves the gauge undisturbed. The
collector reads in order what the meter has told, which is its samples, and it has read all of that
when the next letter for it is no line. -/
theorem snapshot_shows_metered (history : History config (later ++ t :: earlier) r)
    (shown : .flushed s ∈ t.effects config) :
    (∀ g u, (metered g (consumed earlier)).getLast? = some u → u.isSound = true →
      Undisturbed g (consumed earlier) →
      s.get? s!"{r.command.id}.{g.key}" = some (g.value u) ∧
      ∀ config' later' t' earlier' r' s', History config' (later' ++ t' :: earlier') r' →
        .flushed s' ∈ t'.effects config' → r'.command.id = r.command.id →
        metered g (consumed earlier') = metered g (consumed earlier) →
        Undisturbed g (consumed earlier') →
        s'.get? s!"{r.command.id}.{g.key}" = s.get? s!"{r.command.id}.{g.key}") ∧
    (∀ g, (∀ line, .process line ∈ consumed earlier → sampleOf? g.key line = none) →
      Undisturbed g (consumed earlier)) ∧
    consumed earlier <+: feeds earlier ∧
    (∀ g, metered g (feeds earlier) = sampled earlier) ∧
    ((∀ text, t.before.collector.mailbox.head? ≠ some (.line text)) →
      consumed earlier = feeds earlier) := by
  obtain ⟨before, -⟩ := history.rule_at
  have value {config' : Manager.Config} {later' : List Taken} {t' : Taken} {earlier' : List Taken}
      {q : Runner} {s' : Stats.Snapshot} {g : Gauge} {u : Usage}
      (history' : History config' (later' ++ t' :: earlier') q)
      (shown' : .flushed s' ∈ t'.effects config')
      (latest : (metered g (consumed earlier')).getLast? = some u) (sound : u.isSound = true)
      (undisturbed : Undisturbed g (consumed earlier')) :
      s'.get? s!"{q.command.id}.{g.key}" = some (g.value u) := by
    obtain ⟨-, found, stands, value⟩ := history'.shown shown' g.key
    rw [value, undisturbed.eq_value latest sound stands]
    rfl
  refine ⟨fun g u latest sound undisturbed => ?_, fun g => .of_silent, List.take_prefix _ _,
    before.metered_feeds, before.consumed_eq (history.shown shown Gauge.cpu.key).1⟩
  refine ⟨value history shown latest sound undisturbed, ?_⟩
  intro config' later' t' earlier' r' s' history' shown' same told undisturbed'
  rw [value history shown latest sound undisturbed, ← same]
  exact value history' shown' (told ▸ latest) sound undisturbed'

theorem History.flushes (history : History config past r) (due : r.collector.due clock.now = true)
    (made : r.collector.aggregator.snapshot? clock.nanos = some s) :
    ∃ next, History config ([] ++ ⟨clock, r, .flush⟩ :: past) next ∧
      .flushed s ∈ (Taken.mk clock r .flush).effects config := by
  have step := step?_eq_some_iff.2 (@Rule.flush config clock r due)
  refine ⟨_, history.next step, ?_⟩
  rw [Taken.effects_eq step, Stats.Collector.tick_eq, made]
  exact List.mem_singleton_self _

end

def tracked : Runner := .new .default 0 (.new "job" "test") 0 [] .direct

def said (now : Nat) (line : String) : List (Clock × Action) :=
  [(⟨now, now⟩, .emit (.new .statistics line)), (⟨now, now⟩, .receive), (⟨now, now⟩, .collect)]

def measured (now : Nat) (u : Usage) : List (Clock × Action) :=
  (⟨now, now⟩, .sample u) :: List.replicate 4 (⟨now, now⟩, .collect)

def modest : Usage := ⟨1.5, 1024, 2048, 0⟩

def played? (acts : List (Clock × Action)) : Option (List Taken × Runner) :=
  replay? .default [] tracked ((⟨0, 0⟩, .launch ⟨[], none⟩) :: acts)

theorem history_of_played {acts : List (Clock × Action)} {x : List Taken × Runner}
    (went : played? acts = some x) : History .default x.1 x.2 :=
  .of_replay (.new 0 _ 0 [] .direct) went

def noisy : List Taken × Runner :=
  (played? (said 10 "_rss_:+5|g" ++ measured 30000 modest ++ said 40000 "hits:2|c")).get
    (by decide +kernel)

def silent : List Taken × Runner := (played? (measured 30000 modest)).get (by decide +kernel)

def flushTime : Clock := ⟨90000, 90000⟩

theorem snapshot_shows_metered_noisy :
    metered .rss (consumed noisy.1) = [modest] ∧ Undisturbed .rss (consumed noisy.1) ∧
    ∃ s s', noisy.2.collector.aggregator.snapshot? flushTime.nanos = some s ∧
      silent.2.collector.aggregator.snapshot? flushTime.nanos = some s' ∧
      s.get? "job._rss_" = some 1024.0 ∧ s'.get? "job._rss_" = s.get? "job._rss_" := by
  have history : History .default noisy.1 noisy.2 := history_of_played (Option.some_get _).symm
  have history' : History .default silent.1 silent.2 := history_of_played (Option.some_get _).symm
  obtain ⟨s, made⟩ : ∃ s, noisy.2.collector.aggregator.snapshot? flushTime.nanos = some s :=
    Option.isSome_iff_exists.1 (by decide +kernel)
  obtain ⟨s', made'⟩ : ∃ s, silent.2.collector.aggregator.snapshot? flushTime.nanos = some s :=
    Option.isSome_iff_exists.1 (by decide +kernel)
  obtain ⟨r, flushed, shown⟩ := history.flushes (by decide +kernel) made
  obtain ⟨r', flushed', shown'⟩ := history'.flushes (by decide +kernel) made'
  have id : r.command.id = "job" := by
    rw [flushed.command_eq]
    decide +kernel
  have id' : r'.command.id = "job" := by
    rw [flushed'.command_eq]
    decide +kernel
  obtain ⟨metered_shown, -, -, told, all⟩ := snapshot_shows_metered flushed shown
  obtain ⟨-, -, -, told', all'⟩ := snapshot_shows_metered flushed' shown'
  have idle : noisy.2.collector.mailbox = [] := List.isEmpty_iff.1 (by decide +kernel)
  have idle' : silent.2.collector.mailbox = [] := List.isEmpty_iff.1 (by decide +kernel)
  have known : metered .rss (consumed noisy.1) = [modest] := by
    rw [all fun text => idle ▸ nofun, told]
    rfl
  have known' : metered .rss (consumed silent.1) = [modest] := by
    rw [all' fun text => idle' ▸ nofun, told']
    rfl
  have undisturbed : Undisturbed .rss (consumed noisy.1) :=
    ⟨by decide +kernel, by decide +kernel⟩
  obtain ⟨value, same⟩ :=
    metered_shown .rss modest (by rw [known]; rfl) (by decide +kernel) undisturbed
  have same := same _ _ _ _ _ _ flushed' shown' (id'.trans id.symm) (known'.trans known.symm)
    ⟨by decide +kernel, by decide +kernel⟩
  rw [id] at value same
  exact ⟨known, undisturbed, s, s', made, made', value, same⟩

def shown? (key : String) (acts : List (Clock × Action)) : Option Float := do
  let (_, r) ← played? acts
  let (_, effects) ← r.step? .default flushTime .flush
  let s ← effects.findSome? fun
    | .flushed s => some s
    | _ => none
  s.get? key

def ticks (acts : List (Clock × Action)) : List (Clock × Usage) :=
  acts.filterMap fun
    | (clock, .sample u) => some (clock, u)
    | _ => none

/-- What a process says under a key of the meter counts like what the meter says: it makes something
else of the key, or sets the gauge. Nor is what the meter has told always shown at the next flush:
the collector may not have read it, and a zero with a sign moves the gauge. -/
theorem process_overrides_meter :
    let quiet := measured 30000 modest
    let counting := said 10 "_cpu_:5|c" ++ quiet
    let setting := quiet ++ said 40000 "_cpu_:99|g"
    let waiting := quiet ++ [(⟨60000, 60000⟩, .sample { modest with cpu := 2.5 })]
    let signed := quiet ++ measured 60000 { modest with cpu := -0.0 }
    (ticks counting = ticks quiet ∧ ticks setting = ticks quiet) ∧
    shown? "job._cpu_" quiet = some 1.5 ∧ shown? "job._cpu_" counting = some 5.0 ∧
    shown? "job._cpu_" setting = some 99.0 ∧ shown? "job._cpu_" waiting = some 1.5 ∧
    (0.0 : Float) ≤ -0.0 ∧ shown? "job._cpu_" signed = some 1.5 :=
  ⟨⟨rfl, rfl⟩, by decide +kernel⟩

end Runner

end Overseer
