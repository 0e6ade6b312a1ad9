import Overseer.Proofs.Runner.Sights

/-!
# The result of a job is its last word

While a job runs, its runner posts lines to the collector, which reads them when it comes to it and
flushes by its own clock. On the way to the result the runner posts a stop behind all of them and
waits for the collector. So when it reports, every line was read, and what the collector made of a
line was flushed.
-/

namespace Overseer.Runner

def Taken.lines (t : Taken) : List String :=
  match t.act, t.before.phase with
  | .sample u, .listening _ => usageLines u
  | .receive, .listening a =>
      match a.stream with
      | m :: _ => if m.level = .statistics then [m.content] else []
      | [] => []
  | _, _ => []

def Taken.read? (t : Taken) : Option String :=
  match t.act, t.before.collector.mailbox with
  | .collect, .line text :: _ => some text
  | _, _ => none

def posts (past : List Taken) : List String := past.reverse.flatMap Taken.lines

def reads (past : List Taken) : List String := past.reverse.filterMap Taken.read?

def Phase.isOver : Phase → Bool
  | .stopping _ | .closing _ _ | .ended _ => true
  | _ => false

def Phase.hasDismissed : Phase → Bool
  | .stopping _ | .closing _ _ | .ended _ | .crashed => true
  | _ => false

/-- A snapshot was flushed of an aggregator that had read the lines up to the flush. -/
def Flushed (config : Manager.Config) (later : List Taken) (g : Stats.Aggregator)
    (snapshot : Stats.Snapshot) : Prop :=
  ∃ newer t between, later = newer ++ t :: between ∧ .flushed snapshot ∈ t.effects config ∧
    ((reads between).foldl Stats.Aggregator.accept g).snapshot? t.clock.nanos = some snapshot

inductive Dealing (t : Taken) (next : Runner) (effects : List Effect) : Prop where
  | posts (unread : t.read? = none)
      (collector : next.collector =
        t.lines.foldl (fun c line => c.post (.line line)) t.before.collector)
      (done : next.phase.hasDismissed = t.before.phase.hasDismissed)
      (nothing : t.before.phase.hasDismissed = true → t.lines = [])
  | stops (unread : t.read? = none) (nothing : t.lines = [])
      (collector : next.collector = t.before.collector.post .stop)
      (going : t.before.phase.hasDismissed = false) (done : next.phase.hasDismissed = true)
  | reads (text : String) (rest : List Stats.Letter) (read : t.read? = some text)
      (nothing : t.lines = []) (running : t.before.collector.stopped = false)
      (mailbox : t.before.collector.mailbox = .line text :: rest)
      (collector : next.collector =
        { t.before.collector with
          aggregator := t.before.collector.aggregator.accept text, mailbox := rest })
      (done : next.phase.hasDismissed = t.before.phase.hasDismissed)
  | ends (rest : List Stats.Letter) (unread : t.read? = none) (nothing : t.lines = [])
      (running : t.before.collector.stopped = false)
      (mailbox : t.before.collector.mailbox = .stop :: rest)
      (collector : next.collector =
        { t.before.collector with
          aggregator := t.before.collector.aggregator.reset, mailbox := rest, stopped := true })
      (done : next.phase.hasDismissed = t.before.phase.hasDismissed)
      (shown : effects =
        (t.before.collector.aggregator.snapshot? t.clock.nanos).toList.map .flushed)
  | flushes (nextTick : Nat) (unread : t.read? = none) (nothing : t.lines = [])
      (running : t.before.collector.stopped = false)
      (collector : next.collector =
        { t.before.collector with aggregator := t.before.collector.aggregator.reset, nextTick })
      (done : next.phase.hasDismissed = t.before.phase.hasDismissed)
      (shown : effects =
        (t.before.collector.aggregator.snapshot? t.clock.nanos).toList.map .flushed)

section
variable {config : Manager.Config} {clock : Clock} {r next : Runner} {act : Action}
  {effects : List Effect} {past later earlier : List Taken} {t : Taken} {line key : String}
  {g : Stats.Aggregator}

@[simp] theorem posts_cons : posts (t :: past) = posts past ++ t.lines := by
  simp [posts]

@[simp] theorem reads_cons : reads (t :: past) = reads past ++ t.read?.toList := by
  cases read : t.read? <;> simp [reads, read]

theorem Rule.dealing (rule : Rule config clock r act next effects) :
    Dealing ⟨clock, r, act⟩ next effects := by
  cases rule with
  | collect running letters =>
      cases mailbox : r.collector.mailbox with
      | nil => simp [mailbox] at letters
      | cons letter rest =>
          cases letter with
          | line text =>
              refine .reads text rest ?_ rfl running mailbox ?_ rfl
              · simp only [Taken.read?, mailbox]
              · simp only [Stats.Collector.receive_line running mailbox]
          | stop =>
              refine .ends rest ?_ rfl running mailbox ?_ rfl ?_
              · simp only [Taken.read?, mailbox]
              · simp only [Stats.Collector.receive_stop running mailbox]
              · simp only [Stats.Collector.receive_stop running mailbox]
  | flush due =>
      exact .flushes _ rfl rfl (Stats.Collector.running_of_due due) rfl rfl rfl
  | @launch l phase =>
      obtain ⟨hooks, q, seen, launch, -, launched⟩ := launch_cases config clock r l
      rw [launch]
      cases launched with
      | followed => exact .posts rfl rfl (by rw [phase]; rfl) (fun _ => rfl)
      | crashed | failed => exact .stops rfl rfl rfl (by rw [phase]; rfl) rfl
  | sample phase due =>
      refine .posts rfl ?_ (by rw [phase]; rfl) fun done => ?_
      · simp only [Taken.lines, phase]
      · simp [phase, Phase.hasDismissed] at done
  | @receive a m rest phase stream =>
      obtain ⟨hooks, collector, p, received, following⟩ :=
        receive_fst clock r { a with stream := rest } m
      have posted : (r.receive clock { a with stream := rest } m).1.collector =
          if m.level = .statistics then r.collector.post (.line m.content) else r.collector := rfl
      refine .posts rfl ?_ ?_ fun done => ?_
      · simp only [Taken.lines, phase, stream, posted]
        split <;> rfl
      · rw [received, phase]
        rcases following with ⟨b, rfl⟩ | ⟨b, rfl⟩ <;> rfl
      · simp [phase, Phase.hasDismissed] at done
  | endOfStream phase stream closed =>
      refine .posts rfl ?_ (by rw [phase]; rfl) fun _ => ?_ <;> simp [Taken.lines, phase, stream]
  | @conclude a phase stream closed =>
      obtain ⟨hooks, concluded⟩ := conclude_fst config clock r a
      rw [concluded]
      have going : r.phase.hasDismissed = false := by rw [phase]; rfl
      split
      · exact .stops rfl rfl rfl going rfl
      · split
        · exact .posts rfl rfl going.symm (fun _ => rfl)
        · exact .stops rfl rfl rfl going rfl
  | abandon phase killed => exact .stops rfl rfl rfl (by rw [phase]; rfl) rfl
  | @farewell result k phase =>
      refine .posts rfl ?_ ?_ fun _ => rfl <;> cases k
      all_goals first | rfl | rw [phase]; rfl
  | kill => exact .posts rfl rfl rfl (fun _ => rfl)
  | obey phase | expire phase | tick phase | emit phase | hangUp phase | discard phase
  | lateEmit phase | lateHangUp phase | resume phase | report phase =>
      exact .posts rfl rfl (by rw [phase]; rfl) (fun _ => rfl)

/-! ## No line is lost -/

/-- The lines that the collector has still to read. There are none when it has stopped; else a stop
comes after them if it was told to. -/
inductive Unread (r : Runner) : List String → Prop where
  | stopped (stopped : r.collector.stopped = true) (done : r.phase.hasDismissed = true) :
      Unread r []
  | running {lines : List String} (running : r.collector.stopped = false)
      (mailbox : r.collector.mailbox =
        lines.map .line ++ if r.phase.hasDismissed then [.stop] else []) : Unread r lines

theorem Dealing.unread {lines : List String} (dealing : Dealing t next effects)
    (unread : Unread t.before lines) :
    ∃ rest, lines ++ t.lines = t.read?.toList ++ rest ∧ Unread next rest := by
  cases dealing with
  | posts none collector done nothing =>
      rw [Stats.Collector.foldl_post] at collector
      refine ⟨lines ++ t.lines, by rw [none]; rfl, ?_⟩
      cases unread with
      | stopped stopped dismissed =>
          rw [if_pos stopped] at collector
          rw [nothing dismissed]
          exact .stopped (by rw [collector, stopped]) (by rw [done, dismissed])
      | running running mailbox =>
          rw [if_neg (by simp [running])] at collector
          refine .running (by rw [collector, running]) ?_
          rw [collector, done, mailbox]
          cases dismissed : t.before.phase.hasDismissed with
          | true => simp [nothing dismissed]
          | false => simp
  | stops none nothing collector going done =>
      cases unread with
      | stopped stopped dismissed => simp [going] at dismissed
      | running running mailbox =>
          rw [Stats.Collector.post_of_running running] at collector
          refine ⟨lines, by simp [none, nothing], .running (by rw [collector, running]) ?_⟩
          rw [collector, mailbox, going, done]
          simp
  | reads text rest read nothing running head collector done =>
      cases unread with
      | stopped stopped dismissed => simp [running] at stopped
      | running _ mailbox =>
          rw [head] at mailbox
          cases lines with
          | nil =>
              cases dismissed : t.before.phase.hasDismissed <;> simp [dismissed] at mailbox
          | cons first others =>
              rw [List.map_cons, List.cons_append, List.cons.injEq] at mailbox
              obtain ⟨same, mailbox⟩ := mailbox
              cases same
              refine ⟨others, by simp [read, nothing], .running (by rw [collector, running]) ?_⟩
              rw [collector, done]
              exact mailbox
  | ends rest none nothing running head collector done shown =>
      cases unread with
      | stopped stopped dismissed => simp [running] at stopped
      | running _ mailbox =>
          rw [head] at mailbox
          cases lines with
          | cons first others => simp at mailbox
          | nil =>
              have dismissed : t.before.phase.hasDismissed = true := by
                cases dismissed : t.before.phase.hasDismissed with
                | true => rfl
                | false => simp [dismissed] at mailbox
              exact ⟨[], by simp [none, nothing],
                .stopped (by rw [collector]) (by rw [done, dismissed])⟩
  | flushes nextTick none nothing running collector done shown =>
      cases unread with
      | stopped stopped dismissed => simp [running] at stopped
      | running _ mailbox =>
          refine ⟨lines, by simp [none, nothing], .running (by rw [collector, running]) ?_⟩
          rw [collector, done]
          exact mailbox

theorem Dealing.stopped (dealing : Dealing t next effects)
    (stopped : t.before.collector.stopped = true) : next.collector.stopped = true := by
  cases dealing with
  | posts none collector =>
      rw [collector, Stats.Collector.foldl_post, if_pos stopped, stopped]
  | stops none nothing collector =>
      rw [collector, Stats.Collector.post_of_stopped stopped, stopped]
  | reads text rest read nothing running | ends rest none nothing running
  | flushes nextTick none nothing running => simp [running] at stopped

/-- What was posted was read in order, up to what is still in the mailbox; unless the collector has
never come to work. -/
theorem History.unread (history : History config past r) :
    (r.collector.stopped = true ∧ ∀ t ∈ past, t.before.collector.stopped = true) ∨
      ∃ unread, posts past = reads past ++ unread ∧ Unread r unread := by
  induction past generalizing r with
  | nil =>
      cases history with
      | new now command factory hooks origin =>
          generalize born : Runner.new config now command factory hooks origin = r
          cases stopped : r.collector.stopped with
          | true => exact .inl ⟨rfl, by simp⟩
          | false =>
              refine .inr ⟨[], rfl, .running stopped ?_⟩
              rw [← born]
              rfl
  | cons t past ih =>
      obtain ⟨history, rule⟩ := history.last_rule
      have dealing := rule.dealing
      rcases ih history with ⟨stopped, always⟩ | ⟨unread, posted, waiting⟩
      · refine .inl ⟨dealing.stopped stopped, ?_⟩
        intro u member
        rcases List.mem_cons.1 member with rfl | member
        · exact stopped
        · exact always u member
      · obtain ⟨rest, balance, waiting⟩ := dealing.unread waiting
        refine .inr ⟨rest, ?_, waiting⟩
        calc posts (t :: past) = reads past ++ (unread ++ t.lines) := by
              rw [posts_cons, posted, List.append_assoc]
          _ = reads (t :: past) ++ rest := by
              rw [balance, reads_cons, List.append_assoc]

theorem History.reads_eq_posts (history : History config past r)
    (stopped : r.collector.stopped = true)
    (worked : ∃ t ∈ past, t.before.collector.stopped = false) : reads past = posts past := by
  rcases history.unread with ⟨-, never⟩ | ⟨unread, posted, waiting⟩
  · obtain ⟨t, member, running⟩ := worked
    simp [never t member] at running
  · cases waiting with
    | stopped => rw [posted, List.append_nil]
    | running running => simp [running] at stopped

/-! ## What was accepted is flushed -/

theorem History.flushed_or_kept (history : History config (later ++ t :: earlier) r)
    (read : t.read? = some line) (fed : t.before.collector.aggregator.feed line = .ok g)
    (member : key ∈ g.keys) :
    (∃ snapshot, Flushed config later g snapshot) ∨
      r.collector.stopped = false ∧
        r.collector.aggregator = (reads later).foldl Stats.Aggregator.accept g := by
  induction later generalizing r with
  | nil =>
      obtain ⟨history, rule⟩ := history.last_rule
      cases rule.dealing with
      | reads text rest reading nothing running mailbox collector =>
          cases reading.symm.trans read
          rw [collector]
          exact .inr ⟨running, Stats.Aggregator.accept_ok fed⟩
      | posts none | stops none | ends rest none | flushes nextTick none =>
          cases none.symm.trans read
  | cons u later ih =>
      obtain ⟨history, rule⟩ := history.last_rule
      rcases ih history with ⟨snapshot, newer, v, between, rfl, flushed⟩ | ⟨running, kept⟩
      · exact .inl ⟨snapshot, u :: newer, v, between, rfl, flushed⟩
      · -- A flush of this step shows what has been kept until now.
        have shows (shown : u.effects config =
            (u.before.collector.aggregator.snapshot? u.clock.nanos).toList.map .flushed) :
            ∃ snapshot, Flushed config (u :: later) g snapshot := by
          obtain ⟨snapshot, made, -⟩ := Stats.Aggregator.snapshot_of_mem
            ((Stats.Aggregator.foldl_accept_keeps g (reads later)).2 key member) u.clock.nanos
          refine ⟨snapshot, [], u, later, rfl, ?_, made⟩
          rw [shown, kept, made]
          exact List.mem_singleton.2 rfl
        cases rule.dealing with
        | posts none collector =>
            rw [Stats.Collector.foldl_post, if_neg (by simp [running])] at collector
            refine .inr ?_
            rw [collector, reads_cons, none]
            simpa using ⟨running, kept⟩
        | stops none nothing collector =>
            rw [Stats.Collector.post_of_running running] at collector
            refine .inr ?_
            rw [collector, reads_cons, none]
            simpa using ⟨running, kept⟩
        | reads text rest reading nothing _ mailbox collector =>
            refine .inr ?_
            rw [collector, reads_cons, reading]
            simpa using ⟨running, congrArg (·.accept text) kept⟩
        | ends rest none nothing _ mailbox collector done shown => exact .inl (shows shown)
        | flushes nextTick none nothing _ collector done shown => exact .inl (shows shown)

theorem History.flushed (history : History config (later ++ t :: earlier) r)
    (stopped : r.collector.stopped = true) (read : t.read? = some line)
    (fed : t.before.collector.aggregator.feed line = .ok g) :
    ∃ sample snapshot, Stats.Sample.parse line = .ok sample ∧ Flushed config later g snapshot ∧
      s!"{g.scope}.{sample.key}" ∈ snapshot.series.map Prod.fst := by
  obtain ⟨sample, parsed, member, -, -⟩ := Stats.Aggregator.feed_ok fed
  rcases history.flushed_or_kept read fed member with ⟨snapshot, flushed⟩ | ⟨running, -⟩
  · refine ⟨sample, snapshot, parsed, flushed, ?_⟩
    obtain ⟨newer, u, between, -, -, made⟩ := flushed
    obtain ⟨scope, keys⟩ := Stats.Aggregator.foldl_accept_keeps g (reads between)
    obtain ⟨_, made', listed⟩ := Stats.Aggregator.snapshot_of_mem (keys _ member) u.clock.nanos
    rw [made] at made'
    cases made'
    rwa [scope] at listed
  · simp [running] at stopped

/-! ## The result -/

theorem History.unseen_after_report (history : History config (later ++ t :: earlier) r)
    (reports : t.act = .report) : r.reported?.isSome = true ∧ sights later = [] := by
  induction later generalizing r with
  | nil =>
      obtain ⟨-, effects, rule⟩ := history.last_step
      rw [reports] at rule
      cases rule with
      | report => exact ⟨rfl, rfl⟩
  | cons u later ih =>
      obtain ⟨history, rule⟩ := history.last_rule
      obtain ⟨reported, unseen⟩ := ih history
      rcases rule.act_of_reported reported (history.stopped_of_reported reported) with act | act
      all_goals
        have silent : u.act ≠ .report := by simp [act]
        refine ⟨by rwa [rule.reported?_eq silent], ?_⟩
        simp [unseen, Taken.sights, Taken.heard?, Taken.received?, act]

theorem History.goes_on (history : History config past r) (done : r.phase.isOver = true)
    (unpublished : r.published? = none) (clock : Clock) :
    ∃ act ∈ [Action.collect, .report, .farewell], (r.step? config clock act).isSome = true := by
  have possible {act : Action} {next : Runner} {effects : List Effect}
      (rule : Rule config clock r act next effects) :
      (r.step? config clock act).isSome = true := by
    rw [step?_eq_some_iff.2 rule]
    rfl
  cases phase : r.phase with
  | stopping result =>
      cases stopped : r.collector.stopped with
      | true => exact ⟨.report, by simp, possible (.report phase stopped)⟩
      | false =>
          refine ⟨.collect, by simp, possible (.collect stopped ?_)⟩
          rcases history.unread with ⟨never, -⟩ | ⟨unread, -, waiting⟩
          · simp [never] at stopped
          · cases waiting with
            | stopped never => simp [never] at stopped
            | running _ mailbox => simp [mailbox, phase, Phase.hasDismissed]
  | closing result k => exact ⟨.farewell, by simp, possible (.farewell phase)⟩
  | ended result => simp [published?, phase] at unpublished
  | starting | listening | draining | pausing | crashed => simp [phase, Phase.isOver] at done

/-- All that others notice of a job comes before its result, and its end comes after it, step by
step; who waits for the job hears of it when all this is done. The hooks see nothing after the
report. Before it the collector has read every line that was posted to it, if it has come to work at
all, and what it accepted was flushed. -/
theorem result_is_last (history : History config past r) :
    (∃ before closing result, trace config past = before ++ closing ∧
      (∀ e ∈ before, e.isQuiet = true) ∧
      closing <+: [.result result, .left, .released, .woke] ∧
      ∀ told, r.published? = some told →
        told = result ∧ closing = [.result result, .left, .released, .woke]) ∧
    (∀ later t earlier, past = later ++ t :: earlier → t.act = .report → sights later = []) ∧
    (r.phase.isOver = true → r.published? = none → ∀ clock,
      ∃ act ∈ [Action.collect, .report, .farewell], (r.step? config clock act).isSome = true) ∧
    ∀ clock, (r.step? config clock .report).isSome = true →
      ((∃ t ∈ past, t.before.collector.stopped = false) → reads past = posts past) ∧
      ∀ later t earlier line g, past = later ++ t :: earlier → t.read? = some line →
        t.before.collector.aggregator.feed line = .ok g →
        ∃ sample snapshot, Stats.Sample.parse line = .ok sample ∧
          Flushed config later g snapshot ∧
          s!"{g.scope}.{sample.key}" ∈ snapshot.series.map Prod.fst := by
  refine ⟨?_, ?_, history.goes_on, fun clock reports => ?_⟩
  · obtain ⟨before, split, quiet⟩ := history.trace_eq
    rcases r.phase.finale_prefix with nothing | ⟨result, part, reported⟩
    · refine ⟨before, r.phase.finale, default, split, quiet, ?_, fun told published => ?_⟩
      · rw [nothing]
        exact List.nil_prefix
      · rw [phase_of_published published] at nothing
        cases nothing
    · refine ⟨before, r.phase.finale, result, split, quiet, part, fun told published => ?_⟩
      rw [phase_of_published published] at reported ⊢
      cases reported
      exact ⟨rfl, rfl⟩
  · rintro later t earlier rfl reports
    exact (history.unseen_after_report reports).2
  · obtain ⟨⟨next, effects⟩, step⟩ := Option.isSome_iff_exists.1 reports
    have stopped : r.collector.stopped = true := by
      cases step?_eq_some_iff.1 step with
      | report phase stopped => exact stopped
    refine ⟨history.reads_eq_posts stopped, ?_⟩
    rintro later t earlier line g rfl read fed
    exact history.flushed stopped read fed

end

def counting : List (Clock × Action) :=
  [(⟨0, 0⟩, .launch ⟨[], none⟩), (⟨5, 5⟩, .emit (.new .statistics "hits:2|c")), (⟨5, 5⟩, .receive),
    (⟨5, 5⟩, .emit (.exit .success)), (⟨5, 5⟩, .receive), (⟨5, 5⟩, .hangUp), (⟨5, 5⟩, .conclude),
    (⟨6, 6⟩, .collect), (⟨6, 6⟩, .collect)]

theorem result_is_last_counting :
    ∃ past r, replay? .default [] (.new .default 0 (.new "job" "test") 0 [] .direct) counting =
        some (past, r) ∧
      (r.step? .default ⟨7, 7⟩ .report).isSome = true ∧ posts past = ["hits:2|c"] ∧
      reads past = ["hits:2|c"] := by
  have played : replay? .default [] (.new .default 0 (.new "job" "test") 0 [] .direct) counting =
      some _ := rfl
  have history := History.of_replay (.new 0 _ 0 [] .direct) played
  refine ⟨_, _, played, rfl, rfl, ?_⟩
  have read := ((result_is_last history).2.2.2 ⟨7, 7⟩ rfl).1
  exact read ⟨_, List.mem_cons_self, rfl⟩

end Overseer.Runner
