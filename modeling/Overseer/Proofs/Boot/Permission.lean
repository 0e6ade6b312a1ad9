import Overseer.Proofs.Boot.Fate

/-!
# Who may start

An entry of a slice is passed on to be run once at most, and only when all that it depends on within
the slice is up. A failure goes on to whatever depends on the entry that failed: no flag of a slice
becomes true unless everything that its entry depends on is true.
-/

namespace Overseer.Manager

open Boot

/-- Whether a step leaves the flags of the slices to the slices. Their flags are private, so that a
hook that comes with a command from outside cannot release one. -/
def Action.isSecluded : Action → Bool
  | .call (.run _ hooks) => hooks.all fun h => h.flag.isNone
  | _ => true

namespace System

def Cleared (s : System) (g : FlagRef) : Prop :=
  ∃ e ∈ s.roster g.slice, e.key = g.key ∧ ∀ dep ∈ e.dependencies, s.flag? ⟨g.slice, dep⟩ = some true

structure Guarded (s : System) : Prop where
  hooks : ∀ {k : Nat} {r : Runner} {h : Hook} {g : FlagRef},
    s.runners[k]? = some r → h ∈ r.hooks → h.flag = some g → s.Cleared g
  flags : ∀ {g : FlagRef}, s.flag? g = some true →
    s.Cleared g ∨ g.key ∉ (s.roster g.slice).map Entry.key

variable {s next : System} {act : Action} {g : FlagRef} {past : List Taken}

theorem flag_of_readiness {e : Entry} {h : Hook} (member : h ∈ e.readinessHooks g) :
    h.flag = some g := by
  obtain ⟨trigger, -, rfl⟩ := List.mem_map.1 member
  rfl

theorem slice_lt_of_flag {v : Bool} (known : s.flag? g = some v) : g.slice < s.slices.length := by
  by_contra beyond
  rw [flag?, List.getElem?_eq_none (Nat.le_of_not_lt beyond)] at known
  cases known

theorem Cleared.slice_lt (cleared : s.Cleared g) : g.slice < s.slices.length := by
  obtain ⟨e, member, -⟩ := cleared
  by_contra beyond
  rw [roster, tasks_beyond (Nat.le_of_not_lt beyond)] at member
  cases member

theorem Cleared.stays (cleared : s.Cleared g) (turn : s.Turn act next) : next.Cleared g := by
  have there := cleared.slice_lt
  obtain ⟨e, member, own, up⟩ := cleared
  exact ⟨e, (turn.roster_eq there).symm ▸ member, own,
    fun dep needed => turn.flag?_stays (up dep needed)⟩

theorem Guarded.step (guarded : Guarded s) (filed : Filed past s) (turn : s.Turn act next)
    (secluded : act.isSecluded = true) : Guarded next := by
  refine ⟨fun {k r h g} found member flag => ?_, fun {g} known => ?_⟩
  · rcases turn.hook_of_mem found member with ⟨r', before, h', inside, same⟩ |
      ⟨c, hooks, rfl, inside⟩ | ⟨n, i, slice, t, rfl, there, task, verdict, inside⟩
    · exact (guarded.hooks before inside ((congrArg Prod.snd same).trans flag)).stays turn
    · have unflagged := List.all_eq_true.1 secluded h inside
      rw [flag] at unflagged
      cases unflagged
    · obtain rfl : g = ⟨n, t.entry.key⟩ :=
        Option.some.inj (flag.symm.trans (flag_of_readiness inside))
      have listed : t ∈ s.tasks n := by
        rw [tasks_of_slice there]
        exact List.mem_of_getElem? task
      have cleared : s.Cleared ⟨n, t.entry.key⟩ := by
        refine ⟨t.entry, List.mem_map_of_mem listed, rfl, fun dep needed => ?_⟩
        rw [flag?_of_slice there]
        exact Slice.all_true_of_verdict (filed.waits listed) verdict dep needed
      exact cleared.stays turn
  · rcases turn.flag?_true known with before | ⟨k, r, found, h, member, flag⟩ | ⟨entries, founds⟩
    · rw [turn.roster_eq (slice_lt_of_flag before)]
      exact (guarded.flags before).imp_left fun cleared => cleared.stays turn
    · exact .inl ((guarded.hooks found member flag).stays turn)
    · rw [founds.flags, Slice.get?_start] at known
      split at known
      · rename_i unprovided
        refine .inr ?_
        rw [roster, founds.tasks]
        simpa [Slice.start] using unprovided.2
      · cases known

end System

section
variable {config : Config} {dawn : Int} {past : List Taken} {s : System} {j n : Nat}
  {entries : List Entry} {e : Entry}

theorem History.guarded (history : History config dawn past s)
    (secluded : ∀ t ∈ past, t.act.isSecluded = true) : s.Guarded := by
  induction history with
  | new =>
      refine ⟨fun {k r h g} found => ?_, fun {g} known => ?_⟩
      · simp [System.new] at found
      · simp [System.flag?, System.new] at known
  | @next past s next act history step ih =>
      have before := ih fun t member => secluded t (List.mem_cons_of_mem _ member)
      exact before.step history.filed (System.turn_of_step step) (secluded _ List.mem_cons_self)

theorem isUp_iff {slice : Slice} (found : s.slices[n]? = some slice)
    (grows : (Slice.start entries).Grows slice) :
    slice.isUp = true ↔ ∀ e ∈ entries, (s.flag? ⟨n, e.key⟩).isSome = true := by
  rw [Slice.isUp, grows.provided, Slice.provided_start, List.all_eq_true, List.forall_mem_map]
  simp only [System.flag?_of_slice found]

theorem roster_of_opening (history : History config dawn past s)
    (opens : (n, entries) ∈ openings j past) : s.roster n = entries := by
  obtain ⟨_, slice, -, found, grows, -⟩ := history.of_opening opens
  have kept := congrArg (List.map Prod.fst) grows.tasks
  rw [System.roster, System.tasks_of_slice found]
  simpa [Slice.start, List.map_map, Function.comp_def] using kept

/-- How the entries of a slice are let go, at any time after it was begun. An entry is provided for
when its key is one of the slice. -/
structure Gated (past : List Taken) (s : System) (j n : Nat) (entries : List Entry) : Prop where
  /-- No entry is passed on twice. -/
  once : (((submissions past).filter (·.1 == n)).map (·.2.key)).Nodup
  /-- An entry that is passed on has not been before, and all that it depends on is up. -/
  ready : ∀ act e, s.submission? act = some (n, e) → e ∈ entries ∧ (n, e) ∉ submissions past ∧
    ∀ dep ∈ e.dependencies, dep ∈ entries.map Entry.key → s.flag? ⟨n, dep⟩ = some true
  /-- A failure keeps what depends on it from being run, and from counting as up. -/
  barred : ∀ e ∈ entries, ∀ dep ∈ e.dependencies, dep ∈ entries.map Entry.key →
    s.flag? ⟨n, dep⟩ = some false →
      (n, e) ∉ submissions past ∧ (∀ act, s.submission? act ≠ some (n, e)) ∧
        s.flag? ⟨n, e.key⟩ ≠ some true
  /-- Nothing but a key of the slice keeps an entry from being passed on. -/
  free : ∀ e ∈ entries,
    (∀ dep ∈ e.dependencies, dep ∈ entries.map Entry.key → s.flag? ⟨n, dep⟩ = some true) →
      (n, e) ∈ submissions past ∨
        ∃ act, s.submission? act = some (n, e) ∧ (s.step? act).isSome = true
  /-- The boot waits for the slice until all its keys are released. -/
  waits : ∃ b, s.boots[j]? = some b ∧
    (b.current = some n ∨ ∀ e ∈ entries, (s.flag? ⟨n, e.key⟩).isSome = true)

theorem step?_of_verdict {slice : Slice} {t : Task} {i : Nat} (found : s.slices[n]? = some slice)
    (task : slice.tasks[i]? = some t) (verdict : (slice.verdict? t).isSome = true) :
    (s.step? (.entry n i)).isSome = true := by
  obtain ⟨v, verdict⟩ := Option.isSome_iff_exists.1 verdict
  cases v with
  | false =>
      rw [System.step?, System.stepEntry?, found]
      simp [task, verdict]
  | true =>
      rw [System.step?, System.stepEntry?, found]
      simp only [task, verdict]
      split <;> rfl

theorem Filed.all_up (filed : Filed past s) {t : Task} (member : t ∈ s.tasks n)
    (up : ∀ dep ∈ t.entry.dependencies, dep ∈ (s.roster n).map Entry.key →
      s.flag? ⟨n, dep⟩ = some true) :
    ∀ dep ∈ t.entry.dependencies, s.flag? ⟨n, dep⟩ = some true := by
  intro dep needed
  by_cases provided : dep ∈ (s.roster n).map Entry.key
  · exact up dep needed provided
  · exact filed.foreign member dep needed provided

theorem Filed.of_submission (filed : Filed past s) {act : Action}
    (submits : s.submission? act = some (n, e)) :
    ∃ t ∈ s.tasks n, t.entry = e ∧ t.done = false ∧
      ∀ dep ∈ e.dependencies, s.flag? ⟨n, dep⟩ = some true := by
  obtain ⟨i, _, t, -, found, task, rfl, verdict⟩ := System.submission?_eq_some submits
  have member : t ∈ s.tasks n := by
    rw [System.tasks_of_slice found]
    exact List.mem_of_getElem? task
  refine ⟨t, member, rfl, Slice.waiting_of_verdict verdict, fun dep needed => ?_⟩
  rw [System.flag?_of_slice found]
  exact Slice.all_true_of_verdict (filed.waits member) verdict dep needed

theorem Filed.passes (filed : Filed past s) {t : Task} (member : t ∈ s.tasks n)
    (up : ∀ dep ∈ t.entry.dependencies, s.flag? ⟨n, dep⟩ = some true) :
    (n, t.entry) ∈ submissions past ∨
      ∃ act, s.submission? act = some (n, t.entry) ∧ (s.step? act).isSome = true := by
  cases done : t.done with
  | true =>
      rcases filed.closed member done with passed | ⟨⟨dep, needed, down⟩, -⟩
      · exact .inl passed
      · cases (up dep needed).symm.trans down
  | false =>
      obtain ⟨i, there⟩ := List.mem_iff_getElem?.1 member
      obtain ⟨slice, found, task⟩ := System.slice_of_task there
      have verdict : slice.verdict? t = some true := by
        refine Slice.verdict?_eq_true (filed.waits member) done fun dep needed => ?_
        rw [← System.flag?_of_slice found]
        exact up dep needed
      refine .inr ⟨.entry n i, ?_, step?_of_verdict found task (by rw [verdict]; rfl)⟩
      simp [System.submission?, found, task, verdict]

theorem System.Guarded.all_up (guarded : s.Guarded) (member : e ∈ s.roster n)
    (distinct : ((s.roster n).map Entry.key).Nodup) (known : s.flag? ⟨n, e.key⟩ = some true) :
    ∀ dep ∈ e.dependencies, s.flag? ⟨n, dep⟩ = some true := by
  rcases guarded.flags known with ⟨e', listed, own, up⟩ | absent
  · rwa [List.inj_on_of_nodup_map distinct listed member own] at up
  · exact absurd (List.mem_map_of_mem member) absent

/-- A slice lets an entry go once, as soon as all that it depends on within the slice is up, and
never when some of that has failed. -/
theorem slice_gating (history : History config dawn past s)
    (secluded : ∀ t ∈ past, t.act.isSecluded = true) (opens : (n, entries) ∈ openings j past)
    (distinct : (entries.map Entry.key).Nodup) : Gated past s j n entries := by
  have filed := history.filed
  obtain rfl := roster_of_opening history opens
  obtain ⟨b, slice, boot, found, grows, waiting⟩ := history.of_opening opens
  refine ⟨?_, fun act e submits => ?_, fun e member dep needed provided down => ?_,
    fun e member up => ?_, b, boot, waiting.imp_right (isUp_iff found grows).1⟩
  · rw [List.Nodup, List.pairwise_map, List.pairwise_filter]
    refine filed.once.imp fun {x y} apart own own' => ?_
    rw [beq_iff_eq] at own own'
    exact apart (own.trans own'.symm) (own ▸ distinct)
  · obtain ⟨t, member, rfl, waiting, up⟩ := filed.of_submission submits
    refine ⟨List.mem_map_of_mem member, fun passed => ?_, fun dep needed _ => up dep needed⟩
    obtain ⟨-, t', member', same, done⟩ := filed.submitted passed
    rw [System.roster, List.map_map] at distinct
    rw [List.inj_on_of_nodup_map distinct member' member (congrArg Entry.key same),
      waiting] at done
    cases done
  · have failed (up : ∀ dep ∈ e.dependencies, s.flag? ⟨n, dep⟩ = some true) : False := by
      cases (up dep needed).symm.trans down
    refine ⟨fun passed => failed (filed.submitted passed).1, fun act submits => ?_, fun known => ?_⟩
    · obtain ⟨_, _, -, -, up⟩ := filed.of_submission submits
      exact failed up
    · exact failed ((history.guarded secluded).all_up member distinct known)
  · obtain ⟨t, listed, rfl⟩ := List.mem_map.1 member
    exact filed.passes listed (filed.all_up listed up)

end

def halted : List Taken × System :=
  (retrace? ([], .new .default 0) [.call (.register "test" 0),
    .call (.boot [[System.failing, System.dependent]]), .boot 0, .entry 0 0, .entry 0 1]).get
    (by decide)

theorem slice_gating_halted : Gated halted.1 halted.2 0 0 [System.failing, System.dependent] :=
  slice_gating (history_retrace .new (Option.some_get _).symm) (by decide)
    (show _ ∈ [(0, [System.failing, System.dependent])] from List.mem_singleton_self _) (by decide)

end Overseer.Manager
