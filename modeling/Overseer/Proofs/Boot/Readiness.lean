import Overseer.Proofs.Boot.Completion

/-!
# What makes an entry count as up

The key of an entry follows the first sight of its job that settles the entry: a message that
matches its pattern, a tick that finds the attempt old enough, or the end of an attempt. What the
process reports about its own end is a message like any other, and the hooks are shown it before
they are shown the end of the attempt; so it can settle an entry that has shown nothing else.
-/

namespace Overseer

/-! ## What settles an entry -/

namespace Boot.Entry

def fits (e : Entry) (text : String) : Bool :=
  e.runningMatch.any fun source =>
    match Pattern.parse source with
    | .ok pattern => pattern.isMatch text
    | .error _ => false

/-- The value with which a sight of its job settles an entry, if it does. -/
def verdict? (e : Entry) : Sight → Option Bool
  | .exit state => some state.isSuccess
  | .message m => if e.fits m.content then some true else none
  | .tick elapsed =>
      if e.runningMatch = none ∧ ¬e.runningDelay < 0 ∧ e.settling < elapsed then some true
      else none
  | .pid _ => none

/-- The same if what a process reports about its own end did not count as output. -/
def outputVerdict? (e : Entry) : Sight → Option Bool
  | .message m => if Runner.Attempt.isFinal m then none else e.verdict? (.message m)
  | sight => e.verdict? sight

theorem outputVerdict?_eq (e : Entry) {sight : Sight}
    (unfit : ∀ m, Runner.Attempt.isFinal m = true → sight = .message m →
      e.fits m.content = false) : e.outputVerdict? sight = e.verdict? sight := by
  cases sight with
  | message m =>
      rw [outputVerdict?]
      split
      · rename_i final
        rw [verdict?, unfit m final rfl]
        rfl
      · rfl
  | exit | tick | pid => rfl

theorem fits_iff {e : Entry} {text : String} :
    e.fits text = true ↔ ∃ source pattern, e.runningMatch = some source ∧
      Pattern.parse source = .ok pattern ∧ pattern.isMatch text = true := by
  unfold fits
  cases e.runningMatch with
  | none => simp
  | some source => cases parsed : Pattern.parse source <;> simp [parsed]

theorem verdict?_isSome_iff (e : Entry) (sight : Sight) :
    (e.verdict? sight).isSome = true ↔ e.ReadyAt sight := by
  cases sight with
  | exit state => simp [verdict?, ReadyAt]
  | message m =>
      rw [ReadyAt, ← fits_iff, verdict?]
      split <;> simp [*]
  | tick elapsed =>
      rw [ReadyAt, verdict?]
      split <;> simp_all
  | pid n => simp [verdict?, ReadyAt]

theorem verdict?_of_pulled {e : Entry} {flag : FlagRef} {h : Hook} {sight : Sight} {f : Firing}
    (member : h ∈ e.readinessHooks flag) (pulled : Hook.Trigger.pull? h.trigger sight = some f) :
    e.verdict? sight = some (Hook.releaseValue f) := by
  rcases mem_readinessHooks.1 member with rfl | ⟨source, pattern, given, parsed, rfl⟩ |
    ⟨unset, timed, rfl⟩
  · cases sight with
    | exit state =>
        cases pulled
        rfl
    | message | tick | pid => cases pulled
  · cases sight with
    | message m =>
        simp only [Hook.Trigger.pull?, Hook.releasing] at pulled
        split at pulled <;> cases pulled
        rename_i fits
        exact if_pos (fits_iff.2 ⟨source, pattern, given, parsed, fits⟩)
    | exit | tick | pid => cases pulled
  · cases sight with
    | tick elapsed =>
        simp only [Hook.Trigger.pull?, Hook.releasing] at pulled
        split at pulled <;> cases pulled
        exact if_pos ⟨unset, timed, ‹_›⟩
    | exit | message | pid => cases pulled

end Boot.Entry

theorem Hook.sight_of_fired {hooks : List Hook} {sights : List Sight} {x : Nat × Hook × Firing}
    (member : x ∈ (observeEach hooks sights).2) :
    ∃ h ∈ hooks, h.purpose = x.2.1.purpose ∧
      ∃ sight ∈ sights, Trigger.pull? h.trigger sight = some x.2.2 := by
  induction sights generalizing hooks with
  | nil => cases member
  | cons s rest ih =>
      obtain ⟨i, k, f⟩ := x
      rw [observeEach_cons] at member
      rcases List.mem_append.1 member with now | later
      · obtain ⟨h, there, seen⟩ := mem_observeAll.1 now
        refine ⟨h, List.mem_of_getElem? there, by rw [← purpose_observe h s, seen], s,
          List.mem_cons_self, ?_⟩
        unfold observe at seen
        split at seen
        · cases seen
        · split at seen <;> cases seen
          assumption
      · obtain ⟨k', inside, same, sight, visible, pulled⟩ := ih later
        rw [observeAll_fst] at inside
        obtain ⟨h, member, rfl⟩ := List.mem_map.1 inside
        have own := purpose_observe h s
        have trigger : (h.observe s).1.trigger = h.trigger := congrArg Prod.fst own
        exact ⟨h, member, own.symm.trans same, sight, List.mem_cons_of_mem _ visible,
          trigger ▸ pulled⟩

theorem Runner.Taken.exists_sight (t : Taken) :
    ∃ z, ∀ x ∈ t.sights, (∀ n, x ≠ .pid n) → x = z := by
  unfold sights
  split
  · refine ⟨.exit .error, fun x member visible => ?_⟩
    rcases List.mem_append.1 member with pid | exit
    · obtain ⟨n, -, rfl⟩ := List.mem_map.1 pid
      exact absurd rfl (visible n)
    · split at exit
      · exact List.mem_singleton.1 exit
      · cases exit
  · exact ⟨_, fun x member _ => List.mem_singleton.1 member⟩
  · exact ⟨_, fun x member _ => List.mem_singleton.1 member⟩
  · cases t.heard? with
    | none => exact ⟨.exit .error, nofun⟩
    | some m => exact ⟨_, fun x member _ => List.mem_singleton.1 member⟩

theorem Runner.Taken.sight_unique {t : Taken} {x y : Sight} (first : x ∈ t.sights)
    (second : y ∈ t.sights) (visible : ∀ n, x ≠ .pid n) (visible' : ∀ n, y ≠ .pid n) : x = y := by
  obtain ⟨z, only⟩ := t.exists_sight
  rw [only x first visible, only y second visible']

namespace Manager

open Boot

namespace System

def Hooked (s : System) (j : Nat) (g : FlagRef) : Prop :=
  ∃ r, s.runners[j]? = some r ∧ ∃ h ∈ r.hooks, h.flag = some g

def Unshared (s : System) (n : Nat) (key : String) : Prop :=
  ∀ (i j : Nat) (e e' : Entry), (s.roster n)[i]? = some e → (s.roster n)[j]? = some e' →
    e.key = key → e'.key = key → i = j

variable {s next : System} {act : Action} {g : FlagRef} {n i j k : Nat} {t : Task}
  {past : List Taken}

theorem unshared_of_nodup (distinct : ((s.roster n).map Entry.key).Nodup) : s.Unshared n key := by
  intro i j e e' there there' own own'
  refine (List.getElem?_inj ?_ distinct).1 ?_
  · rw [List.length_map]
    exact (List.getElem?_eq_some_iff.1 there).1
  · rw [List.getElem?_map, List.getElem?_map, there, there', Option.map_some, Option.map_some, own,
      own']

theorem roster_of_task (task : (s.tasks n)[i]? = some t) : (s.roster n)[i]? = some t.entry := by
  rw [roster, List.getElem?_map, task]
  rfl

theorem Handles.getElem?_next {v : Bool} (handles : s.Handles n i t v next) {m : Nat} :
    (next.tasks m)[j]? =
      if m = n ∧ i = j then some t.close else (s.tasks m)[j]? := by
  rw [handles.tasks]
  by_cases own : m = n
  · subst own
    rw [if_pos rfl, List.getElem?_modify]
    by_cases same : i = j
    · subst same
      simp [handles.task_eq]
    · cases (s.tasks m)[j]? <;> simp [same]
  · simp [own]

theorem Turn.hooked (turn : s.Turn act next) (secluded : act.isSecluded = true)
    (hooked : next.Hooked j g) :
    s.Hooked j g ∨ j = s.runners.length ∧
      ∃ e, (Taken.mk s act).start? = some (g.slice, e, j) ∧ e.key = g.key := by
  obtain ⟨r', there, h, member, flag⟩ := hooked
  rcases turn.hook_of_mem there member with ⟨r, found, h', inside, same⟩ |
    ⟨c, hooks, rfl, inside⟩ | ⟨n, i, slice, t, rfl, found, task, verdict, inside⟩
  · exact .inl ⟨r, found, h', inside, (congrArg Prod.snd same).trans flag⟩
  · have unflagged := List.all_eq_true.1 secluded h inside
    rw [flag] at unflagged
    cases unflagged
  · obtain rfl : g = ⟨n, t.entry.key⟩ :=
      Option.some.inj (flag.symm.trans (flag_of_readiness inside))
    cases turn with
    | aside foreign => cases foreign
    | givenUp found' task' verdict' =>
        cases found.symm.trans found'
        cases task.symm.trans task'
        cases verdict.symm.trans verdict'
    | refused => exact .inl ⟨r', there, h, member, flag⟩
    | @started _ _ factory slice' t' found' task' _ accepted =>
        cases found.symm.trans found'
        cases task.symm.trans task'
        have joined : (s.runners ++ [Runner.new s.config s.now t.entry.toCommand factory
            (t.entry.readinessHooks ⟨n, t.entry.key⟩) .direct])[j]? = some r' := there
        rw [getElem?_snoc] at joined
        split at joined
        · rename_i last
          refine .inr ⟨last, t.entry, ?_, rfl⟩
          simp [Taken.start?, Taken.submission?, submission?, found, task, verdict, accepted, last]
        · exact .inl ⟨r', joined, h, member, flag⟩

theorem Turn.flag?_eq (turn : s.Turn act next) (there : g.slice < s.slices.length)
    (unhooked : ∀ i work, act = .runner i work → ¬s.Hooked i g)
    (foreign : ∀ i t, act = .entry g.slice i → (s.tasks g.slice)[i]? = some t →
      t.entry.key ≠ g.key) : next.flag? g = s.flag? g := by
  -- An entry that is handled releases its own flag and no other.
  have spared {n i : Nat} {slice : Slice} {t : Task} (act_eq : act = .entry n i)
      (found : s.slices[n]? = some slice) (task : slice.tasks[i]? = some t) :
      ((s.close n i).release ⟨n, t.entry.key⟩ false).flag? g = s.flag? g := by
    rw [flag?_release, if_neg, flag?_close]
    rintro ⟨rfl, -⟩
    exact foreign i t act_eq (by rw [tasks_of_slice found, task]) rfl
  cases turn with
  | aside _ slices => exact flag?_congr slices g
  | @watched i r r' work effects next found rule runners flagged =>
      have stays {v : Bool} (known : s.flag? g = some v) : next.flag? g = some v :=
        flagged.stays known
      have caused {v : Bool} (known : next.flag? g = some v) : s.flag? g = some v := by
        rcases flagged.cause known with before | ⟨x, member, flag, -⟩
        · exact before
        · rw [rule.shows.fired] at member
          obtain ⟨h, inside, same⟩ := Hook.purpose_of_fired member
          exact absurd ⟨r, found, h, inside, (congrArg Prod.snd same).trans flag⟩
            (unhooked i work rfl)
      exact Option.ext fun v => ⟨caused, stays⟩
  | begun => rw [flag?_begun, if_neg (Nat.ne_of_lt there)]
  | givenUp found task => exact spared rfl found task
  | started => exact flag?_close ..
  | refused found task => exact spared rfl found task

theorem Unshared.before (unshared : next.Unshared n key) (turn : s.Turn act next)
    (there : n < s.slices.length) : s.Unshared n key := by
  rwa [Unshared, ← turn.roster_eq there]

theorem Unshared.key_ne (unshared : s.Unshared n key) (member : t ∈ s.tasks n)
    (own : t.entry.key = key) (done : t.done = true) {t' : Task}
    (turn : s.Turn (.entry n i) next) (task : (s.tasks n)[i]? = some t') :
    t'.entry.key ≠ key := by
  intro alike
  obtain ⟨j, there⟩ := List.mem_iff_getElem?.1 member
  obtain ⟨t'', v, handles⟩ := turn.handles
  cases unshared i j _ _ (roster_of_task task) (roster_of_task there) alike own
  cases task.symm.trans there
  cases task.symm.trans handles.task_eq
  cases done.symm.trans handles.waiting

theorem Unshared.of_waiting (unshared : s.Unshared n t.entry.key) (turn : s.Turn act next)
    (there : n < s.slices.length) (member : t ∈ next.tasks n) (waits : t.done = false) :
    t ∈ s.tasks n ∧ ∀ i t', act = .entry n i → (s.tasks n)[i]? = some t' →
      t'.entry.key ≠ t.entry.key := by
  by_cases own : ∃ m i, act = .entry m i
  · obtain ⟨m, i, rfl⟩ := own
    obtain ⟨t'', v, handles⟩ := turn.handles
    obtain ⟨j, last⟩ := List.mem_iff_getElem?.1 member
    rw [handles.getElem?_next] at last
    split at last
    · cases last
      cases waits
    · rename_i apart
      refine ⟨List.mem_of_getElem? last, fun i' t' same task alike => apart ?_⟩
      cases same
      exact ⟨rfl, unshared i j _ _ (roster_of_task task) (roster_of_task last) alike rfl⟩
  · have foreign (m i : Nat) : act ≠ .entry m i := fun same => own ⟨m, i, same⟩
    rcases turn.tasks_eq foreign n with still | ⟨entries, founds⟩
    · exact ⟨still ▸ member, fun i t' same => absurd same (foreign n i)⟩
    · exact absurd founds.number (Nat.ne_of_lt there)

theorem Turn.flag?_new (turn : s.Turn act next) (beyond : s.slices.length ≤ n)
    (member : t ∈ next.tasks n) : next.flag? ⟨n, t.entry.key⟩ = none := by
  by_cases own : ∃ m i, act = .entry m i
  · obtain ⟨m, i, rfl⟩ := own
    obtain ⟨t'', v, handles⟩ := turn.handles
    rcases handles.of_mem member with old | ⟨rfl, -⟩
    · rw [tasks_beyond beyond] at old
      cases old
    · have inside := handles.mem_tasks
      rw [tasks_beyond beyond] at inside
      cases inside
  · rcases turn.tasks_eq (fun m i same => own ⟨m, i, same⟩) n with still | ⟨entries, founds⟩
    · rw [still, tasks_beyond beyond] at member
      cases member
    · rw [founds.tasks] at member
      obtain ⟨e, inside, rfl⟩ := List.mem_map.1 member
      rw [founds.flags, Slice.get?_start, if_neg]
      exact fun unprovided => unprovided.2 (List.mem_map_of_mem inside)

end System

/-! ## The key of an entry follows its job -/

open Overseer.Manager.System

section
variable {config : Config} {dawn : Int} {past : List Taken} {s next : System} {act : Action}
  {n k : Nat} {e : Entry} {r r' : Runner}

/-- Before its job is started nothing can release the key of an entry, and after that only the hooks
of the job can. -/
structure Followed (past : List Taken) (s : System) : Prop where
  waiting : ∀ {n t}, t ∈ s.tasks n → t.done = false → s.Unshared n t.entry.key →
    s.flag? ⟨n, t.entry.key⟩ = none ∧ ∀ j, ¬s.Hooked j ⟨n, t.entry.key⟩
  started : ∀ {n e k}, (n, e, k) ∈ starts past → s.Unshared n e.key →
    (∀ j, s.Hooked j ⟨n, e.key⟩ → j = k) ∧
      s.flag? ⟨n, e.key⟩ = (shown k past).findSome? e.verdict?

theorem flag_of_shows {work : Runner.Action} {effects : List Runner.Effect} {g : FlagRef}
    (rule : Runner.Rule s.config s.clock r work r' effects)
    (flagged : s.Flagged next (effects.filterMap Runner.Effect.firing?))
    (there : g.slice < s.slices.length)
    (same : r.hooks.map Hook.purpose = (e.readinessHooks g).map Hook.purpose)
    (fresh : ∀ h ∈ r.hooks, h.fired = true → (s.flag? g).isSome = true)
    (unknown : s.flag? g = none) :
    next.flag? g = (Runner.Taken.mk s.clock r work).sights.findSome? e.verdict? := by
  have caused {v : Bool} (known : next.flag? g = some v) :
      ∃ sight ∈ (Runner.Taken.mk s.clock r work).sights, e.verdict? sight = some v := by
    rcases flagged.cause known with before | ⟨x, member, -, rfl⟩
    · cases unknown.symm.trans before
    · rw [rule.shows.fired] at member
      obtain ⟨h, inside, -, sight, visible, pulled⟩ := Hook.sight_of_fired member
      have listed := List.mem_map_of_mem (f := Hook.purpose) inside
      rw [same] at listed
      obtain ⟨h', own, alike⟩ := List.mem_map.1 listed
      have trigger : h'.trigger = h.trigger := congrArg Prod.fst alike
      exact ⟨sight, visible, Entry.verdict?_of_pulled own (trigger ▸ pulled)⟩
  have visible {sight : Sight} {v : Bool} (settles : e.verdict? sight = some v) (pid : Int) :
      sight ≠ .pid pid := by
    rintro rfl
    cases settles
  cases first : (Runner.Taken.mk s.clock r work).sights.findSome? e.verdict? with
  | none =>
      refine Option.eq_none_iff_forall_ne_some.2 fun v known => ?_
      obtain ⟨sight, member, settles⟩ := caused known
      rw [List.findSome?_eq_none_iff.1 first sight member] at settles
      cases settles
  | some v =>
      obtain ⟨sight, member, settles⟩ := List.exists_of_findSome?_eq_some first
      have ready := (e.verdict?_isSome_iff sight).1 (by rw [settles]; rfl)
      obtain ⟨w, known⟩ := Option.isSome_iff_exists.1
        ((flag_of_rule rule flagged there same fresh).2 sight member ready)
      obtain ⟨sight', member', settles'⟩ := caused known
      cases Runner.Taken.sight_unique member member' (visible settles) (visible settles')
      rw [known, ← settles', settles]

theorem of_start (start : (Taken.mk s act).start? = some (n, e, k)) :
    k = s.runners.length ∧ s.refusal? e.toCommand = none ∧
      ∃ i t, act = .entry n i ∧ (s.tasks n)[i]? = some t ∧ t.entry = e ∧ t.done = false := by
  obtain ⟨⟨n', e'⟩, submits, start⟩ := Option.bind_eq_some_iff.1 start
  split at start <;> cases start
  obtain ⟨i, slice, t, rfl, found, task, rfl, verdict⟩ := System.submission?_eq_some submits
  exact ⟨rfl, ‹_›, i, t, rfl, by rw [tasks_of_slice found, task], rfl,
    Slice.waiting_of_verdict verdict⟩

theorem System.Turn.flag?_of_start (turn : s.Turn act next)
    (start : (Taken.mk s act).start? = some (n, e, k)) (g : FlagRef) :
    next.flag? g = s.flag? g := by
  obtain ⟨x, submits, accepted⟩ := Option.bind_eq_some_iff.1 start
  obtain ⟨i, slice, t, rfl, found, task, same, verdict⟩ := System.submission?_eq_some submits
  cases turn with
  | aside bystander => cases bystander
  | givenUp found' task' verdict' =>
      cases found.symm.trans found'
      cases task.symm.trans task'
      cases verdict.symm.trans verdict'
  | started => exact flag?_close ..
  | refused found' task' _ refused =>
      cases found.symm.trans found'
      cases task.symm.trans task'
      have refused' : s.refusal? x.2.toCommand = some _ := same ▸ refused
      simp [refused'] at accepted

theorem Followed.waitingStep (followed : Followed past s) (guarded : s.Guarded)
    (turn : s.Turn act next) (secluded : act.isSecluded = true) {t : Task}
    (member : t ∈ next.tasks n) (waits : t.done = false)
    (unshared : next.Unshared n t.entry.key) :
    next.flag? ⟨n, t.entry.key⟩ = none ∧ ∀ j, ¬next.Hooked j ⟨n, t.entry.key⟩ := by
  rcases Nat.lt_or_ge n s.slices.length with there | beyond
  · have before := unshared.before turn there
    obtain ⟨member, spared⟩ := before.of_waiting turn there member waits
    obtain ⟨unknown, unhooked⟩ := followed.waiting member waits before
    have still := turn.flag?_eq there (fun i _ _ => unhooked i) spared
    refine ⟨still.trans unknown, fun j hooked => ?_⟩
    rcases turn.hooked secluded hooked with old | ⟨-, e, start, own⟩
    · exact unhooked j old
    · obtain ⟨-, -, i, t', rfl, task, rfl, -⟩ := of_start start
      exact spared i t' rfl task own
  · refine ⟨turn.flag?_new beyond member, fun j hooked => ?_⟩
    rcases turn.hooked secluded hooked with ⟨r, found, h, inside, flag⟩ | ⟨-, e, start, -⟩
    · have there := (guarded.hooks found inside flag).slice_lt
      exact absurd there (Nat.not_lt_of_le beyond)
    · obtain ⟨-, -, i, t', -, task, -⟩ := of_start start
      rw [tasks_beyond beyond] at task
      cases task

theorem Followed.runningStep (followed : Followed past s) (history : History config dawn past s)
    (turn : s.Turn act next) (secluded : act.isSecluded = true) (started : (n, e, k) ∈ starts past)
    (unshared : s.Unshared n e.key) :
    (∀ j, next.Hooked j ⟨n, e.key⟩ → j = k) ∧
      next.flag? ⟨n, e.key⟩ = (shown k (⟨s, act⟩ :: past)).findSome? e.verdict? := by
  have passed := submission_of_start started
  have there := history.filed.slice_lt passed
  obtain ⟨-, t, member, own, done⟩ := history.filed.submitted passed
  have spared (i : Nat) (t' : Task) (act_eq : act = .entry n i)
      (task : (s.tasks n)[i]? = some t') : t'.entry.key ≠ e.key :=
    unshared.key_ne member (by rw [own]) done (act_eq ▸ turn) task
  obtain ⟨hooked, flag⟩ := followed.started started unshared
  refine ⟨fun j now => ?_, ?_⟩
  · rcases turn.hooked secluded now with old | ⟨-, e', start, alike⟩
    · exact hooked j old
    · obtain ⟨-, -, i, t', act_eq, task, rfl, -⟩ := of_start start
      exact absurd alike (spared i t' act_eq task)
  · rw [shown_cons, List.findSome?_append, ← flag]
    by_cases mine : ∃ work, act = .runner k work
    · obtain ⟨work, rfl⟩ := mine
      obtain ⟨r, found, same, fresh, -⟩ := history.raised.running started
      cases turn with
      | aside bystander => cases bystander
      | watched found' rule _ flagged =>
          cases found.symm.trans found'
          cases known : s.flag? ⟨n, e.key⟩ with
          | some v => exact flagged.stays known
          | none => rw [flag_of_shows rule flagged there same fresh known, shown_of_runner found,
              Option.none_or]
    · have silent : (Taken.mk s act).shown k = [] := by
        cases act with
        | runner i work => exact if_neg fun same => mine ⟨work, by rw [same]⟩
        | _ => rfl
      rw [silent, List.findSome?_nil, Option.or_none]
      refine turn.flag?_eq there (fun i work act_eq old => mine ⟨work, ?_⟩) spared
      rw [act_eq, hooked i old]

theorem Followed.startStep (followed : Followed past s) (history : History config dawn past s)
    (turn : s.Turn act next) (secluded : act.isSecluded = true)
    (start : (Taken.mk s act).start? = some (n, e, k)) (unshared : s.Unshared n e.key) :
    (∀ j, next.Hooked j ⟨n, e.key⟩ → j = k) ∧
      next.flag? ⟨n, e.key⟩ = (shown k (⟨s, act⟩ :: past)).findSome? e.verdict? := by
  obtain ⟨rfl, -, i, t, rfl, task, rfl, waits⟩ := of_start start
  obtain ⟨unknown, unhooked⟩ := followed.waiting (List.mem_of_getElem? task) waits unshared
  refine ⟨fun j now => ?_, ?_⟩
  · rcases turn.hooked secluded now with old | ⟨last, -⟩
    · exact absurd old (unhooked j)
    · exact last
  · rw [turn.flag?_of_start start, unknown, shown_cons, history.shown_eq_nil (Nat.le_refl _)]
    rfl

theorem Followed.step (followed : Followed past s) (history : History config dawn past s)
    (secluded : ∀ t ∈ (⟨s, act⟩ :: past : List Taken), t.act.isSecluded = true)
    (step : s.step? act = some next) : Followed (⟨s, act⟩ :: past) next := by
  have turn := turn_of_step step
  have own := secluded _ List.mem_cons_self
  have guarded := history.guarded fun t member => secluded t (List.mem_cons_of_mem _ member)
  refine ⟨fun member waits unshared => followed.waitingStep guarded turn own member waits unshared,
    fun started unshared => ?_⟩
  rw [starts_cons] at started
  rcases List.mem_append.1 started with earlier | now
  · have there := history.filed.slice_lt (submission_of_start earlier)
    exact followed.runningStep history turn own earlier (unshared.before turn there)
  · have start := Option.mem_toList.1 now
    obtain ⟨-, -, i, t, -, task, -⟩ := of_start start
    obtain ⟨slice, found, -⟩ := slice_of_task task
    have there := (List.getElem?_eq_some_iff.1 found).1
    exact followed.startStep history turn own start (unshared.before turn there)

theorem History.followed (history : History config dawn past s)
    (secluded : ∀ t ∈ past, t.act.isSecluded = true) : Followed past s := by
  induction history with
  | new =>
      refine ⟨fun {n t} member => ?_, nofun⟩
      rw [tasks_beyond (Nat.zero_le n)] at member
      cases member
  | next history step ih =>
      exact (ih fun t member => secluded t (List.mem_cons_of_mem _ member)).step history secluded
        step

theorem starts_retrace {run : List Taken × System} {acts : List Action} {x : Nat × Entry × Nat}
    (started : x ∈ starts past) (retraced : retrace? (past, s) acts = some run) :
    x ∈ starts run.1 := by
  induction acts generalizing past s with
  | nil =>
      cases retraced
      exact started
  | cons act rest ih =>
      unfold retrace? at retraced
      split at retraced
      · refine ih ?_ retraced
        rw [starts_cons]
        exact List.mem_append_left _ started
      · cases retraced

/-- The first sight of its job that settles an entry releases its key, with the verdict on that
sight, and the key keeps its value. Unless a report of an end matches the pattern of the entry, the
first match in what the process prints decides, or the first end of an attempt. -/
theorem key_follows_first_sight (history : History config dawn past s)
    (secluded : ∀ t ∈ past, t.act.isSecluded = true) (started : (n, e, k) ∈ starts past)
    (unshared : s.Unshared n e.key) :
    s.flag? ⟨n, e.key⟩ = (shown k past).findSome? e.verdict? ∧
      (∀ v, s.flag? ⟨n, e.key⟩ = some v →
        ∀ act next, s.step? act = some next → next.flag? ⟨n, e.key⟩ = some v) ∧
      ((∀ m, .message m ∈ shown k past → Runner.Attempt.isFinal m = true →
          e.fits m.content = false) →
        s.flag? ⟨n, e.key⟩ = (shown k past).findSome? e.outputVerdict?) := by
  have follows := ((history.followed secluded).started started unshared).2
  refine ⟨follows, fun v known act next step => (turn_of_step step).flag?_stays known,
    fun unfit => ?_⟩
  rw [follows, ← List.head?_filterMap, ← List.head?_filterMap]
  congr 1
  refine List.filterMap_congr fun sight visible => ?_
  exact (e.outputVerdict?_eq fun m final same => unfit m (same ▸ visible) final).symm

end

def listening : Entry :=
  { Entry.new "a" "test" with after := ["init"], runningMatch := some "R" }

def begun : List Taken × System :=
  (retrace? ([], .new .default 0) [.call (.register "test" 0), .call (.boot [[listening]]), .boot 0,
    .entry 0 0]).get (by decide)

theorem history_begun : History .default 0 begun.1 begun.2 :=
  history_retrace .new (Option.some_get _).symm

theorem started_begun : (0, listening, 0) ∈ starts begun.1 :=
  show _ ∈ [(0, listening, 0)] from List.mem_singleton_self _

def readied : List Taken × System :=
  (retrace? begun [.runner 0 (.launch ⟨[], none⟩), .runner 0 (.emit (.new .stdout "READY")),
    .runner 0 .receive, .runner 0 .hangUp, .runner 0 .receive, .runner 0 .conclude]).get
    (by decide +kernel)

theorem key_follows_first_sight_readied :
    readied.2.flag? ⟨0, "a"⟩ = some true ∧ (shown 0 readied.1).getLast? = some (.exit .error) := by
  have retraced : retrace? begun _ = some readied := (Option.some_get _).symm
  have secluded : ∀ t ∈ readied.1, t.act.isSecluded = true := by decide +kernel
  have unshared : readied.2.Unshared 0 listening.key := unshared_of_nodup (by decide +kernel)
  have unfit : ∀ m, .message m ∈ shown 0 readied.1 → Runner.Attempt.isFinal m = true →
      listening.fits m.content = false := by
    have none : ∀ sight ∈ shown 0 readied.1, ∀ m ∈ sight.message?,
        Runner.Attempt.isFinal m = false := by decide +kernel
    intro m visible final
    rw [none _ visible m rfl] at final
    cases final
  obtain ⟨-, -, settles⟩ := key_follows_first_sight (history_retrace history_begun retraced)
    secluded (starts_retrace started_begun retraced) unshared
  exact ⟨(settles unfit).trans (by decide +kernel), by decide +kernel⟩

def mistaken : List Taken × System :=
  (retrace? begun [.runner 0 (.launch ⟨[], none⟩), .runner 0 (.emit (.exit .error)),
    .runner 0 .receive, .runner 0 .hangUp, .runner 0 .conclude]).get
    (by decide +kernel)

/-- The report that a job has failed makes it count as up. -/
theorem silent_failure_counts_as_up :
    History .default 0 mistaken.1 mistaken.2 ∧ (0, listening, 0) ∈ starts mistaken.1 ∧
      (shown 0 mistaken.1).findSome? listening.outputVerdict? = some false ∧
      mistaken.2.flag? ⟨0, "a"⟩ = some true := by
  have retraced : retrace? begun _ = some mistaken := (Option.some_get _).symm
  exact ⟨history_retrace history_begun retraced, starts_retrace started_begun retraced,
    by decide +kernel, by decide +kernel⟩

end Manager

end Overseer
