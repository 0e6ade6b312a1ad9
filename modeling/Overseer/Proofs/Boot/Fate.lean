import Overseer.Proofs.Boot.Record
import Overseer.Proofs.Boot.Turn

/-!
# What becomes of the entries

Every entry of a slice waits for what it depends on and is then either passed on to be run or given
up, once. `Filed` says what the tasks and the flags of a system tell of that.
-/

namespace Overseer

/-! ## The flags at the start -/

namespace Boot

namespace Slice

variable {slice : Slice} {t : Task} {entries : List Entry} {key : String}

theorem verdict?_eq_true (waits : t.waiter = .start .allTrue t.entry.dependencies)
    (waiting : t.done = false)
    (up : ∀ dep ∈ t.entry.dependencies, slice.rendezvous.get? dep = some true) :
    slice.verdict? t = some true := by
  have passed : (t.entry.dependencies.find? fun dep => slice.rendezvous.get? dep != some true) =
      none := by
    simpa using up
  rw [verdict?, waiting, waits, Waiter.answer_settle, passed]
  rfl

theorem exists_failed (waits : t.waiter = .start .allTrue t.entry.dependencies)
    (verdict : slice.verdict? t = some false) :
    ∃ dep ∈ t.entry.dependencies, slice.rendezvous.get? dep = some false := by
  unfold verdict? at verdict
  split at verdict
  · cases verdict
  · rw [waits, Waiter.answer_settle] at verdict
    split at verdict
    · cases verdict
    · exact ⟨_, List.mem_of_find?_eq_some ‹_›, verdict⟩

theorem verdict?_isSome (waits : t.waiter = .start .allTrue t.entry.dependencies)
    (waiting : t.done = false)
    (released : ∀ dep ∈ t.entry.dependencies, (slice.rendezvous.get? dep).isSome = true) :
    (slice.verdict? t).isSome = true := by
  rw [verdict?, waiting, waits, Waiter.answer_settle]
  simp only [Bool.false_eq_true, if_false]
  split
  · rfl
  · exact released _ (List.mem_of_find?_eq_some ‹_›)

theorem waiting_of_verdict {v : Bool} (verdict : slice.verdict? t = some v) : t.done = false := by
  unfold verdict? at verdict
  split at verdict
  · cases verdict
  · exact eq_false_of_ne_true ‹_›

theorem get?_start (entries : List Entry) (key : String) :
    (Slice.start entries).rendezvous.get? key =
      if key ∈ entries.flatMap Entry.dependencies ∧ key ∉ entries.map (·.key) then some true
      else none := by
  have released : ∀ (keys : List String) (r : Rendezvous),
      (∀ v, r.get? key = some v → v = true) →
        (keys.foldl (fun r key => (r.release key true).1) r).get? key =
          if key ∈ keys then some true else r.get? key := by
    intro keys
    induction keys with
    | nil => intro r _; simp
    | cons first rest ih =>
        intro r up
        have value : (r.get? key).getD true = true := by
          cases known : r.get? key with
          | none => rfl
          | some v => exact up v known
        rw [List.foldl_cons, ih, Rendezvous.get?_release_eq]
        · by_cases later : key ∈ rest
          · simp [later]
          · by_cases own : key = first
            · rw [← own, value]
              simp
            · simp [later, own]
        · intro v known
          rw [Rendezvous.get?_release_eq] at known
          split at known
          · rename_i own
            rw [← own, value] at known
            exact (Option.some.inj known).symm
          · exact up v known
  rw [Slice.start, released _ _ (by simp [Rendezvous.empty, Rendezvous.get?])]
  simp [List.mem_filter, Rendezvous.empty, Rendezvous.get?]

end Slice

end Boot

namespace Manager

open Boot

/-! ## What a turn does to flags, tasks and hooks -/

namespace System

def roster (s : System) (n : Nat) : List Entry := (s.tasks n).map Task.entry

structure Handles (s : System) (n i : Nat) (t : Task) (v : Bool) (next : System) : Prop where
  found : ∃ slice, s.slices[n]? = some slice ∧ slice.tasks[i]? = some t ∧ slice.verdict? t = some v
  tasks : ∀ m, next.tasks m = if m = n then (s.tasks n).modify i Task.close else s.tasks m
  released : v = false → (next.flag? ⟨n, t.entry.key⟩).isSome = true

structure Founds (s : System) (n : Nat) (entries : List Entry) (next : System) : Prop where
  number : n = s.slices.length
  tasks : next.tasks n = (Slice.start entries).tasks
  flags : ∀ key, next.flag? ⟨n, key⟩ = (Slice.start entries).rendezvous.get? key

section
variable {s next : System} {act : Action} {g : FlagRef} {n i : Nat} {v : Bool} {slice : Slice}
  {t : Task}

theorem tasks_begun (s : System) (boots : List Sequence) (entries : List Entry) (n : Nat) :
    ({ s with slices := s.slices ++ [.start entries], boots } : System).tasks n =
      if n = s.slices.length then (Slice.start entries).tasks else s.tasks n := by
  rw [tasks, tasks, getElem?_snoc]
  split <;> rfl

theorem flag?_begun (s : System) (boots : List Sequence) (entries : List Entry) (g : FlagRef) :
    ({ s with slices := s.slices ++ [.start entries], boots } : System).flag? g =
      if g.slice = s.slices.length then (Slice.start entries).rendezvous.get? g.key
      else s.flag? g := by
  rw [flag?, flag?, getElem?_snoc]
  split <;> rfl

theorem tasks_beyond (beyond : s.slices.length ≤ n) : s.tasks n = [] := by
  rw [tasks, List.getElem?_eq_none beyond]
  rfl

theorem slice_of_task (task : (s.tasks n)[i]? = some t) :
    ∃ slice, s.slices[n]? = some slice ∧ slice.tasks[i]? = some t := by
  unfold tasks at task
  cases found : s.slices[n]? with
  | none => simp [found] at task
  | some slice =>
      rw [found] at task
      exact ⟨slice, rfl, task⟩

theorem Turn.flag?_stays (turn : s.Turn act next) (known : s.flag? g = some v) :
    next.flag? g = some v := by
  cases turn with
  | aside foreign slices => rw [flag?_congr slices, known]
  | watched found rule runners flagged => exact flagged.stays known
  | begun =>
      rw [flag?_begun, if_neg]
      · exact known
      · intro fresh
        simp [flag?, fresh] at known
  | givenUp => exact flag?_release_of_known _ _ ((flag?_close ..).trans known)
  | started => exact (flag?_close ..).trans known
  | @refused n i slice t =>
      exact flag?_release_of_known ⟨n, t.entry.key⟩ false ((flag?_close s n i g).trans known)

theorem Turn.isSome_flag?_stays (turn : s.Turn act next) (known : (s.flag? g).isSome = true) :
    (next.flag? g).isSome = true := by
  obtain ⟨v, known⟩ := Option.isSome_iff_exists.1 known
  rw [turn.flag?_stays known]
  rfl

theorem isSome_flag?_release (found : s.slices[n]? = some slice) (i : Nat) (key : String)
    (value : Bool) : (((s.close n i).release ⟨n, key⟩ value).flag? ⟨n, key⟩).isSome = true := by
  have bound := (List.getElem?_eq_some_iff.1 found).1
  rw [flag?_release, if_pos ⟨rfl, by simpa [close] using bound⟩]
  rfl

theorem Turn.handles (turn : s.Turn (.entry n i) next) : ∃ t v, s.Handles n i t v next := by
  cases turn with
  | aside foreign => cases foreign
  | givenUp found task verdict =>
      exact ⟨_, false, ⟨_, found, task, verdict⟩,
        fun m => (tasks_release _ _ _ m).trans (tasks_close s n i m),
        fun _ => isSome_flag?_release found i _ false⟩
  | started found task verdict =>
      exact ⟨_, true, ⟨_, found, task, verdict⟩, tasks_close s n i, nofun⟩
  | refused found task verdict =>
      exact ⟨_, true, ⟨_, found, task, verdict⟩,
        fun m => (tasks_release _ _ _ m).trans (tasks_close s n i m), nofun⟩

theorem Turn.tasks_eq (turn : s.Turn act next) (foreign : ∀ n i, act ≠ .entry n i) (n : Nat) :
    next.tasks n = s.tasks n ∨ ∃ entries, s.Founds n entries next := by
  cases turn with
  | aside _ slices => exact .inl (tasks_congr slices n)
  | watched found rule runners flagged => exact .inl (flagged.tasks n)
  | @begun j b entries rest =>
      rw [tasks_begun]
      split
      · rename_i fresh
        refine .inr ⟨entries, fresh, ?_, fun key => ?_⟩
        · rw [tasks_begun, if_pos fresh]
        · rw [flag?_begun, if_pos fresh]
      · exact .inl rfl
  | givenUp | started | refused => exact absurd rfl (foreign _ _)

theorem map_entry_close (tasks : List Task) (i : Nat) :
    (tasks.modify i Task.close).map Task.entry = tasks.map Task.entry := by
  apply List.ext_getElem?
  intro j
  rw [List.getElem?_map, List.getElem?_map, List.getElem?_modify]
  cases tasks[j]? with
  | none => rfl
  | some t => by_cases own : i = j <;> simp [own, Task.close]

theorem Turn.roster_eq (turn : s.Turn act next) (there : n < s.slices.length) :
    next.roster n = s.roster n := by
  by_cases own : ∃ m i, act = .entry m i
  · obtain ⟨m, i, rfl⟩ := own
    obtain ⟨t, v, handles⟩ := turn.handles
    rw [roster, handles.tasks, roster]
    split
    · rename_i same
      rw [same, map_entry_close]
    · rfl
  · rcases turn.tasks_eq (fun m i same => own ⟨m, i, same⟩) n with same | ⟨entries, founds⟩
    · rw [roster, same, roster]
    · exact absurd founds.number (Nat.ne_of_lt there)

theorem Turn.flag?_true (turn : s.Turn act next) (known : next.flag? g = some true) :
    s.flag? g = some true ∨
      (∃ (k : Nat) (r : Runner), s.runners[k]? = some r ∧ ∃ h ∈ r.hooks, h.flag = some g) ∨
      ∃ entries, s.Founds g.slice entries next := by
  -- What an entry releases itself is false.
  have failed {s : System} {g' : FlagRef} (known : (s.release g' false).flag? g = some true) :
      s.flag? g = some true := by
    rw [flag?_release] at known
    split at known
    · rename_i own
      rw [own.1]
      cases before : s.flag? g' with
      | none => simp [before] at known
      | some v => simpa [before] using known
    · exact known
  cases turn with
  | aside _ slices => exact .inl ((flag?_congr slices g).symm.trans known)
  | @watched k r r' work effects next found rule runners flagged =>
      rcases flagged.cause known with before | ⟨x, member, flag, -⟩
      · exact .inl before
      · rw [rule.shows.fired] at member
        obtain ⟨h, inside, same⟩ := Hook.purpose_of_fired member
        exact .inr (.inl ⟨k, r, found, h, inside, (congrArg Prod.snd same).trans flag⟩)
  | @begun j b entries rest =>
      by_cases fresh : g.slice = s.slices.length
      · refine .inr (.inr ⟨entries, fresh, ?_, fun key => ?_⟩)
        · rw [tasks_begun, if_pos fresh]
        · rw [flag?_begun, if_pos fresh]
      · rw [flag?_begun, if_neg fresh] at known
        exact .inl known
  | givenUp => exact .inl ((flag?_close ..).symm.trans (failed known))
  | started => exact .inl ((flag?_close ..).symm.trans known)
  | @refused n i slice t =>
      have before : ((s.close n i).release ⟨n, t.entry.key⟩ false).flag? g = some true := known
      exact .inl ((flag?_close ..).symm.trans (failed before))

theorem Turn.hook_of_mem {k : Nat} {r' : Runner} {h : Hook} (turn : s.Turn act next)
    (found : next.runners[k]? = some r') (member : h ∈ r'.hooks) :
    (∃ r, s.runners[k]? = some r ∧ ∃ h' ∈ r.hooks, h'.purpose = h.purpose) ∨
      (∃ c hooks, act = .call (.run c hooks) ∧ h ∈ hooks) ∨
      ∃ (n i : Nat) (slice : Slice) (t : Task), act = .entry n i ∧ s.slices[n]? = some slice ∧
        slice.tasks[i]? = some t ∧ slice.verdict? t = some true ∧
        h ∈ t.entry.readinessHooks ⟨n, t.entry.key⟩ := by
  have old {r : Runner} (found : s.runners[k]? = some r) (member : h ∈ r.hooks) :
      ∃ r, s.runners[k]? = some r ∧ ∃ h' ∈ r.hooks, h'.purpose = h.purpose :=
    ⟨r, found, h, member, rfl⟩
  cases turn with
  | aside _ _ runners =>
      rcases runners.hooks k r' found with ⟨r, before, same⟩ | ⟨-, new⟩
      · exact .inl (old before (same ▸ member))
      · exact .inr (.inl (new h member))
  | @watched i r q work effects next before rule runners flagged =>
      rw [runners] at found
      by_cases own : i = k
      · subst own
        rw [List.getElem?_set_self (List.getElem?_eq_some_iff.1 before).1] at found
        cases found
        have kept := Hook.observeEach_purpose r.hooks (Runner.Taken.mk s.clock r work).sights
        rw [← rule.shows.hooks] at kept
        have listed := List.mem_map_of_mem (f := Hook.purpose) member
        rw [kept] at listed
        exact .inl ⟨r, before, List.mem_map.1 listed⟩
      · rw [List.getElem?_set_ne own] at found
        exact .inl (old found member)
  | begun | givenUp | refused => exact .inl (old found member)
  | @started n i factory slice t there task verdict accepted =>
      have joined : (s.runners ++ [Runner.new s.config s.now t.entry.toCommand factory
          (t.entry.readinessHooks ⟨n, t.entry.key⟩) .direct])[k]? = some r' := found
      rw [getElem?_snoc] at joined
      split at joined
      · cases joined
        exact .inr (.inr ⟨n, i, slice, t, rfl, there, task, verdict, member⟩)
      · exact .inl (old joined member)

end

end System

/-! ## What is known of the entries -/

open Overseer.Manager.System

section
variable {past : List Taken} {s next : System} {act : Action} {n i : Nat} {e : Entry} {v : Bool}
  {t : Task} {tasks : List Task} {config : Config} {dawn : Int}

theorem mem_close (member : t ∈ tasks) (i : Nat) :
    ∃ t' ∈ tasks.modify i Task.close, t'.entry = t.entry ∧ (t.done = true → t'.done = true) := by
  obtain ⟨k, there⟩ := List.mem_iff_getElem?.1 member
  by_cases own : i = k
  · exact ⟨t.close, List.mem_of_getElem? (i := k) (by simp [there, own]), rfl, fun _ => rfl⟩
  · exact ⟨t, List.mem_of_getElem? (i := k) (by simp [there, own]), rfl, id⟩

theorem of_mem_close (member : t ∈ tasks.modify i Task.close) :
    t ∈ tasks ∨ ∃ t', tasks[i]? = some t' ∧ t = t'.close := by
  obtain ⟨k, there⟩ := List.mem_iff_getElem?.1 member
  rw [List.getElem?_modify] at there
  obtain ⟨t', before, same⟩ := Option.map_eq_some_iff.1 there
  by_cases own : i = k
  · subst own
    exact .inr ⟨t', before, by simpa using same.symm⟩
  · rw [if_neg own] at same
    exact .inl (List.mem_of_getElem? (same ▸ before))

structure Filed (past : List Taken) (s : System) : Prop where
  waits : ∀ {n t}, t ∈ s.tasks n → t.waiter = .start .allTrue t.entry.dependencies
  foreign : ∀ {n t}, t ∈ s.tasks n → ∀ dep ∈ t.entry.dependencies,
    dep ∉ (s.roster n).map Entry.key → s.flag? ⟨n, dep⟩ = some true
  submitted : ∀ {n e}, (n, e) ∈ submissions past →
    (∀ dep ∈ e.dependencies, s.flag? ⟨n, dep⟩ = some true) ∧
      ∃ t ∈ s.tasks n, t.entry = e ∧ t.done = true
  closed : ∀ {n t}, t ∈ s.tasks n → t.done = true →
    (n, t.entry) ∈ submissions past ∨
      (∃ dep ∈ t.entry.dependencies, s.flag? ⟨n, dep⟩ = some false) ∧
        (s.flag? ⟨n, t.entry.key⟩).isSome = true
  once : (submissions past).Pairwise fun x y =>
    x.1 = y.1 → ((s.roster x.1).map Entry.key).Nodup → x.2.key ≠ y.2.key

theorem Filed.slice_lt (filed : Filed past s) (passed : (n, e) ∈ submissions past) :
    n < s.slices.length := by
  obtain ⟨-, t, member, -⟩ := filed.submitted passed
  by_contra beyond
  rw [tasks_beyond (Nat.le_of_not_lt beyond)] at member
  cases member

theorem Filed.once_next (filed : Filed past s) (turn : s.Turn act next) :
    (submissions past).Pairwise fun x y =>
      x.1 = y.1 → ((next.roster x.1).map Entry.key).Nodup → x.2.key ≠ y.2.key := by
  refine filed.once.imp_of_mem fun {x y} member _ apart same distinct => apart same ?_
  rwa [turn.roster_eq (filed.slice_lt member)] at distinct

theorem Filed.foreignStep (filed : Filed past s) (turn : s.Turn act next)
    (foreign : ∀ n i, act ≠ .entry n i) : Filed (⟨s, act⟩ :: past) next := by
  have same : submissions (⟨s, act⟩ :: past) = submissions past := by
    rw [submissions_cons, submission?_of_foreign foreign]
    exact List.append_nil _
  have fresh {n : Nat} {entries : List Entry} {t : Task} (founds : s.Founds n entries next)
      (member : t ∈ next.tasks n) :
      ∃ e ∈ entries, t = ⟨e, .start .allTrue e.dependencies, false⟩ := by
    rw [founds.tasks] at member
    obtain ⟨e, inside, own⟩ := List.mem_map.1 member
    exact ⟨e, inside, own.symm⟩
  refine ⟨fun {n t} member => ?_, fun {n t} member dep needed absent => ?_,
    fun {n e} passed => ?_, fun {n t} member done => ?_, same ▸ filed.once_next turn⟩
  · rcases turn.tasks_eq foreign n with still | ⟨entries, founds⟩
    · exact filed.waits (still ▸ member)
    · obtain ⟨e, -, rfl⟩ := fresh founds member
      rfl
  · rcases turn.tasks_eq foreign n with still | ⟨entries, founds⟩
    · rw [roster, still] at absent
      exact turn.flag?_stays (filed.foreign (still ▸ member) dep needed absent)
    · obtain ⟨e, inside, rfl⟩ := fresh founds member
      rw [roster, founds.tasks] at absent
      have unprovided : dep ∉ entries.map Entry.key := by simpa [Slice.start] using absent
      rw [founds.flags, Slice.get?_start,
        if_pos ⟨List.mem_flatMap.2 ⟨e, inside, needed⟩, unprovided⟩]
  · rw [same] at passed
    obtain ⟨up, t, member, own, done⟩ := filed.submitted passed
    refine ⟨fun dep needed => turn.flag?_stays (up dep needed), t, ?_, own, done⟩
    rcases turn.tasks_eq foreign n with still | ⟨entries, founds⟩
    · exact still.symm ▸ member
    · exact absurd founds.number (Nat.ne_of_lt (filed.slice_lt passed))
  · rw [same]
    rcases turn.tasks_eq foreign n with still | ⟨entries, founds⟩
    · rcases filed.closed (still ▸ member) done with passed | ⟨⟨dep, needed, down⟩, released⟩
      · exact .inl passed
      · exact .inr ⟨⟨dep, needed, turn.flag?_stays down⟩, turn.isSome_flag?_stays released⟩
    · obtain ⟨e, -, rfl⟩ := fresh founds member
      cases done

/-! ### A step of an entry -/

theorem submissions_of_handles (past : List Taken) (handles : s.Handles n i t v next) :
    submissions (⟨s, .entry n i⟩ :: past) =
      submissions past ++ (if v = true then some (n, t.entry) else none).toList := by
  obtain ⟨slice, found, task, verdict⟩ := handles.found
  rw [submissions_cons]
  congr 2
  cases v <;> simp [Taken.submission?, System.submission?, found, task, verdict]

theorem System.Handles.task_eq (handles : s.Handles n i t v next) : (s.tasks n)[i]? = some t := by
  obtain ⟨slice, found, task, -⟩ := handles.found
  rw [tasks_of_slice found, task]

theorem System.Handles.mem_tasks (handles : s.Handles n i t v next) : t ∈ s.tasks n :=
  List.mem_of_getElem? handles.task_eq

theorem System.Handles.close_mem (handles : s.Handles n i t v next) : t.close ∈ next.tasks n := by
  rw [handles.tasks, if_pos rfl]
  exact List.mem_of_getElem? (i := i) (by simp [handles.task_eq])

theorem System.Handles.of_mem (handles : s.Handles n i t v next) {m : Nat} {t' : Task}
    (member : t' ∈ next.tasks m) : t' ∈ s.tasks m ∨ m = n ∧ t' = t.close := by
  rw [handles.tasks] at member
  split at member
  · rename_i own
    subst own
    rcases of_mem_close member with old | ⟨t'', before, rfl⟩
    · exact .inl old
    · cases handles.task_eq.symm.trans before
      exact .inr ⟨rfl, rfl⟩
  · exact .inl member

theorem System.Handles.mem_next (handles : s.Handles n i t v next) {m : Nat} {t' : Task}
    (member : t' ∈ s.tasks m) :
    ∃ t'' ∈ next.tasks m, t''.entry = t'.entry ∧ (t'.done = true → t''.done = true) := by
  rw [handles.tasks]
  split
  · rename_i own
    subst own
    exact mem_close member i
  · exact ⟨t', member, rfl, id⟩

theorem System.Handles.roster_eq (handles : s.Handles n i t v next) (m : Nat) :
    next.roster m = s.roster m := by
  rw [roster, handles.tasks, roster]
  split
  · rename_i own
    rw [own, map_entry_close]
  · rfl

theorem System.Handles.waiting (handles : s.Handles n i t v next) : t.done = false := by
  obtain ⟨slice, -, -, verdict⟩ := handles.found
  exact Slice.waiting_of_verdict verdict

theorem Filed.up_of_handles (filed : Filed past s) (handles : s.Handles n i t true next) :
    ∀ dep ∈ t.entry.dependencies, s.flag? ⟨n, dep⟩ = some true := by
  intro dep needed
  obtain ⟨slice, found, -, verdict⟩ := handles.found
  rw [flag?_of_slice found]
  exact Slice.all_true_of_verdict (filed.waits handles.mem_tasks) verdict dep needed

theorem Filed.down_of_handles (filed : Filed past s) (handles : s.Handles n i t false next) :
    ∃ dep ∈ t.entry.dependencies, s.flag? ⟨n, dep⟩ = some false := by
  obtain ⟨slice, found, -, verdict⟩ := handles.found
  obtain ⟨dep, needed, down⟩ := Slice.exists_failed (filed.waits handles.mem_tasks) verdict
  exact ⟨dep, needed, (flag?_of_slice found ..).trans down⟩

theorem Filed.fresh_of_handles (filed : Filed past s) (handles : s.Handles n i t v next)
    (passed : (n, e) ∈ submissions past) (distinct : ((s.roster n).map Entry.key).Nodup) :
    e.key ≠ t.entry.key := by
  intro alike
  obtain ⟨-, t', member, rfl, done⟩ := filed.submitted passed
  rw [roster, List.map_map] at distinct
  have one := List.inj_on_of_nodup_map distinct member handles.mem_tasks alike
  rw [one, handles.waiting] at done
  cases done

theorem Filed.entryStep (filed : Filed past s) (turn : s.Turn (.entry n i) next) :
    Filed (⟨s, .entry n i⟩ :: past) next := by
  obtain ⟨t, v, handles⟩ := turn.handles
  have passes := submissions_of_handles past handles
  refine ⟨fun {m t'} member => ?_, fun {m t'} member dep needed absent => ?_,
    fun {m e} passed => ?_, fun {m t'} member done => ?_, ?_⟩
  · rcases handles.of_mem member with old | ⟨-, rfl⟩
    · exact filed.waits old
    · have waits := filed.waits handles.mem_tasks
      exact waits
  · rw [handles.roster_eq] at absent
    rcases handles.of_mem member with old | ⟨rfl, rfl⟩
    · exact turn.flag?_stays (filed.foreign old dep needed absent)
    · exact turn.flag?_stays (filed.foreign handles.mem_tasks dep needed absent)
  · rw [passes] at passed
    rcases List.mem_append.1 passed with earlier | now
    · obtain ⟨up, t', member, own, done⟩ := filed.submitted earlier
      obtain ⟨t'', inside, same, still⟩ := handles.mem_next member
      exact ⟨fun dep needed => turn.flag?_stays (up dep needed), t'', inside, same.trans own,
        still done⟩
    · cases v with
      | false => cases now
      | true =>
          cases List.mem_singleton.1 now
          have up := filed.up_of_handles handles
          exact ⟨fun dep needed => turn.flag?_stays (up dep needed), t.close, handles.close_mem,
            rfl, rfl⟩
  · rw [passes]
    rcases handles.of_mem member with old | ⟨rfl, rfl⟩
    · rcases filed.closed old done with passed | ⟨⟨dep, needed, down⟩, released⟩
      · exact .inl (List.mem_append_left _ passed)
      · exact .inr ⟨⟨dep, needed, turn.flag?_stays down⟩, turn.isSome_flag?_stays released⟩
    · cases v with
      | true => exact .inl (List.mem_append_right _ (List.mem_singleton_self _))
      | false =>
          obtain ⟨dep, needed, down⟩ := filed.down_of_handles handles
          exact .inr ⟨⟨dep, needed, turn.flag?_stays down⟩, handles.released rfl⟩
  · rw [passes, List.pairwise_append]
    refine ⟨filed.once_next turn, ?_, fun x earlier y now same distinct => ?_⟩
    · cases v <;> simp
    · cases v with
      | false => cases now
      | true =>
          cases List.mem_singleton.1 now
          obtain ⟨m, e⟩ := x
          obtain rfl : m = n := same
          rw [handles.roster_eq] at distinct
          exact filed.fresh_of_handles handles earlier distinct

theorem Filed.step (filed : Filed past s) (step : s.step? act = some next) :
    Filed (⟨s, act⟩ :: past) next := by
  have turn := turn_of_step step
  by_cases own : ∃ n i, act = .entry n i
  · obtain ⟨n, i, rfl⟩ := own
    exact filed.entryStep turn
  · exact filed.foreignStep turn fun n i same => own ⟨n, i, same⟩

theorem History.filed (history : History config dawn past s) : Filed past s := by
  induction history with
  | new =>
      have none (n : Nat) : (System.new config dawn).tasks n = [] := tasks_beyond (Nat.zero_le n)
      refine ⟨fun {n t} member => ?_, fun {n t} member => ?_, nofun, fun {n t} member => ?_, .nil⟩
      all_goals
        rw [none n] at member
        cases member
  | next _ step ih => exact ih.step step

end

end Manager

end Overseer
