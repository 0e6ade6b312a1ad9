import Overseer.Proofs.Boot.Gating

/-!
# What a boot has on record

The steps that the manager has taken are kept beside its state. They tell which boots were called
for, which slices were begun and which entries were passed on to be run; `Charted` says that the
state of every boot agrees with its record.
-/

namespace Overseer.Manager

open Boot

structure Taken where
  before : System
  act : Action

/-- A system with the steps that brought it here, the latest first. -/
inductive History (config : Config) (dawn : Int) : List Taken → System → Prop where
  | new : History config dawn [] (.new config dawn)
  | next {past : List Taken} {s next : System} {act : Action} (history : History config dawn past s)
      (step : s.step? act = some next) : History config dawn (⟨s, act⟩ :: past) next

def retrace? : List Taken × System → List Action → Option (List Taken × System)
  | run, [] => some run
  | (past, s), act :: rest =>
      match s.step? act with
      | some next => retrace? (⟨s, act⟩ :: past, next) rest
      | none => none

def Taken.boot? (t : Taken) : Option (List (List Entry)) :=
  match t.act with
  | .call (.boot cohorts) => some cohorts
  | _ => none

def Taken.submission? (t : Taken) : Option (Nat × Entry) := t.before.submission? t.act

def Taken.opening? (j : Nat) (t : Taken) : Option (Nat × List Entry) :=
  match t.act with
  | .boot i =>
      if i = j then
        match t.before.boots[j]? with
        | some ⟨entries :: _, none, _⟩ => some (t.before.slices.length, entries)
        | _ => none
      else none
  | _ => none

def boots (past : List Taken) : List (List (List Entry)) := past.reverse.filterMap Taken.boot?

def submissions (past : List Taken) : List (Nat × Entry) :=
  past.reverse.filterMap Taken.submission?

/-- The slices that a boot has begun, in order, with their entries. -/
def openings (j : Nat) (past : List Taken) : List (Nat × List Entry) :=
  past.reverse.filterMap (Taken.opening? j)

section
variable {config : Config} {dawn : Int} {past : List Taken} {s next : System} {act : Action}
  {t : Taken} {j n i : Nat}

theorem History.reachable (history : History config dawn past s) : Reachable config dawn s := by
  induction history with
  | new => exact .new
  | next _ step ih => exact ih.next step

theorem history_retrace {run : List Taken × System} {acts : List Action}
    (history : History config dawn past s) (retraced : retrace? (past, s) acts = some run) :
    History config dawn run.1 run.2 := by
  induction acts generalizing past s with
  | nil =>
      cases retraced
      exact history
  | cons act rest ih =>
      unfold retrace? at retraced
      split at retraced
      · exact ih (history.next ‹_›) retraced
      · cases retraced

@[simp] theorem boots_cons : boots (t :: past) = boots past ++ t.boot?.toList := by
  cases called : t.boot? <;> simp [boots, called]

@[simp] theorem submissions_cons :
    submissions (t :: past) = submissions past ++ t.submission?.toList := by
  cases submits : t.submission? <;> simp [submissions, submits]

@[simp] theorem openings_cons :
    openings j (t :: past) = openings j past ++ (t.opening? j).toList := by
  cases opens : t.opening? j <;> simp [openings, opens]

theorem submission?_of_foreign (foreign : ∀ n i, act ≠ .entry n i) :
    (Taken.mk s act).submission? = none := by
  cases act with
  | entry n i => exact absurd rfl (foreign n i)
  | _ => rfl

/-! ## How far the boots are -/

theorem getElem?_snoc {α : Type} (l : List α) (a : α) (i : Nat) :
    (l ++ [a])[i]? = if i = l.length then some a else l[i]? := by
  rcases Nat.lt_trichotomy i l.length with old | rfl | beyond
  · rw [List.getElem?_append_left old, if_neg (Nat.ne_of_lt old)]
  · simp
  · rw [if_neg (Nat.ne_of_gt beyond), List.getElem?_eq_none (by simpa using beyond),
      List.getElem?_eq_none (Nat.le_of_lt beyond)]

theorem step_of_opening {entries : List Entry} (step : s.step? act = some next)
    (opens : (Taken.mk s act).opening? j = some (n, entries)) :
    ∃ rest finished, act = .boot j ∧ n = s.slices.length ∧
      s.boots[j]? = some ⟨entries :: rest, none, finished⟩ ∧
      next = { s with
        slices := s.slices ++ [.start entries]
        boots := s.boots.set j ⟨rest, some s.slices.length, false⟩ } := by
  cases act with
  | boot i =>
      simp only [Taken.opening?] at opens
      split at opens
      · rename_i own
        subst own
        split at opens
        · rename_i rest finished found
          cases opens
          refine ⟨rest, finished, rfl, rfl, found, ?_⟩
          simp only [System.step?, System.stepBoot?, found] at step
          split at step
          · cases step
          · exact (Option.some.inj step).symm
        · cases opens
      · cases opens
  | _ => cases opens

theorem begun_eq (step : s.step? act = some next) (opened : List Nat) :
    System.begun j opened s act next =
      opened ++ ((Taken.mk s act).opening? j).toList.map Prod.fst := by
  cases opens : (Taken.mk s act).opening? j with
  | some x =>
      obtain ⟨rest, finished, rfl, number, -, rfl⟩ := step_of_opening step opens
      simp [System.begun, number]
  | none =>
      rw [Option.toList_none, List.map_nil, List.append_nil]
      cases System.bootMove_of_step step with
      | on goesOn => exact System.begun_of_length_eq goesOn.length
      | called => rfl
      | up | ended => exact System.begun_of_length_eq rfl
      | @begun i b entries rest found current pending =>
          obtain ⟨_, _, _⟩ := b
          cases current
          cases pending
          refine if_neg fun own => ?_
          obtain ⟨rfl, -⟩ := own
          simp [Taken.opening?, found] at opens

theorem boot?_of_step (step : s.step? act = some next) :
    (∃ cohorts, act = .call (.boot cohorts) ∧ next = s.boot cohorts) ∨
      (Taken.mk s act).boot? = none ∧ next.boots.length = s.boots.length := by
  by_cases own : ∃ cohorts, act = .call (.boot cohorts)
  · obtain ⟨cohorts, rfl⟩ := own
    exact .inl ⟨cohorts, rfl, (Option.some.inj step).symm⟩
  · refine .inr ⟨?_, ?_⟩
    · unfold Taken.boot?
      split
      · rename_i cohorts same
        exact absurd ⟨cohorts, same⟩ own
      · rfl
    · cases System.bootMove_of_step step with
      | on goesOn => rw [goesOn.boots]
      | called cohorts => exact absurd ⟨cohorts, rfl⟩ own
      | up | ended | begun => exact List.length_set

structure Charted (past : List Taken) (s : System) : Prop where
  length : s.boots.length = (boots past).length
  unopened : ∀ {j}, s.boots.length ≤ j → openings j past = []
  staged : ∀ {j cohorts}, (boots past)[j]? = some cohorts →
    ∃ b, System.Staged cohorts j ((openings j past).map Prod.fst) s b
  entries : ∀ {j cohorts}, (boots past)[j]? = some cohorts →
    (openings j past).map Prod.snd = cohorts.take (openings j past).length

section
variable {cohorts : List (List Entry)} {entries : List Entry}

theorem Charted.opening_entries (charted : Charted past s)
    (called : (boots past)[j]? = some cohorts) (step : s.step? act = some next)
    (opens : (Taken.mk s act).opening? j = some (n, entries)) :
    cohorts[(openings j past).length]? = some entries := by
  obtain ⟨rest, finished, rfl, -, found, -⟩ := step_of_opening step opens
  obtain ⟨b, staged⟩ := charted.staged called
  cases found.symm.trans staged.found
  have left := staged.pending
  rw [List.length_map] at left
  rw [← List.head?_drop, ← left, List.head?_cons]

theorem Charted.opening?_eq_none (step : s.step? act = some next) (beyond : s.boots.length ≤ j) :
    (Taken.mk s act).opening? j = none := by
  by_contra opens
  obtain ⟨x, opens⟩ := Option.ne_none_iff_exists'.1 opens
  obtain ⟨_, _, -, -, found, -⟩ := step_of_opening step opens
  have below := (List.getElem?_eq_some_iff.1 found).1
  omega

theorem Charted.goOn (charted : Charted past s) (step : s.step? act = some next)
    (called : (boots past)[j]? = some cohorts) :
    (∃ b, System.Staged cohorts j ((openings j (⟨s, act⟩ :: past)).map Prod.fst) next b) ∧
      (openings j (⟨s, act⟩ :: past)).map Prod.snd =
        cohorts.take (openings j (⟨s, act⟩ :: past)).length := by
  obtain ⟨b, staged⟩ := charted.staged called
  have moved := (System.bootMove_of_step step).staged staged
  rw [begun_eq step] at moved
  refine ⟨by simpa using moved, ?_⟩
  rw [openings_cons, List.map_append, List.length_append, charted.entries called]
  cases opens : (Taken.mk s act).opening? j with
  | none => simp
  | some x =>
      have entries := charted.opening_entries called step opens
      rw [Option.toList_some, List.length_singleton, List.take_add_one, entries]
      rfl

theorem Charted.call (charted : Charted past s) (cohorts : List (List Entry)) :
    Charted (⟨s, .call (.boot cohorts)⟩ :: past) (s.boot cohorts) := by
  have step : s.step? (.call (.boot cohorts)) = some (s.boot cohorts) := rfl
  have fresh {j : Nat} (beyond : s.boots.length ≤ j) :
      openings j (⟨s, .call (.boot cohorts)⟩ :: past) = [] := by
    rw [openings_cons, charted.unopened beyond, opening?_eq_none step beyond]
    rfl
  have longer : (s.boot cohorts).boots.length = s.boots.length + 1 := by simp [System.boot]
  have both {j : Nat} {others : List (List Entry)}
      (called : (boots (⟨s, .call (.boot cohorts)⟩ :: past))[j]? = some others) :
      (∃ b, System.Staged others j
          ((openings j (⟨s, .call (.boot cohorts)⟩ :: past)).map Prod.fst) (s.boot cohorts) b) ∧
        (openings j (⟨s, .call (.boot cohorts)⟩ :: past)).map Prod.snd =
          others.take (openings j (⟨s, .call (.boot cohorts)⟩ :: past)).length := by
    rw [boots_cons, Taken.boot?, Option.toList_some, getElem?_snoc, ← charted.length] at called
    split at called
    · rename_i own
      cases called
      rw [fresh (Nat.le_of_eq own.symm), own]
      refine ⟨⟨⟨cohorts, none, false⟩, ?_, rfl, nofun, nofun, nofun⟩, rfl⟩
      exact List.getElem?_concat_length
    · exact charted.goOn step called
  refine ⟨?_, fun beyond => fresh (by omega), fun called => (both called).1,
    fun called => (both called).2⟩
  rw [boots_cons, List.length_append, ← charted.length, longer]
  rfl

theorem Charted.step (charted : Charted past s) (step : s.step? act = some next) :
    Charted (⟨s, act⟩ :: past) next := by
  rcases boot?_of_step step with ⟨cohorts, rfl, rfl⟩ | ⟨uncalled, length⟩
  · exact charted.call cohorts
  · have same : boots (⟨s, act⟩ :: past) = boots past := by
      rw [boots_cons, uncalled]
      exact List.append_nil _
    refine ⟨?_, fun beyond => ?_, fun called => ?_, fun called => ?_⟩
    · rw [length, same, charted.length]
    · rw [length] at beyond
      rw [openings_cons, charted.unopened beyond, opening?_eq_none step beyond]
      rfl
    · exact (charted.goOn step (same ▸ called)).1
    · exact (charted.goOn step (same ▸ called)).2

theorem History.charted (history : History config dawn past s) : Charted past s := by
  induction history with
  | new => exact ⟨rfl, fun _ => rfl, nofun, nofun⟩
  | next _ step ih => exact ih.step step

theorem Charted.cohort_of_opening {k : Nat} (charted : Charted past s)
    (called : (boots past)[j]? = some cohorts) (opens : (openings j past)[k]? = some (n, entries)) :
    cohorts[k]? = some entries := by
  have listed : ((openings j past).map Prod.snd)[k]? = some entries := by
    rw [List.getElem?_map, opens]
    rfl
  rwa [charted.entries called,
    List.getElem?_take_of_lt (List.getElem?_eq_some_iff.1 opens).1] at listed

theorem boots_of_step (step : s.step? act = some next) :
    (∃ i b, next.boots = s.boots.set i b ∧ (b.current.isSome = true → b.finished = false)) ∨
      (∃ cohorts, next.boots = s.boots ++ [⟨cohorts, none, false⟩]) ∨ next.boots = s.boots := by
  by_cases own : ∃ i, act = .boot i
  · obtain ⟨i, rfl⟩ := own
    refine .inl ?_
    simp only [System.step?, System.stepBoot?] at step
    split at step
    · cases step
    · rename_i b found
      split at step
      · cases step
      · split at step
        · split at step
          · split at step
            · cases step
              exact ⟨i, _, rfl, fun waiting => by cases waiting⟩
            · cases step
          · cases step
        · rename_i current _
          cases step
          exact ⟨i, _, rfl, fun waiting => by simp [current] at waiting⟩
        · cases step
          exact ⟨i, _, rfl, fun _ => rfl⟩
  · refine .inr ?_
    cases System.bootMove_of_step step with
    | on goesOn => exact .inr goesOn.boots
    | called cohorts => exact .inl ⟨cohorts, rfl⟩
    | up | ended | begun => exact absurd ⟨_, rfl⟩ own

theorem History.unfinished (history : History config dawn past s) :
    ∀ b ∈ s.boots, b.current.isSome = true → b.finished = false := by
  induction history with
  | new => exact nofun
  | next _ step ih =>
      intro b member
      rcases boots_of_step step with ⟨i, b', boots, own⟩ | ⟨cohorts, boots⟩ | boots
      · rw [boots] at member
        rcases List.mem_or_eq_of_mem_set member with old | rfl
        · exact ih b old
        · exact own
      · rw [boots] at member
        rcases List.mem_append.1 member with old | new
        · exact ih b old
        · rw [List.mem_singleton.1 new]
          exact nofun
      · exact ih b (boots ▸ member)

theorem History.of_opening (history : History config dawn past s)
    (opens : (n, entries) ∈ openings j past) :
    ∃ b slice, s.boots[j]? = some b ∧ s.slices[n]? = some slice ∧
      (Slice.start entries).Grows slice ∧ (b.current = some n ∨ slice.isUp = true) := by
  have charted := history.charted
  have below : j < (boots past).length := by
    by_contra beyond
    rw [charted.unopened (charted.length ▸ Nat.le_of_not_lt beyond)] at opens
    cases opens
  obtain ⟨cohorts, called⟩ : ∃ cohorts, (boots past)[j]? = some cohorts :=
    ⟨_, List.getElem?_eq_getElem below⟩
  obtain ⟨b, staged⟩ := charted.staged called
  obtain ⟨k, there⟩ := List.mem_iff_getElem?.1 opens
  have number : ((openings j past).map Prod.fst)[k]? = some n := by
    rw [List.getElem?_map, there]
    rfl
  obtain ⟨es, slice, cohort, found, grows⟩ := staged.started k n number
  cases cohort.symm.trans (charted.cohort_of_opening called there)
  refine ⟨b, slice, staged.found, found, grows, ?_⟩
  cases current : b.current with
  | none => exact .inr (staged.up k n slice number (.inr current) found)
  | some m =>
      by_cases last : k + 1 < ((openings j past).map Prod.fst).length
      · exact .inr (staged.up k n slice number (.inl last) found)
      · -- The slice that is coming up is the last one.
        refine .inl ?_
        have bound := (List.getElem?_eq_some_iff.1 number).1
        have latest := staged.current m current
        rw [List.getLast?_eq_getElem?, show _ - 1 = k by omega, number] at latest
        exact latest.symm

end

end

end Overseer.Manager
