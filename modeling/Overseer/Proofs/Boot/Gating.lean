import Overseer.Proofs.Boot.Slice
import Overseer.Proofs.Boot.Weight

/-!
# What an entry waits for

A boot begins a cohort when all flags of the cohorts before are released. So an entry is passed on
to be run only when all that it depends on has been released: with the value true by its own cohort,
with any value by an earlier one.
-/

namespace Overseer.Manager.System

open Boot

def begun (j : Nat) (opened : List Nat) (s : System) (act : Action) (next : System) : List Nat :=
  match act with
  | .boot i =>
      if i = j ∧ s.slices.length < next.slices.length then opened ++ [s.slices.length] else opened
  | _ => opened

/-- What may follow the call of a boot. The boot has a number, and its slices have. -/
inductive Booting (config : Config) (dawn : Int) (cohorts : List (List Entry)) :
    Nat → List Nat → System → Prop where
  | called {s next : System} (reach : Reachable config dawn s)
      (step : s.step? (.call (.boot cohorts)) = some next) :
      Booting config dawn cohorts s.boots.length [] next
  | next {j : Nat} {opened : List Nat} {s next : System} {act : Action}
      (booting : Booting config dawn cohorts j opened s) (step : s.step? act = some next) :
      Booting config dawn cohorts j (begun j opened s act next) next

def submission? (s : System) : Action → Option (Nat × Entry)
  | .entry n i =>
      s.slices[n]?.bind fun slice =>
        slice.tasks[i]?.bind fun t =>
          if slice.verdict? t = some true then some (n, t.entry) else none
  | _ => none

variable {config : Config} {dawn : Int} {cohorts : List (List Entry)} {j : Nat}
  {opened : List Nat} {s next : System} {act : Action}

theorem submission?_eq_some {n : Nat} {e : Entry} (submits : s.submission? act = some (n, e)) :
    ∃ i slice t, act = .entry n i ∧ s.slices[n]? = some slice ∧ slice.tasks[i]? = some t ∧
      t.entry = e ∧ slice.verdict? t = some true := by
  cases act with
  | entry n i =>
      obtain ⟨slice, found, submits⟩ := Option.bind_eq_some_iff.1 submits
      obtain ⟨t, task, submits⟩ := Option.bind_eq_some_iff.1 submits
      split at submits <;> cases submits
      exact ⟨i, slice, t, rfl, found, task, rfl, ‹_›⟩
  | _ => cases submits

theorem step?_of_submission {n : Nat} {e : Entry} (submits : s.submission? act = some (n, e)) :
    ∃ slices hooks,
      (∀ next number, { s with slices }.run e.toCommand hooks = (next, .ok number) →
        s.step? act = some next) ∧
      ∀ next cause, { s with slices }.run e.toCommand hooks = (next, .error cause) →
        s.step? act = some (next.release ⟨n, e.key⟩ false) := by
  obtain ⟨i, slice, t, rfl, found, task, rfl, verdict⟩ := submission?_eq_some submits
  refine ⟨s.slices.set n (slice.finish i), t.entry.readinessHooks ⟨n, t.entry.key⟩, ?_, ?_⟩
  · intro next number ran
    simp only [step?, stepEntry?, found, task, verdict, ran]
  · intro next cause ran
    simp only [step?, stepEntry?, found, task, verdict, ran]

/-- How far a boot is. -/
structure Staged (cohorts : List (List Entry)) (j : Nat) (opened : List Nat) (s : System)
    (b : Sequence) : Prop where
  found : s.boots[j]? = some b
  pending : b.pending = cohorts.drop opened.length
  current : ∀ n, b.current = some n → opened.getLast? = some n
  started : ∀ k n : Nat, opened[k]? = some n → ∃ es slice, cohorts[k]? = some es ∧
    s.slices[n]? = some slice ∧ (Slice.start es).Grows slice
  up : ∀ (k n : Nat) (slice : Slice), opened[k]? = some n →
    (k + 1 < opened.length ∨ b.current = none) → s.slices[n]? = some slice → slice.isUp = true

theorem begun_of_length_eq (same : next.slices.length = s.slices.length) :
    begun j opened s act next = opened := by
  cases act with
  | boot i => exact if_neg fun more => absurd more.2 (by omega)
  | _ => rfl

theorem Staged.goOn {b : Sequence} (staged : Staged cohorts j opened s b)
    (grow : SlicesGrow s.slices next.slices) (found : next.boots[j]? = some b) :
    Staged cohorts j opened next b := by
  refine ⟨found, staged.pending, staged.current, fun k n opens => ?_,
    fun k n slice opens earlier there => ?_⟩
  · obtain ⟨es, slice, cohort, there, grows⟩ := staged.started k n opens
    obtain ⟨slice', there, more⟩ := grow n slice there
    exact ⟨es, slice', cohort, there, grows.trans more⟩
  · obtain ⟨es, before, cohort, was, grows⟩ := staged.started k n opens
    obtain ⟨after, is, more⟩ := grow n before was
    cases there.symm.trans is
    exact more.isUp (staged.up k n before opens earlier was)

theorem Staged.isUp {b : Sequence} (staged : Staged cohorts j opened s b) {n : Nat} {slice : Slice}
    (current : b.current = some n) (coming : s.slices[n]? = some slice) (isUp : slice.isUp = true) :
    Staged cohorts j opened { s with boots := s.boots.set j { b with current := none } }
      { b with current := none } := by
  have bound := (List.getElem?_eq_some_iff.1 staged.found).1
  refine ⟨List.getElem?_set_self bound, staged.pending, nofun, staged.started,
    fun k m other opens _ there => ?_⟩
  by_cases earlier : k + 1 < opened.length
  · exact staged.up k m other opens (.inl earlier) there
  · -- The last slice is the one that is up now.
    have last := staged.current n current
    have index : k = opened.length - 1 := by
      have below := (List.getElem?_eq_some_iff.1 opens).1
      omega
    rw [List.getLast?_eq_getElem?, ← index, opens] at last
    cases last
    cases coming.symm.trans there
    exact isUp

theorem Staged.begin {b : Sequence} (staged : Staged cohorts j opened s b)
    {entries : List Entry} {rest : List (List Entry)} (current : b.current = none)
    (pending : b.pending = entries :: rest) :
    Staged cohorts j (opened ++ [s.slices.length])
      { s with
        slices := s.slices ++ [.start entries]
        boots := s.boots.set j ⟨rest, some s.slices.length, false⟩ }
      ⟨rest, some s.slices.length, false⟩ := by
  have bound := (List.getElem?_eq_some_iff.1 staged.found).1
  have drop : cohorts.drop opened.length = entries :: rest := staged.pending.symm.trans pending
  have cohort : cohorts[opened.length]? = some entries := by
    rw [← List.head?_drop, drop, List.head?_cons]
  have old : ∀ k n : Nat, opened[k]? = some n → n < s.slices.length := fun k n opens => by
    obtain ⟨_, _, _, there, _⟩ := staged.started k n opens
    exact (List.getElem?_eq_some_iff.1 there).1
  refine ⟨List.getElem?_set_self bound, ?_, fun n same => ?_, fun k n opens => ?_,
    fun k n slice opens earlier there => ?_⟩
  · rw [List.length_append, List.length_singleton, ← List.drop_drop, drop]
    rfl
  · rw [List.getLast?_concat]
    exact same
  · rcases Nat.lt_trichotomy k opened.length with before | same | after
    · rw [List.getElem?_append_left before] at opens
      obtain ⟨es, slice, cohort, there, grows⟩ := staged.started k n opens
      exact ⟨es, slice, cohort, (List.getElem?_append_left (old k n opens)).trans there, grows⟩
    · subst same
      rw [List.getElem?_concat_length] at opens
      cases opens
      exact ⟨entries, _, cohort, List.getElem?_concat_length, .refl _⟩
    · rw [List.getElem?_eq_none (by simp; omega)] at opens
      cases opens
  · rcases earlier with earlier | gone
    · have before : k < opened.length := by simpa using earlier
      rw [List.getElem?_append_left before] at opens
      refine staged.up k n slice opens (.inr current) ?_
      rwa [List.getElem?_append_left (old k n opens)] at there
    · cases gone

theorem BootMove.staged {b : Sequence} (move : BootMove s act next)
    (staged : Staged cohorts j opened s b) :
    ∃ b', Staged cohorts j (System.begun j opened s act next) next b' := by
  have bound := (List.getElem?_eq_some_iff.1 staged.found).1
  cases move with
  | on goesOn =>
      rw [begun_of_length_eq goesOn.length]
      exact ⟨b, staged.goOn goesOn.grow (by rw [goesOn.boots, staged.found])⟩
  | called others =>
      refine ⟨b, staged.goOn (.refl _) ?_⟩
      exact (List.getElem?_append_left bound).trans staged.found
  | @up i n b' slice found current coming isUp =>
      rw [begun_of_length_eq]
      · by_cases same : i = j
        · subst same
          cases found.symm.trans staged.found
          exact ⟨_, staged.isUp current coming isUp⟩
        · exact ⟨b, staged.goOn (.refl _) ((List.getElem?_set_ne same).trans staged.found)⟩
      · rfl
  | @ended i b' log found =>
      rw [begun_of_length_eq]
      · by_cases same : i = j
        · subst same
          cases found.symm.trans staged.found
          exact ⟨{ b with finished := true }, List.getElem?_set_self bound, staged.pending,
            staged.current, staged.started, staged.up⟩
        · exact ⟨b, staged.goOn (.refl _) ((List.getElem?_set_ne same).trans staged.found)⟩
      · rfl
  | @begun i b' entries rest found current pending =>
      by_cases same : i = j
      · subst same
        cases found.symm.trans staged.found
        have opens : System.begun i opened s (.boot i)
            { s with
              slices := s.slices ++ [.start entries]
              boots := s.boots.set i ⟨rest, some s.slices.length, false⟩ } =
            opened ++ [s.slices.length] := if_pos ⟨rfl, by simp⟩
        rw [opens]
        exact ⟨_, staged.begin current pending⟩
      · refine ⟨b, ?_⟩
        rw [show System.begun j opened s (.boot i) _ = opened from if_neg fun more => same more.1]
        exact staged.goOn (.append _ _) ((List.getElem?_set_ne same).trans staged.found)

theorem Booting.staged (booting : Booting config dawn cohorts j opened s) :
    ∃ b, Staged cohorts j opened s b := by
  induction booting with
  | @called s next reach step =>
      cases step
      exact ⟨⟨cohorts, none, false⟩, List.getElem?_concat_length, rfl, nofun, nofun, nofun⟩
  | next _ step ih =>
      obtain ⟨b, staged⟩ := ih
      exact (bootMove_of_step step).staged staged

/-- When an entry of a boot is passed on to be run, each entry of the tree that it depends on is in
its own cohort or in an earlier one, and that cohort has released its flag: in its own cohort with
the value true. -/
theorem dependencies_released {batch : List Entry} {tree : Tree} (built : tree.BuiltFrom batch)
    (booting : Booting config dawn tree.cohorts j opened s) {n k : Nat} {e e' : Entry}
    (submits : s.submission? act = some (n, e)) (member : opened[k]? = some n)
    (listed : e' ∈ tree.services) (needed : e'.key ∈ e.dependencies) :
    ∃ k' es m slice v, k' ≤ k ∧ tree.cohorts[k']? = some es ∧ e' ∈ es ∧
      opened[k']? = some m ∧ s.slices[m]? = some slice ∧
      slice.rendezvous.get? e'.key = some v ∧ (k' = k → v = true) := by
  obtain rfl := built.eq_ofEntries
  obtain ⟨b, staged⟩ := booting.staged
  obtain ⟨i, slice, t, -, found, task, rfl, verdict⟩ := submission?_eq_some submits
  obtain ⟨es, _, cohort, there, grows⟩ := staged.started k n member
  cases found.symm.trans there
  obtain ⟨inside, waits⟩ := grows.of_start task
  obtain ⟨k', es', le, cohort', member'⟩ := Tree.dependency_cohort cohort inside needed listed
  rcases Nat.lt_or_eq_of_le le with earlier | rfl
  · -- The slice of an earlier cohort is up, so it has released all that it provides.
    have begun : k' < opened.length := by
      have below := (List.getElem?_eq_some_iff.1 member).1
      omega
    obtain ⟨es'', slice', cohort'', there', grows'⟩ :=
      staged.started k' _ (List.getElem?_eq_getElem begun)
    cases cohort'.symm.trans cohort''
    have isUp := staged.up k' _ slice' (List.getElem?_eq_getElem begun) (.inl (by
      have below := (List.getElem?_eq_some_iff.1 member).1
      omega)) there'
    have provided : e'.key ∈ slice'.provided := by
      rw [grows'.provided, Slice.provided_start]
      exact List.mem_map_of_mem member'
    obtain ⟨v, known⟩ := Option.isSome_iff_exists.1 (List.all_eq_true.1 isUp _ provided)
    exact ⟨k', es', _, slice', v, le, cohort', member', List.getElem?_eq_getElem begun, there',
      known, fun same => absurd same (Nat.ne_of_lt earlier)⟩
  · -- In its own slice the entry waits for the flag to be true.
    cases cohort.symm.trans cohort'
    exact ⟨k', es, n, slice, true, le, cohort, member', member, found,
      Slice.all_true_of_verdict waits verdict _ needed, fun _ => rfl⟩

def failing : Entry := { Entry.new "a" "missing" with after := ["init"] }

def dependent : Entry := { Entry.new "b" "test" with after := ["a", "net"] }

theorem cohorts_failing :
    (Tree.ofEntries [failing, dependent]).1.cohorts = [[failing], [dependent], []] := by
  cbv

theorem entries_failing :
    (Tree.ofEntries [failing, dependent]).1.entries = [(1, failing), (1002, dependent)] := by
  cbv

theorem services_failing :
    (Tree.ofEntries [failing, dependent]).1.services = [failing, dependent] := by
  rw [Tree.services, entries_failing]
  rfl

theorem builtFrom_failing :
    (Tree.ofEntries [failing, dependent]).1.BuiltFrom [failing, dependent] := by
  refine .of_fits fun w e member => ?_
  rw [entries_failing] at member
  rcases List.mem_cons.1 member with light | heavy
  · cases light
    decide
  · cases List.mem_singleton.1 heavy
    decide

def stumbled : System :=
  ((System.new .default 0).after? [.call (.register "test" 0),
    .call (.boot [[failing], [dependent], []]), .boot 0, .entry 0 0, .boot 0, .boot 0]).get
    (by decide)

theorem booting_stumbled :
    Booting .default 0 (Tree.ofEntries [failing, dependent]).1.cohorts 0 [0, 1] stumbled := by
  rw [cohorts_failing]
  have registered : Reachable .default 0 _ := Reachable.new.next
    (rfl : step? _ (.call (.register "test" 0)) = some _)
  have called := Booting.called registered
    (rfl : step? _ (.call (.boot [[failing], [dependent], []])) = some _)
  have opened := called.next (rfl : step? _ (.boot 0) = some _)
  have failed := opened.next (rfl : step? _ (.entry 0 0) = some _)
  have up := failed.next (rfl : step? _ (.boot 0) = some _)
  exact up.next (rfl : step? _ (.boot 0) = some _)

theorem submission?_stumbled : stumbled.submission? (.entry 1 0) = some (1, dependent) := rfl

theorem dependencies_released_stumbled :
    ∃ (m : Nat) (slice : Slice) (v : Bool), stumbled.slices[m]? = some slice ∧
      slice.rendezvous.get? failing.key = some v := by
  have listed : failing ∈ (Tree.ofEntries [failing, dependent]).1.services := by
    rw [services_failing]
    exact List.mem_cons_self
  obtain ⟨_, _, m, slice, v, -, -, -, -, there, known, -⟩ :=
    dependencies_released builtFrom_failing booting_stumbled (k := 1) submission?_stumbled rfl
      listed (by decide)
  exact ⟨m, slice, v, there, known⟩

/-- The failure of an entry does not stop those that depend on it in later cohorts. -/
theorem failure_passes_cohorts :
    ¬ ∀ (config : Config) (dawn : Int) (batch : List Entry) (tree : Tree) (j : Nat)
      (opened : List Nat) (s : System) (act : Action) (n : Nat) (e e' : Entry),
      tree.BuiltFrom batch → Booting config dawn tree.cohorts j opened s →
      s.submission? act = some (n, e) → n ∈ opened →
      e' ∈ tree.services → e'.key ∈ e.dependencies →
      ∃ m slice, m ∈ opened ∧ s.slices[m]? = some slice ∧ e'.key ∈ slice.provided ∧
        slice.rendezvous.get? e'.key = some true := by
  intro stops
  have listed : failing ∈ (Tree.ofEntries [failing, dependent]).1.services := by
    rw [services_failing]
    exact List.mem_cons_self
  obtain ⟨m, slice, member, there, provided, true_there⟩ := stops _ _ _ _ _ _ _ _ _ _ _
    builtFrom_failing booting_stumbled submission?_stumbled (by decide) listed (by decide)
  have slices : m = 0 ∨ m = 1 := by simpa using member
  rcases slices with rfl | rfl
  · cases there
    exact absurd true_there (by decide)
  · cases there
    exact absurd provided (by decide)

end Overseer.Manager.System
