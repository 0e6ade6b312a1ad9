import Mathlib
import Overseer.Proofs.Boot.Meeting

/-!
# When a failed flag is noticed

A waiter that wants all its flags to be true listens for one of them at a time, in their order. A
flag that fails is heard when all flags before it are true, and not while one of them is pending.
-/

namespace Overseer.Boot

/-- All flags that stand before a key of the list are true. -/
def Board.Reached (b : Board) (keys : List String) (key : String) : Prop :=
  ∃ before after, keys = before ++ key :: after ∧ ∀ other ∈ before, b.value? other = some true

namespace Meeting

section
variable {past later : List Done} {m m' : Meeting} {i : Nat} {l : Listener} {keys : List String}
  {key : String} {value : Option Bool}

/-! ## The first flag that is not true -/

theorem find?_eq_some_iff_reached (b : Board) :
    (keys.find? fun key => b.value? key != some true) = some key ↔
      b.Reached keys key ∧ b.value? key ≠ some true := by
  rw [List.find?_eq_some_iff_append, bne_iff_ne, and_comm]
  apply and_congr_left
  intro untrue
  simp [Board.Reached]

theorem Record.answer_eq (record : Record past m) (found : m.listeners[i]? = some l)
    (demand : l.demand = .allTrue) (rests : l.step? m.board = none) :
    l.answer =
      match l.asked.find? fun key => m.board.value? key != some true with
      | none => some true
      | some key => m.board.value? key := by
  have settled := (record.listener_sound found).waiter_eq_settle record.value?_eq rests
  have same : m.board.value? = (flags past).get? := funext record.value?_eq
  rw [Listener.answer, settled, demand, same]
  exact Waiter.answer_settle _ _

theorem Record.answer_true_iff (record : Record past m) (found : m.listeners[i]? = some l)
    (demand : l.demand = .allTrue) (rests : l.step? m.board = none) :
    l.answer = some true ↔ ∀ key ∈ l.asked, m.board.value? key = some true := by
  rw [record.answer_eq found demand rests]
  constructor
  · intro content
    split at content
    · rename_i nowhere
      simpa using nowhere
    · rename_i key first
      exact absurd content ((find?_eq_some_iff_reached _).1 first).2
  · intro all
    rw [List.find?_eq_none.2 (by simpa using all)]

theorem Record.answer_eq_iff (record : Record past m) (found : m.listeners[i]? = some l)
    (demand : l.demand = .allTrue) (rests : l.step? m.board = none) (untrue : value ≠ some true) :
    l.answer = value ↔ ∃ key, m.board.Reached l.asked key ∧ m.board.value? key = value := by
  rw [record.answer_eq found demand rests]
  constructor
  · intro same
    split at same
    · exact absurd same.symm untrue
    · rename_i key first
      exact ⟨key, ((find?_eq_some_iff_reached _).1 first).1, same⟩
  · rintro ⟨key, reached, rfl⟩
    rw [(find?_eq_some_iff_reached _).2 ⟨reached, untrue⟩]

/-! ## What comes later -/

theorem Record.unique (record : Record past m) (record' : Record past m') : m' = m := by
  induction record generalizing m' with
  | empty =>
      cases record'
      rfl
  | next _ step ih =>
      cases record' with
      | next before step' =>
          rw [ih before, step] at step'
          cases step'
          rfl

theorem Move.listener {n : Meeting} {act : Action} {reply : Option Bool}
    (move : Move m act n reply) (found : m.listeners[i]? = some l) :
    ∃ l', n.listeners[i]? = some l' ∧ l'.asked = l.asked ∧ l'.demand = l.demand := by
  cases move with
  | join demand keys =>
      refine ⟨l, ?_, rfl, rfl⟩
      rwa [List.getElem?_append_left (List.getElem?_eq_some_iff.1 found).1]
  | @advance j mover next board at_ turn =>
      by_cases own : j = i
      · subst own
        cases found.symm.trans at_
        refine ⟨next, ?_, turn.asked_eq, turn.demand_eq⟩
        exact List.getElem?_set_self (List.getElem?_eq_some_iff.1 found).1
      · refine ⟨l, ?_, rfl, rfl⟩
        rwa [← List.getElem?_set_ne own] at found
  | release | query => exact ⟨l, found, rfl, rfl⟩

theorem Record.goes_on (record : Record past m) (found : m.listeners[i]? = some l)
    (record' : Record (later ++ past) m') :
    m.board.Grows m'.board ∧
      ∃ l', m'.listeners[i]? = some l' ∧ l'.asked = l.asked ∧ l'.demand = l.demand := by
  induction later generalizing m' with
  | nil =>
      cases record.unique record'
      exact ⟨.refl _, l, found, rfl, rfl⟩
  | cons d later ih =>
      cases record' with
      | next before step =>
          obtain ⟨grows, l', found', asked, demand⟩ := ih before
          have move := move_of_step step
          obtain ⟨l'', found'', asked', demand'⟩ := move.listener found'
          exact ⟨grows.trans (move.grows before.sound), l'', found'', asked'.trans asked,
            demand'.trans demand⟩

theorem Record.pending (record : Record past m) (silent : m.board.value? key = none)
    (record' : Record (later ++ past) m') (nobody : ∀ d ∈ later, ∀ v, d.act ≠ .release key v) :
    m'.board.value? key = none := by
  rw [record.value?_eq, get?_flags_eq_none_iff] at silent
  rw [record'.value?_eq, get?_flags_eq_none_iff]
  intro d member
  rcases List.mem_append.1 member with member | member
  · exact nobody d member
  · exact silent d member

/-- A waiter that wants all its flags to be true, and has nothing left to do, has answered false
exactly if one of them has failed and all before it are true. It is blocked exactly if one of them
is pending and all before it are true: whatever else fails, it does not answer until this one is
released. A failed flag with only true ones before it is heard: from then on the waiter has a step
to take until it has answered false. -/
theorem failure_heard_in_turn (record : Record past m) (found : m.listeners[i]? = some l)
    (demand : l.demand = .allTrue) :
    (m.step? (.advance i) = none →
      (l.answer = some true ↔ ∀ key ∈ l.asked, m.board.value? key = some true) ∧
      (l.answer = some false ↔
        ∃ key, m.board.Reached l.asked key ∧ m.board.value? key = some false) ∧
      (l.answer = none ↔ ∃ key, m.board.Reached l.asked key ∧ m.board.value? key = none)) ∧
    ∀ key, m.board.Reached l.asked key → ∀ later m', Record (later ++ past) m' →
      ∃ l', m'.listeners[i]? = some l' ∧ l'.asked = l.asked ∧
        (m.board.value? key = some false →
          (m'.step? (.advance i)).isSome = true ∨ l'.answer = some false) ∧
        (m.board.value? key = none → (∀ d ∈ later, ∀ v, d.act ≠ .release key v) →
          l'.answer = none) := by
  refine ⟨fun rests => ?_, ?_⟩
  · rw [step?_advance_eq_none_iff found] at rests
    exact ⟨record.answer_true_iff found demand rests,
      record.answer_eq_iff found demand rests (by decide),
      record.answer_eq_iff found demand rests (by decide)⟩
  · rintro key ⟨before, after, split, others⟩ later m' record'
    obtain ⟨grows, l', found', asked, demand'⟩ := record.goes_on found record'
    rw [demand] at demand'
    have reached : m'.board.Reached l'.asked key :=
      ⟨before, after, asked.trans split, fun other member => grows.values (others other member)⟩
    refine ⟨l', found', asked, fun failed => ?_, fun silent nobody => ?_⟩
    · cases step : m'.step? (.advance i) with
      | some _ => exact .inl rfl
      | none =>
          refine .inr ?_
          rw [step?_advance_eq_none_iff found'] at step
          rw [record'.answer_eq_iff found' demand' step (by decide)]
          exact ⟨key, reached, grows.values failed⟩
    · have pending := record.pending silent record' nobody
      by_contra answered
      -- Who has answered has nothing left to do, and is then in one of the three cases.
      have rests : l'.step? m'.board = none :=
        Listener.step?_eq_none_iff.2 (.inl (Option.isSome_iff_ne_none.2 answered))
      exact answered ((record'.answer_eq_iff found' demand' rests (by decide)).2
        ⟨key, reached, pending⟩)

end

def failing : List Action := [.join .allTrue ["a", "b"], .release "b" false, .advance 0]

def obstructed : List Done × Meeting := (replay? [] .empty failing).get (by decide)

def muchLater : List Done × Meeting :=
  (replay? obstructed.1 obstructed.2 [.release "c" true]).get (by decide)

theorem record_obstructed : Record obstructed.1 obstructed.2 :=
  .of_replay .empty (show replay? [] .empty failing = _ by decide)

theorem failure_heard_in_turn_obstructed :
    ∃ l, obstructed.2.listeners = [l] ∧ l.answer = none ∧
      ∃ l', muchLater.2.listeners[0]? = some l' ∧ l'.asked = ["a", "b"] ∧ l'.answer = none := by
  obtain ⟨l, own⟩ : ∃ l, obstructed.2.listeners = [l] := ⟨_, rfl⟩
  have found : obstructed.2.listeners[0]? = some l := by rw [own]; rfl
  have keys : l.asked = ["a", "b"] ∧ l.demand = .allTrue := by
    cases own
    decide
  have reached : obstructed.2.board.Reached l.asked "a" := ⟨[], ["b"], keys.1, nofun⟩
  have told := failure_heard_in_turn record_obstructed found keys.2
  have later : Record ([⟨.release "c" true, some true⟩] ++ obstructed.1) muchLater.2 :=
    record_obstructed.of_replay (show replay? _ _ [.release "c" true] = some (_, _) by decide)
  obtain ⟨l', found', asked, -, pending⟩ := told.2 "a" reached _ _ later
  refine ⟨l, own, (told.1 (by decide)).2.2.2 ⟨"a", reached, by decide⟩, l', found',
    asked.trans keys.1, pending (by decide) (by simp)⟩

/-- A flag that has failed is not heard while one before it in the list is pending. -/
theorem failure_unheard :
    ¬ ∀ past m i l, Record past m → m.listeners[i]? = some l → l.demand = .allTrue →
      (∃ key ∈ l.asked, m.board.value? key = some false) → m.step? (.advance i) = none →
      l.answer = some false := by
  intro prompt
  obtain ⟨l, own⟩ : ∃ l, obstructed.2.listeners = [l] := ⟨_, rfl⟩
  have keys : l.asked = ["a", "b"] ∧ l.demand = .allTrue ∧ l.answer = none := by
    cases own
    decide
  have answered := prompt obstructed.1 obstructed.2 0 l record_obstructed (by rw [own]; rfl)
    keys.2.1 ⟨"b", by rw [keys.1]; decide, by decide⟩ (by decide)
  rw [keys.2.2] at answered
  cases answered

end Meeting

end Overseer.Boot
