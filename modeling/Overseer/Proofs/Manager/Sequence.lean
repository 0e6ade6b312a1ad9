import Overseer.Proofs.Manager.Conservation

/-!
# The order of the answers

The handlers of results hear of the commands of a queue in the order in which these were submitted,
also of those that are rejected, and after the manager was asked to end.
-/

namespace Overseer.Manager

def Errand.isOf (name : String) (e : Errand) : Bool :=
  e.origin == .released && e.command.queue == name

theorem Errand.isOf_iff {name : String} {e : Errand} :
    e.isOf name = true ↔ e.origin = .released ∧ e.command.queue = name := by
  simp [isOf]

def submitted (intake : List Errand) (name : String) : List Nat :=
  intake.findIdxs (Errand.isOf name)

def Ledger.answered (L : Ledger) (intake : List Errand) (name : String) : List Nat :=
  (L.answers.map Answer.ticket).filter fun n => intake[n]?.any (Errand.isOf name)

def Ticket.isDoneOf (name : String) (t : Ticket) : Bool :=
  t.toErrand.isOf name && t.place.isDone

theorem findIdxs_prefix {α : Type} {p d : α → Bool} {l : List α} (n : Nat)
    (ordered : l.Pairwise fun a b => p a = true → p b = true → d b = true → d a = true) :
    l.findIdxs (fun a => p a && d a) n <+: l.findIdxs p n := by
  induction l generalizing n with
  | nil => exact List.nil_prefix
  | cons first rest ih =>
      obtain ⟨next, later⟩ := List.pairwise_cons.1 ordered
      rw [List.findIdxs_cons, List.findIdxs_cons]
      by_cases one : p first = true
      · by_cases done : d first = true
        · rw [if_pos (by simp [one, done]), if_pos one]
          exact (List.prefix_cons_inj n).2 (ih (n + 1) later)
        · -- What comes after the first that is not done is not done either.
          have none_done : rest.findIdxs (fun a => p a && d a) (n + 1) = [] := by
            refine List.findIdxs_eq_nil_iff.2 fun b member => ?_
            by_contra both
            simp only [Bool.not_eq_false, Bool.and_eq_true] at both
            exact done (next b member one both.1 both.2)
          rw [if_neg (by simp [done]), none_done]
          exact List.nil_prefix
      · rw [if_neg (by simp [one]), if_neg one]
        exact ih (n + 1) later

namespace Ledger

variable {L L' : Ledger} {s next : System} {source target : Place} {e : Errand}
  {before after : List Ticket} {t : Ticket} {intake : List Errand} {more : Option Errand}
  {name : String}

def InOrder (L : Ledger) (intake : List Errand) : Prop :=
  ∀ name, L.answered intake name = L.tickets.findIdxs (Ticket.isDoneOf name)

theorem answered_append (answered : L.Answered s)
    (tickets : L.tickets.map Ticket.toErrand = intake) (new : List Errand) :
    L.answered (intake ++ new) name = L.answered intake name := by
  refine List.filter_congr fun n member => ?_
  obtain ⟨a, known, rfl⟩ := List.mem_map.1 member
  have bound := answered.known a known
  rw [List.getElem?_append_left (by rw [← tickets]; simpa using bound)]

theorem answered_tell (L : Ledger) (n : Nat) (s next : System) :
    (L.tell n s next).answered intake name =
      L.answered intake name ++ if intake[n]?.any (Errand.isOf name) then [n] else [] := by
  simp only [answered, tell, List.map_append, List.filter_append, List.map_singleton]
  split <;> simp_all

theorem Split.findIdxs_moved (split : L.Split source before t after)
    (leaving : source.isDone = false) (pending : target.isDone = false) :
    (L.shift source target).tickets.findIdxs (Ticket.isDoneOf name) =
      L.tickets.findIdxs (Ticket.isDoneOf name) := by
  rw [split.shift_eq, split.tickets]
  simp [Ticket.isDoneOf, split.place, leaving, pending]

theorem Split.findIdxs_done (split : L.Split source before t after) (ordered : L.Ordered)
    (leaving : source.isDone = false) (isDone : target.isDone = true) :
    (L.shift source target).tickets.findIdxs (Ticket.isDoneOf name) =
      L.tickets.findIdxs (Ticket.isDoneOf name) ++
        if t.toErrand.isOf name then [L.first source] else [] := by
  rw [split.first_eq, split.shift_eq, split.tickets]
  by_cases own : t.toErrand.isOf name = true
  · have later (n : Nat) : after.findIdxs (Ticket.isDoneOf name) n = [] := by
      refine List.findIdxs_eq_nil_iff.2 fun b member => ?_
      by_contra finished
      simp only [Ticket.isDoneOf, Bool.not_eq_false, Bool.and_eq_true] at finished
      have pairs := ordered.siblings
      rw [split.tickets, List.pairwise_append, List.pairwise_cons] at pairs
      obtain ⟨released, queue⟩ := Errand.isOf_iff.1 own
      obtain ⟨released', queue'⟩ := Errand.isOf_iff.1 finished.1
      have pair := pairs.2.1.1 b member ⟨released, released', queue.trans queue'.symm⟩
      rw [split.place] at pair
      have late := Nat.le_trans ((Place.isDone_iff _).1 finished.2) pair
      rw [(Place.isDone_iff source).2 late] at leaving
      cases leaving
    simp [Ticket.isDoneOf, split.place, leaving, isDone, own, later]
  · simp [Ticket.isDoneOf, own]

theorem Course.inOrder (course : L.Course s next more L') (faithful : L.Faithful s)
    (tickets : L.tickets.map Ticket.toErrand = intake) (inOrder : L.InOrder intake) :
    L'.InOrder (intake ++ more.toList) := by
  obtain ⟨located, ordered, answered⟩ := faithful
  intro name
  have same := inOrder name
  cases course with
  | idle => simpa using same
  | @takenOn e p brings quiet begun =>
      show L.answered _ name = _
      have pending : p.isDone = false := by cases begun <;> rfl
      rw [answered_append answered tickets, same]
      simp [issue, Ticket.isDoneOf, pending]
  | @turnedAway c r keeps settled heard =>
      -- The command was not submitted to a queue.
      have foreign : Errand.isOf name ⟨c, .direct⟩ = false := rfl
      have length : intake.length = L.tickets.length := by simp [← tickets]
      have own : (intake ++ [⟨c, .direct⟩])[L.tickets.length]? = some ⟨c, .direct⟩ := by
        rw [← length]
        exact List.getElem?_concat_length
      rw [Option.toList_some, answered_tell, own, Option.any_some, foreign, if_neg (by simp),
        List.append_nil]
      show L.answered _ name = (L.issue _ _).tickets.findIdxs _
      rw [answered_append answered tickets, same]
      simp [issue, Ticket.isDoneOf, foreign]
  | moved conveys quiet pending =>
      obtain ⟨before, t, after, split, rfl⟩ := exists_conveyed located conveys
      rw [split.findIdxs_moved conveys.pending pending, Option.toList_none, List.append_nil]
      exact same
  | @concluded source target e r conveys settled heard =>
      obtain ⟨before, t, after, split, rfl⟩ := exists_conveyed located conveys
      have own : intake[L.first source]? = some t.toErrand := by
        rw [← tickets, List.getElem?_map, split.getElem?]
        rfl
      rw [Option.toList_none, List.append_nil, answered_tell, own]
      show L.answered intake name ++ _ = (L.shift _ _).tickets.findIdxs _
      rw [split.findIdxs_done ordered conveys.pending settled.isDone, same]
      rfl

theorem Ordered.done_prefix (ordered : L.Ordered)
    (tickets : L.tickets.map Ticket.toErrand = intake) (name : String) :
    L.tickets.findIdxs (Ticket.isDoneOf name) <+: submitted intake name := by
  rw [submitted, ← tickets, List.findIdxs_map]
  refine findIdxs_prefix (p := Errand.isOf name ∘ Ticket.toErrand) (d := fun t => t.place.isDone) 0
    (ordered.siblings.imp fun {a b} pair one other finished => ?_)
  obtain ⟨released, queue⟩ := Errand.isOf_iff.1 one
  obtain ⟨released', queue'⟩ := Errand.isOf_iff.1 other
  have late := pair ⟨released, released', queue.trans queue'.symm⟩
  exact (Place.isDone_iff _).2 (Nat.le_trans ((Place.isDone_iff _).1 finished) late)

end Ledger

variable {config : Config} {dawn : Int} {intake : List Errand} {L : Ledger} {s : System}

theorem Recorded.inOrder (recorded : Recorded config dawn intake L s) : L.InOrder intake := by
  induction recorded with
  | new => exact fun _ => rfl
  | next recorded step ih =>
      have faithful := recorded.faithful
      exact (recorded.course faithful step).inOrder faithful recorded.tickets ih

/-- The handlers of results hear of the commands of a queue in the order in which these were
submitted: of which they have heard is at any time a first part of what was submitted. -/
theorem answered_in_order (recorded : Recorded config dawn intake L s) (name : String) :
    L.answers.flatMap Answer.calls = s.calls ∧
      (∀ a ∈ L.answers, ∃ e r, intake[a.ticket]? = some e ∧
        a.calls = announcement a.routes e.command r) ∧
      L.answered intake name <+: submitted intake name := by
  obtain ⟨-, ordered, answered⟩ := recorded.faithful
  refine ⟨answered.heard, fun a member => ?_, ?_⟩
  · obtain ⟨t, r, ticket, -, calls⟩ := answered.about member
    refine ⟨t.toErrand, r, ?_, calls⟩
    rw [← recorded.tickets, List.getElem?_map, ticket]
    rfl
  · rw [recorded.inOrder name]
    exact ordered.done_prefix recorded.tickets name

def succession : List Action :=
  let job (id command : String) : Command := { Command.new id command with queue := "q" }
  [.call (.register "test" 0), .call .start, .call (.push (job "first" "none")),
    .call (.push (job "second" "test")), .call (.push (job "third" "test")), .enter 0, .enter 1,
    .enter 2, .dispatch, .dispatch, .dispatch, .call (.run (.new "direct" "none") []), .produce,
    .deliver, .arm, .count, .takeReleased, .enroll, .produce, .deliver, .arm, .count, .takeReleased,
    .enroll, .runner 0 (.launch ⟨[], some "no"⟩), .runner 0 .collect, .runner 0 .report]

theorem answered_in_order_rejected :
    ∃ intake L s, replay? ([], .empty, .new .default 0) succession = some (intake, L, s) ∧
      L.answers.map Answer.ticket = [3, 0, 1] ∧ L.answered intake "q" = [0, 1] ∧
      submitted intake "q" = [0, 1, 2] ∧ L.answered intake "q" <+: submitted intake "q" := by
  have run : replay? ([], .empty, .new .default 0) succession = some _ := rfl
  exact ⟨_, _, _, run, rfl, rfl, rfl, (answered_in_order (recorded_replay .new run) "q").2.2⟩

end Overseer.Manager
