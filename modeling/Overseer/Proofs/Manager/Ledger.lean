import Overseer.Proofs.Manager.Conveyance

/-!
# The ledger of commands

Every command that the manager takes on gets a ticket, and a ledger follows the tickets from place
to place. It is kept beside the system, from what a step shows of itself: the place from which the
step takes a command, the submission that it accepts, the runner that it adds, and what the handlers
are told meanwhile. When what serves a place ends, the tickets that are there stay there.
-/

namespace Overseer.Manager

/-- An errand that the manager has taken on, and where it is. -/
structure Ticket extends Errand where
  place : Place

structure Answer where
  ticket : Nat
  routes : List String
  calls : List Event

structure Ledger where
  tickets : List Ticket
  answers : List Answer

namespace Ledger

def empty : Ledger := ⟨[], []⟩

def held (L : Ledger) (p : Place) : List Errand :=
  (L.tickets.filter fun t => t.place == p).map Ticket.toErrand

def first (L : Ledger) (p : Place) : Nat := L.tickets.findIdx fun t => t.place == p

def answersTo (L : Ledger) (n : Nat) : List Answer := L.answers.filter fun a => a.ticket == n

def issue (L : Ledger) (e : Errand) (p : Place) : Ledger :=
  { L with tickets := L.tickets ++ [⟨e, p⟩] }

def shift (L : Ledger) (source target : Place) : Ledger :=
  { L with tickets := L.tickets.modify (L.first source) fun t => { t with place := target } }

def tell (L : Ledger) (n : Nat) (s next : System) : Ledger :=
  { L with answers := L.answers ++ [⟨n, s.routes, next.calls.drop s.calls.length⟩] }

def record (L : Ledger) (s : System) (act : Action) (next : System) : Ledger :=
  match act with
  | .enter i =>
      match next.pushes[i]? with
      | some ⟨c, .accepted⟩ =>
          L.issue ⟨c, if c.queue.isEmpty then .admitted else .released⟩
            (if c.queue.isEmpty then .line else .inbox)
      | _ => L
  | .dispatch =>
      match s.queue.inbox with
      | c :: _ => L.shift .inbox (.lane c.queue)
      | [] => L
  | .produce =>
      match s.queue.signals with
      | name :: _ => L.shift (.lane name) .hand
      | [] => L
  | .deliver => if s.queue.outputOpen then L.shift .hand .output else L
  | .takeDirect => L.shift .line .admission
  | .takeReleased => L.shift .output .admission
  | .enroll =>
      if s.runners.length < next.runners.length then L.shift .admission (.running s.runners.length)
      else (L.shift .admission .rejected).tell (L.first .admission) s next
  | .runner i .report => (L.shift (.running i) (.finished i)).tell (L.first (.running i)) s next
  | act =>
      match s.direct? act with
      | none => L
      | some c =>
          if s.runners.length < next.runners.length then
            L.issue ⟨c, .direct⟩ (.running s.runners.length)
          else (L.issue ⟨c, .direct⟩ .rejected).tell L.tickets.length s next

end Ledger

/-- What a new system may become, with everything that it has taken on, in order of time, and the
ledger of it. -/
inductive Recorded (config : Config) (dawn : Int) : List Errand → Ledger → System → Prop where
  | new : Recorded config dawn [] .empty (.new config dawn)
  | next {intake : List Errand} {L : Ledger} {s next : System} {act : Action}
      (recorded : Recorded config dawn intake L s) (step : s.step? act = some next) :
      Recorded config dawn (intake ++ (s.intake? act next).toList) (L.record s act next) next

theorem Recorded.reachable {config : Config} {dawn : Int} {intake : List Errand} {L : Ledger}
    {s : System} (recorded : Recorded config dawn intake L s) : Reachable config dawn s := by
  induction recorded with
  | new => exact .new
  | next _ step ih => exact ih.next step

theorem exists_recorded {config : Config} {dawn : Int} {s : System}
    (reach : Reachable config dawn s) : ∃ intake L, Recorded config dawn intake L s := by
  induction reach with
  | new => exact ⟨_, _, .new⟩
  | next _ step ih =>
      obtain ⟨intake, L, recorded⟩ := ih
      exact ⟨_, _, recorded.next step⟩

def replay? : List Errand × Ledger × System → List Action → Option (List Errand × Ledger × System)
  | run, [] => some run
  | (intake, L, s), act :: rest =>
      match s.step? act with
      | some next => replay? (intake ++ (s.intake? act next).toList, L.record s act next, next) rest
      | none => none

theorem recorded_replay {config : Config} {dawn : Int} {intake intake' : List Errand}
    {L L' : Ledger} {s s' : System} {acts : List Action}
    (recorded : Recorded config dawn intake L s)
    (run : replay? (intake, L, s) acts = some (intake', L', s')) :
    Recorded config dawn intake' L' s' := by
  induction acts generalizing intake L s with
  | nil =>
      cases run
      exact recorded
  | cons act rest ih =>
      unfold replay? at run
      split at run
      · exact ih (recorded.next ‹_›) run
      · cases run

namespace Ledger

variable {L : Ledger} {s next : System} {act : Action} {source target : Place}
  {before after : List Ticket} {t : Ticket}

/-! ## One step of the ledger -/

theorem record_of_direct {c : Command} (direct : s.direct? act = some c) :
    L.record s act next =
      if s.runners.length < next.runners.length then
        L.issue ⟨c, .direct⟩ (.running s.runners.length)
      else (L.issue ⟨c, .direct⟩ .rejected).tell L.tickets.length s next := by
  cases act with
  | call | entry => simp only [record, direct]
  | _ => cases direct

theorem record_of_idle (idle : s.moves act = false) : L.record s act next = L := by
  cases act with
  | call | entry =>
      have direct : s.direct? _ = none := Option.isNone_iff_eq_none.1 (by
        simpa [System.moves] using idle)
      simp only [record, direct]
  | runner i work =>
      cases work with
      | report => cases idle
      | _ => rfl
  | enter | dispatch | produce | deliver | takeDirect | takeReleased | enroll => cases idle
  | _ => rfl

/-! ## Tickets that move -/

structure Split (L : Ledger) (p : Place) (before : List Ticket) (t : Ticket)
    (after : List Ticket) : Prop where
  tickets : L.tickets = before ++ t :: after
  place : t.place = p
  ahead : ∀ a ∈ before, a.place ≠ p

theorem exists_split {e : Errand} {rest : List Errand} (held : L.held source = e :: rest) :
    ∃ before t after, L.Split source before t after ∧ t.toErrand = e := by
  obtain ⟨t, ts, there, same, -⟩ := List.map_eq_cons_iff.1 held
  obtain ⟨before, after, tickets, ahead, place, -⟩ := List.filter_eq_cons_iff.1 there
  exact ⟨before, t, after, ⟨tickets, by simpa using place, by simpa using ahead⟩, same⟩

theorem Split.first_eq (split : L.Split source before t after) :
    L.first source = before.length := by
  have missed : ∀ a ∈ before, (a.place == source) = false := fun a member => by
    simpa using split.ahead a member
  rw [first, split.tickets, List.findIdx_append, if_neg, List.findIdx_cons, split.place]
  · simp
  · simpa [List.findIdx_lt_length] using split.ahead

theorem Split.shift_eq (split : L.Split source before t after) (target : Place) :
    L.shift source target =
      { L with tickets := before ++ { t with place := target } :: after } := by
  rw [shift, split.first_eq, split.tickets, List.modify_eq_take_cons_drop (by simp)]
  simp

theorem shift_of_nothing (nothing : L.held source = []) : L.shift source target = L := by
  have absent : L.first source = L.tickets.length :=
    List.findIdx_eq_length.2 (by simpa [held] using nothing)
  rw [shift, List.modify_eq_self (Nat.le_of_eq absent.symm)]

/-! ## What a step does to the ledger -/

def Located (L : Ledger) (s : System) : Prop := ∀ p, s.Served p → L.held p = s.contents p

/-- What a step does to the ledger, with the command that it takes on. -/
inductive Course (L : Ledger) (s next : System) : Option Errand → Ledger → Prop where
  | idle (keeps : ∀ p, s.Keeps next p) (quiet : next.calls = s.calls) : Course L s next none L
  | takenOn {e : Errand} {p : Place} (brings : s.Brings next p e) (quiet : next.calls = s.calls)
      (begun : e.Begun p) : Course L s next (some e) (L.issue e p)
  | turnedAway {c : Command} {r : JobResult} (keeps : ∀ p, s.Keeps next p)
      (settled : next.Settled ⟨c, .direct⟩ .rejected r)
      (heard : next.calls = s.calls ++ announcement s.routes c r) :
      Course L s next (some ⟨c, .direct⟩)
        ((L.issue ⟨c, .direct⟩ .rejected).tell L.tickets.length s next)
  | moved {source target : Place} {e : Errand} (conveys : s.Conveys next source target e)
      (quiet : next.calls = s.calls) (pending : target.isDone = false) :
      Course L s next none (L.shift source target)
  | concluded {source target : Place} {e : Errand} {r : JobResult}
      (conveys : s.Conveys next source target e) (settled : next.Settled e target r)
      (heard : next.calls = s.calls ++ announcement s.routes e.command r) :
      Course L s next none ((L.shift source target).tell (L.first source) s next)

theorem course_of_step (wired : s.Wired) (accounted : s.Accounted) (located : L.Located s)
    (step : s.step? act = some next) :
    L.Course s next (s.intake? act next) (L.record s act next) := by
  cases directly : s.direct? act with
  | some c =>
      have intake : s.intake? act next = some ⟨c, .direct⟩ := by
        cases act with
        | call | entry => simp only [System.intake?, directly, Option.map_some]
        | _ => cases directly
      rw [record_of_direct directly, intake]
      rcases System.brings_direct directly step with
        ⟨more, brings, quiet⟩ | ⟨same, keeps, state, refused, heard⟩
      · rw [if_pos more]
        exact .takenOn brings quiet (.running _ _)
      · rw [if_neg same]
        exact .turnedAway keeps (System.settled_of_refusal refused) heard
  | none =>
      by_cases idle : s.moves act = false
      · have intake : s.intake? act next = none := by
          cases act with
          | enter => cases idle
          | _ => simp only [System.intake?, directly, Option.map_none]
        rw [intake, record_of_idle idle]
        refine .idle (System.keeps_of_idle wired step idle)
          (System.calls_of_silent step directly ?_ fun i => ?_)
        · rintro rfl
          cases idle
        · rintro rfl
          cases idle
      · have quiet := System.calls_of_silent step directly
        cases act with
        | enter i =>
            obtain ⟨c, found, ⟨pushes, brings⟩ | ⟨pushes, keeps⟩⟩ := System.brings_enter step
            · have settled := System.settled_push found pushes
              simp only [record, System.intake?, settled]
              refine .takenOn brings (quiet (by simp) (by simp)) ?_
              cases named : c.queue.isEmpty with
              | true => exact .line c
              | false => exact .inbox c (by simpa using named)
            · have settled := System.settled_push found pushes
              simp only [record, System.intake?, settled]
              exact .idle keeps (quiet (by simp) (by simp))
        | dispatch =>
            obtain ⟨c, rest, inbox, conveys⟩ := System.conveys_dispatch accounted.orderly step
            simp only [record, inbox]
            exact .moved conveys (quiet (by simp) (by simp)) rfl
        | produce =>
            obtain ⟨name, rest, signals, ⟨empty, keeps⟩ | ⟨c, conveys⟩⟩ :=
              System.conveys_produce accounted.orderly step
            · simp only [record, signals]
              rw [shift_of_nothing ((located (.lane name) trivial).trans empty)]
              exact .idle keeps (quiet (by simp) (by simp))
            · simp only [record, signals]
              exact .moved conveys (quiet (by simp) (by simp)) rfl
        | deliver =>
            rcases System.conveys_deliver wired step with ⟨isOpen, c, conveys⟩ | ⟨closed, keeps⟩
            · simp only [record, isOpen, if_true]
              exact .moved conveys (quiet (by simp) (by simp)) rfl
            · simp only [record, closed]
              exact .idle keeps (quiet (by simp) (by simp))
        | takeDirect =>
            obtain ⟨c, conveys⟩ := System.conveys_takeDirect step
            exact .moved conveys (quiet (by simp) (by simp)) rfl
        | takeReleased =>
            obtain ⟨c, conveys⟩ := System.conveys_takeReleased step
            exact .moved conveys (quiet (by simp) (by simp)) rfl
        | enroll =>
            rcases System.conveys_enroll accounted step with
              ⟨more, heard, e, conveys⟩ | ⟨same, e, state, conveys, refused, heard⟩
            · simp only [record, if_pos more]
              exact .moved conveys heard rfl
            · simp only [record, if_neg same]
              exact .concluded conveys (System.settled_of_refusal refused) heard
        | runner i work =>
            cases work with
            | report =>
                obtain ⟨e, result, conveys, settled, heard⟩ := System.conveys_report accounted step
                exact .concluded conveys settled heard
            | _ => exact absurd rfl idle
        | _ => exact absurd (by simp [System.moves, directly]) idle

end Ledger

end Overseer.Manager
