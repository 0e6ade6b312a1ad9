import Overseer.Proofs.Manager.Carriage

/-!
# How commands get forward

The places are in an order in which every command comes from one to the next. A command never gets
past another one of its queue, since from its lane on there is one of a queue at a time.
-/

namespace Overseer.Manager

def Place.stage : Place → Nat
  | .line | .inbox => 0
  | .lane _ => 1
  | .hand => 2
  | .output => 3
  | .admission => 4
  | .running _ => 5
  | .finished _ | .rejected => 6

def Place.isDone : Place → Bool
  | .finished _ | .rejected => true
  | _ => false

theorem Place.isDone_iff (p : Place) : p.isDone = true ↔ 6 ≤ p.stage := by
  cases p <;> simp [isDone, stage]

def Errand.Sibling (e e' : Errand) : Prop :=
  e.origin = .released ∧ e'.origin = .released ∧ e.command.queue = e'.command.queue

inductive Errand.Begun : Errand → Place → Prop where
  | line (c : Command) : Begun ⟨c, .admitted⟩ .line
  | inbox (c : Command) (named : c.queue ≠ "") : Begun ⟨c, .released⟩ .inbox
  | running (c : Command) (i : Nat) : Begun ⟨c, .direct⟩ (.running i)

namespace System

variable {config : Config} {dawn : Int} {s next : System} {act : Action}

def Settled (s : System) (e : Errand) : Place → JobResult → Prop
  | .rejected, r => r = .new e.command .unknownCommand ∨ r = .new e.command .duplicateId
  | .finished i, r => s.standing[i]? = some (e, some r)
  | _, _ => False

theorem Settled.isDone {e : Errand} {p : Place} {r : JobResult} (settled : s.Settled e p r) :
    p.isDone = true := by
  cases p <;> first | rfl | exact settled.elim

theorem Settled.stays (step : s.step? act = some next) {e : Errand} {p : Place} {r : JobResult}
    (settled : s.Settled e p r) : next.Settled e p r := by
  cases p with
  | finished i => exact reported_stays step settled
  | _ => exact settled

theorem settled_of_refusal {e : Errand} {state : JobState}
    (refused : s.refusal? e.command = some state) :
    next.Settled e .rejected (.new e.command state) := by
  rcases refusal?_cases refused with rfl | rfl
  · exact .inl rfl
  · exact .inr rfl

structure Conveys (s next : System) (source target : Place) (e : Errand) : Prop
    extends s.Carries next source target e where
  forward : source.stage < target.stage
  behind : ∀ e' ∈ s.contents target, e.Sibling e'
  clear : e.origin = .released → e.command.queue ≠ "" → ∀ p, p ≠ source → p ≠ .line →
    source.stage ≤ p.stage → p.stage < target.stage →
      s.Served p ∧ ∀ e' ∈ s.contents p, ¬ e.Sibling e'

theorem Conveys.pending {source target : Place} {e : Errand}
    (conveys : s.Conveys next source target e) : source.isDone = false := by
  have forward := conveys.forward
  cases source with
  | finished | rejected => cases target <;> simp [Place.stage] at forward
  | _ => rfl

/-! ## One command of a queue at a time -/

theorem mem_running {i : Nat} {e : Errand} (here : e ∈ s.contents (.running i)) :
    ∃ r, s.runners[i]? = some r ∧ ⟨r.command, r.origin⟩ = e ∧ r.reported? = none := by
  simp only [contents] at here
  split at here
  · rename_i e' found
    rw [List.mem_singleton] at here
    subst here
    rw [standing, List.getElem?_map, Option.map_eq_some_iff] at found
    obtain ⟨r, found, same⟩ := found
    exact ⟨r, found, Prod.mk.inj same⟩
  · cases here

theorem owes_of_running {i : Nat} {e : Errand} (here : e ∈ s.contents (.running i))
    (released : e.origin = .released) :
    ∃ r, s.runners[i]? = some r ∧ r.owes e.command.queue = true := by
  obtain ⟨r, found, rfl, unreported⟩ := mem_running here
  have silent : r.phase.hasNotified = false := by
    rw [Runner.reported?, Option.map_eq_none_iff] at unreported
    rw [Runner.Phase.hasNotified_eq, unreported]
    rfl
  have released : r.origin = .released := released
  exact ⟨r, found, by simp [Runner.owes, silent, released]⟩

theorem running_apart (accounted : s.Accounted) {i j : Nat} {e e' : Errand}
    (here : e ∈ s.contents (.running i)) (there : e' ∈ s.contents (.running j))
    (named : e.command.queue ≠ "") (sibling : e.Sibling e') : i = j := by
  obtain ⟨r, found, owes⟩ := owes_of_running here sibling.1
  obtain ⟨r', found', owes'⟩ := owes_of_running there sibling.2.1
  rw [← sibling.2.2] at owes'
  have few : s.queue.tokens e.command.queue + s.debt e.command.queue ≤ 1 :=
    (accounted.balanced named).le_one
  unfold debt at few
  exact index_eq_of_countP_le_one (by omega) found owes found' owes'

theorem holding_apart (accounted : s.Accounted) {i : Nat} {c : Command} {e : Errand}
    (holding : s.admission = .holding c .released) (there : e ∈ s.contents (.running i))
    (named : c.queue ≠ "") : ¬ (Errand.queued c).Sibling e := by
  intro sibling
  obtain ⟨r, found, owes⟩ := owes_of_running there sibling.2.1
  rw [← sibling.2.2] at owes
  have few : s.queue.tokens c.queue + s.debt c.queue ≤ 1 := (accounted.balanced named).le_one
  have owed : 0 < s.runners.countP (Runner.owes c.queue) :=
    List.countP_pos_iff.2 ⟨r, List.mem_of_getElem? found, owes⟩
  simp only [debt, holding, Admission.tokens, if_true] at few
  omega

theorem of_mem_lane (orderly : s.queue.Orderly) {name : String} {e : Errand}
    (here : e ∈ s.contents (.lane name)) : e.origin = .released ∧ e.command.queue = name := by
  obtain ⟨c, member, rfl⟩ := List.mem_map.1 here
  refine ⟨rfl, ?_⟩
  unfold Queue.lane at member
  cases found : s.queue.lanes.lookup name with
  | none => simp [found] at member
  | some l =>
      rw [found] at member
      exact orderly.of_lookup found c member

/-! ## One step of a command -/

theorem Carries.conveys {source target : Place} {e : Errand}
    (carries : s.Carries next source target e) (following : target.stage = source.stage + 1)
    (alone : e.origin = .released → ∀ p, p.stage = source.stage → p = source ∨ p = .line)
    (behind : ∀ e' ∈ s.contents target, e.Sibling e') : s.Conveys next source target e := by
  refine ⟨carries, by omega, behind, fun released _ p notSource notLine late early => ?_⟩
  rcases alone released p (by omega) with here | inLine
  · exact absurd here notSource
  · exact absurd inLine notLine

theorem conveys_dispatch (orderly : s.queue.Orderly) (step : s.step? .dispatch = some next) :
    ∃ c rest, s.queue.inbox = c :: rest ∧ s.Conveys next .inbox (.lane c.queue) (.queued c) := by
  obtain ⟨c, rest, inbox, carries⟩ := carries_dispatch step
  refine ⟨c, rest, inbox, carries.conveys rfl (fun _ p same => ?_) fun e here => ?_⟩
  · cases p <;> simp [Place.stage] at same ⊢
  · obtain ⟨released, own⟩ := of_mem_lane orderly here
    exact ⟨rfl, released, own.symm⟩

theorem conveys_produce (orderly : s.queue.Orderly) (step : s.step? .produce = some next) :
    ∃ name rest, s.queue.signals = name :: rest ∧
      ((s.contents (.lane name) = [] ∧ ∀ p, s.Keeps next p) ∨
        ∃ c, s.Conveys next (.lane name) .hand (.queued c)) := by
  obtain ⟨name, rest, signals, free, still | ⟨c, carries⟩⟩ := carries_produce step
  · exact ⟨name, rest, signals, .inl still⟩
  · refine ⟨name, rest, signals, .inr ⟨c, carries, Nat.lt_succ_self 1, fun e here => ?_,
      fun _ _ p notLane notLine late early => ?_⟩⟩
    · rw [free] at here
      cases here
    · cases p with
      | lane other =>
          -- The lanes of other names hold no command of this queue.
          refine ⟨trivial, fun e there sibling => notLane ?_⟩
          have first : Errand.queued c ∈ s.contents (.lane name) := by
            rw [carries.taken]
            exact List.mem_cons_self
          rw [← (of_mem_lane orderly there).2, ← (of_mem_lane orderly first).2, sibling.2.2]
      | _ => simp [Place.stage] at late early

theorem conveys_deliver (wired : s.Wired) (step : s.step? .deliver = some next) :
    (s.queue.outputOpen = true ∧ ∃ c, s.Conveys next .hand .output (.queued c)) ∨
      (s.queue.outputOpen = false ∧ ∀ p, s.Keeps next p) := by
  refine (carries_deliver wired step).imp_left fun ⟨isOpen, free, c, carries⟩ => ?_
  refine ⟨isOpen, c, carries.conveys rfl (fun _ p same => ?_) (by simp [free])⟩
  cases p <;> simp [Place.stage] at same ⊢

theorem conveys_takeDirect (step : s.step? .takeDirect = some next) :
    ∃ c, s.Conveys next .line .admission ⟨c, .admitted⟩ := by
  obtain ⟨free, c, carries⟩ := carries_takeDirect step
  exact ⟨c, carries, by decide, by simp [free], nofun⟩

theorem conveys_takeReleased (step : s.step? .takeReleased = some next) :
    ∃ c, s.Conveys next .output .admission (.queued c) := by
  obtain ⟨free, c, carries⟩ := carries_takeReleased step
  refine ⟨c, carries.conveys rfl (fun _ p same => ?_) (by simp [free])⟩
  cases p <;> simp [Place.stage] at same ⊢

theorem conveys_enroll (accounted : s.Accounted) (step : s.step? .enroll = some next) :
    (s.runners.length < next.runners.length ∧ next.calls = s.calls ∧
        ∃ e, s.Conveys next .admission (.running s.runners.length) e) ∨
      (¬ s.runners.length < next.runners.length ∧
        ∃ e state, s.Conveys next .admission .rejected e ∧ s.refusal? e.command = some state ∧
          next.calls = s.calls ++ announcement s.routes e.command (.new e.command state)) := by
  obtain ⟨c, origin, holding, ⟨more, carries, heard⟩ | ⟨same, carries, state, refused, heard⟩⟩ :=
    carries_enroll step
  · refine .inl ⟨more, heard, _, carries.conveys rfl (fun _ p same => ?_) ?_⟩
    · cases p <;> simp [Place.stage] at same ⊢
    · simp [contents, s.standing_length]
  · refine .inr ⟨same, _, state, ⟨carries, by decide, by simp [contents],
      fun released named p notAdmission _ late early => ?_⟩, refused, heard⟩
    cases p with
    | admission => exact absurd rfl notAdmission
    | running i =>
        have released : origin = .released := released
        rw [released] at holding ⊢
        exact ⟨trivial, fun e there => holding_apart accounted holding there named⟩
    | _ => simp [Place.stage] at late early

theorem conveys_report (accounted : s.Accounted) {i : Nat}
    (step : s.step? (.runner i .report) = some next) :
    ∃ e result, s.Conveys next (.running i) (.finished i) e ∧
      next.standing[i]? = some (e, some result) ∧
      next.calls = s.calls ++ announcement s.routes e.command result := by
  obtain ⟨e, result, before, standing, carries, heard⟩ := carries_report step
  have bound : i < s.standing.length := (List.getElem?_eq_some_iff.1 before).1
  have after : next.standing[i]? = some (e, some result) := by
    rw [standing, List.getElem?_set_self bound]
  refine ⟨e, result, ⟨carries, by simp [Place.stage], by simp [contents, before],
    fun _ named p notHere _ late early => ?_⟩, after, heard⟩
  cases p with
  | running j =>
      refine ⟨trivial, fun e' there sibling => notHere ?_⟩
      have here : e ∈ s.contents (.running i) := by
        rw [carries.taken]
        exact List.mem_cons_self
      rw [running_apart accounted here there named sibling]
  | _ => simp [Place.stage] at late early

end System

end Overseer.Manager
