import Overseer.Proofs.Manager.Contents

/-!
# How commands get from place to place

There is one theorem for each kind of step that takes a command on or takes one from a place to
another: it says which command that is, where it was and where it is afterwards.
-/

namespace Overseer.Manager

namespace System

structure Brings (s next : System) (p : Place) (e : Errand) : Prop where
  came : next.Served p → s.Served p ∧ next.contents p = s.contents p ++ [e]
  kept : ∀ other, other ≠ p → s.Keeps next other

structure Carries (s next : System) (source target : Place) (e : Errand) : Prop where
  served : s.Served source
  taken : s.contents source = e :: next.contents source
  came : next.Served target → s.Served target ∧ next.contents target = s.contents target ++ [e]
  kept : ∀ other, other ≠ source → other ≠ target → s.Keeps next other

variable {config : Config} {dawn : Int} {s next : System} {act : Action}

/-! ## Steps that carry a command on -/

theorem carries_dispatch (step : s.step? .dispatch = some next) :
    ∃ c rest, s.queue.inbox = c :: rest ∧ s.Carries next .inbox (.lane c.queue) (.queued c) := by
  obtain ⟨queue, work, rfl⟩ := Option.map_eq_some_iff.1 step
  unfold Queue.dispatch? at work
  split at work <;> cases work
  rename_i c rest dispatching inbox
  have alike := Queue.enqueue_alike { s.queue with inbox := rest } c
  have lane := Queue.lane_enqueue { s.queue with inbox := rest } c
  refine ⟨c, rest, inbox, fun _ => dispatching, ?_, fun _ => ⟨trivial, ?_⟩, ?_⟩
  · simp only [contents, inbox, alike.inbox, List.map_cons]
  · simp only [contents, lane, if_true, List.map_append, List.map_singleton]
    rfl
  · intro other notInbox notLane
    cases other with
    | inbox => exact absurd rfl notInbox
    | lane name =>
        have different : name ≠ c.queue := fun same => notLane (same ▸ rfl)
        exact keeps_lane ((lane name).trans (if_neg different))
    | hand => exact keeps_hand alike.hand alike.started alike.producing
    | output => exact keeps_output alike.output id
    | _ => exact fun served => ⟨served, rfl⟩

theorem carries_produce (step : s.step? .produce = some next) :
    ∃ name rest, s.queue.signals = name :: rest ∧ s.contents .hand = [] ∧
      ((s.contents (.lane name) = [] ∧ ∀ p, s.Keeps next p) ∨
        ∃ c, s.Carries next (.lane name) .hand (.queued c)) := by
  obtain ⟨queue, work, rfl⟩ := Option.map_eq_some_iff.1 step
  unfold Queue.produce? at work
  split at work <;> cases work
  rename_i name rest producing free signals
  have alike := Queue.pop_alike { s.queue with signals := rest } name
  have stay : ∀ p, p ≠ .lane name → p ≠ .hand →
      s.Keeps { s with queue := Queue.pop { s.queue with signals := rest } name } p := by
    intro p notLane notHand
    cases p with
    | inbox => exact keeps_inbox alike.inbox alike.started alike.dispatching
    | lane other => exact keeps_lane (Queue.lane_pop_other _ fun same => notLane (same ▸ rfl))
    | hand => exact absurd rfl notHand
    | output => exact keeps_output alike.output id
    | _ => exact fun served => ⟨served, rfl⟩
  refine ⟨name, rest, signals, by simp [contents, free], ?_⟩
  rcases Queue.pop_cases { s.queue with signals := rest } free name with
    ⟨empty, hand, left⟩ | ⟨c, lane, hand⟩
  · refine .inl ⟨congrArg (List.map Errand.queued) empty, fun p => ?_⟩
    by_cases inLane : p = .lane name
    · subst inLane
      exact fun _ => ⟨trivial, by rw [contents, contents, left]; exact congrArg _ empty.symm⟩
    · by_cases inHand : p = .hand
      · subst inHand
        exact fun _ => ⟨fun _ => producing, by rw [contents, contents, hand, free]⟩
      · exact stay p inLane inHand
  · refine .inr ⟨c, trivial, congrArg (List.map Errand.queued) lane,
      fun _ => ⟨fun _ => producing, ?_⟩, stay⟩
    rw [contents, contents, hand, free]
    rfl

theorem carries_deliver (wired : s.Wired) (step : s.step? .deliver = some next) :
    (s.queue.outputOpen = true ∧ s.contents .output = [] ∧
        ∃ c, s.Carries next .hand .output (.queued c)) ∨
      (s.queue.outputOpen = false ∧ ∀ p, s.Keeps next p) := by
  obtain ⟨queue, work, rfl⟩ := Option.map_eq_some_iff.1 step
  unfold Queue.deliver? at work
  split at work
  · rename_i c producing hand
    split at work
    · -- Nobody takes commands any more, so the producer ends.
      rename_i closed
      cases work
      have started := wired.started.trans (wired.working (.inr producing))
      refine .inr ⟨by simpa using closed, ?_⟩
      exact keeps_of_parts (fun served => ⟨served, rfl⟩) (fun served => ⟨served, rfl⟩)
        (fun served => absurd (served started) (by simp)) (fun served => ⟨served, rfl⟩) rfl rfl rfl
    · rename_i isOpen
      split at work <;> cases work
      rename_i room
      have empty : s.queue.output = [] := by
        rw [wired.capacity] at room
        exact List.length_eq_zero_iff.1 (Nat.lt_one_iff.1 room)
      refine .inl ⟨by simpa using isOpen, by rw [contents, empty]; rfl, c, fun _ => producing, ?_,
        fun served => ⟨served, ?_⟩, ?_⟩
      · simp only [contents, hand]
        rfl
      · simp only [contents, empty]
        rfl
      · intro other notHand notOutput
        cases other with
        | hand => exact absurd rfl notHand
        | output => exact absurd rfl notOutput
        | _ => exact fun served => ⟨served, rfl⟩
  · cases work

theorem carries_takeDirect (step : s.step? .takeDirect = some next) :
    s.contents .admission = [] ∧ ∃ c, s.Carries next .line .admission ⟨c, .admitted⟩ := by
  simp only [step?] at step
  split at step <;> cases step
  rename_i c rest ready line
  refine ⟨by rw [contents, ready]; rfl, c, ?_, ?_, fun _ => ⟨trivial, ?_⟩, ?_⟩
  · simp [Served, ready]
  · rw [contents, line]
    rfl
  · rw [contents, contents, ready]
    rfl
  · intro other notLine notAdmission
    cases other with
    | line => exact absurd rfl notLine
    | admission => exact absurd rfl notAdmission
    | output => exact fun _ => ⟨by simp [Served, ready], rfl⟩
    | _ => exact fun served => ⟨served, rfl⟩

theorem carries_takeReleased (step : s.step? .takeReleased = some next) :
    s.contents .admission = [] ∧ ∃ c, s.Carries next .output .admission (.queued c) := by
  simp only [step?] at step
  split at step <;> cases step
  rename_i c queue ready work
  unfold Queue.take? at work
  split at work <;> cases work
  rename_i rest output
  refine ⟨by rw [contents, ready]; rfl, c, ?_, ?_, fun _ => ⟨trivial, ?_⟩, ?_⟩
  · simp [Served, ready]
  · rw [contents, output]
    rfl
  · rw [contents, contents, ready]
    rfl
  · intro other notOutput notAdmission
    cases other with
    | output => exact absurd rfl notOutput
    | admission => exact absurd rfl notAdmission
    | line => exact fun _ => ⟨by simp [Served, ready], rfl⟩
    | _ => exact fun served => ⟨served, rfl⟩

/-! ## Steps that start or end a job -/

section
variable {c : Command} {factory : Nat} {hooks : List Hook} {origin : Runner.Origin}

theorem contents_join (next : System)
    (runners : next.runners = s.runners ++ [.new s.config s.now c factory hooks origin]) :
    next.contents (.running s.runners.length) =
        s.contents (.running s.runners.length) ++ [⟨c, origin⟩] ∧
      ∀ i, (i ≠ s.runners.length → next.contents (.running i) = s.contents (.running i)) ∧
        next.contents (.finished i) = s.contents (.finished i) := by
  have standing : next.standing = s.standing ++ [(⟨c, origin⟩, none)] := by
    rw [System.standing, System.standing, runners, List.map_append]
    rfl
  have length : s.standing.length = s.runners.length := List.length_map _
  have beyond := s.standing_length
  have last : next.standing[s.runners.length]? = some (⟨c, origin⟩, none) := by
    rw [standing, ← length]
    exact List.getElem?_concat_length
  have earlier {i : Nat} (other : i ≠ s.runners.length) : next.standing[i]? = s.standing[i]? := by
    rw [standing, List.getElem?_append]
    split
    · rfl
    · rw [List.getElem?_eq_none (by rw [List.length_singleton]; omega),
        List.getElem?_eq_none (by omega)]
  refine ⟨by simp only [contents, last, beyond, List.nil_append], fun i => ⟨fun other => ?_, ?_⟩⟩
  · simp only [contents, earlier other]
  · by_cases same : i = s.runners.length
    · simp only [contents, same, last, beyond]
    · simp only [contents, earlier same]

theorem brings_join {slices : List Boot.Slice} :
    s.Brings { s.join c factory hooks origin with slices } (.running s.runners.length)
      ⟨c, origin⟩ := by
  obtain ⟨here, others⟩ := contents_join { s.join c factory hooks origin with slices } rfl
  refine ⟨fun _ => ⟨trivial, here⟩, fun p other => ?_⟩
  cases p with
  | running i => exact fun _ => ⟨trivial, (others i).1 fun same => other (same ▸ rfl)⟩
  | finished i => exact fun _ => ⟨trivial, (others i).2⟩
  | _ => exact fun served => ⟨served, rfl⟩

theorem carries_join (holding : s.admission = .holding c origin) :
    s.Carries { s.join c factory hooks origin with admission := .idle } .admission
      (.running s.runners.length) ⟨c, origin⟩ := by
  obtain ⟨here, others⟩ :=
    contents_join { s.join c factory hooks origin with admission := .idle } rfl
  have going : s.admission ≠ .stopped := by simp [holding]
  refine ⟨trivial, ?_, fun _ => ⟨trivial, here⟩, fun p notAdmission other => ?_⟩
  · simp only [contents, holding, Admission.errands]
  · cases p with
    | admission => exact absurd rfl notAdmission
    | line | output => exact fun _ => ⟨going, rfl⟩
    | running i => exact fun _ => ⟨trivial, (others i).1 fun same => other (same ▸ rfl)⟩
    | finished i => exact fun _ => ⟨trivial, (others i).2⟩
    | _ => exact fun served => ⟨served, rfl⟩

end

theorem brings_direct {c : Command} (direct : s.direct? act = some c)
    (step : s.step? act = some next) :
    (s.runners.length < next.runners.length ∧
      s.Brings next (.running s.runners.length) ⟨c, .direct⟩ ∧ next.calls = s.calls) ∨
    (¬ s.runners.length < next.runners.length ∧ (∀ p, s.Keeps next p) ∧
      ∃ state, s.refusal? c = some state ∧
        next.calls = s.calls ++ announcement s.routes c (.new c state)) := by
  rcases step_of_direct direct step with
    ⟨-, factory, hooks, slices, rfl⟩ | ⟨state, slices, log, refused, rfl, heard⟩
  · exact .inl ⟨by simp [join], brings_join, rfl⟩
  · exact .inr ⟨lt_irrefl _, keeps_of_eq rfl ⟨rfl, rfl, rfl, rfl, rfl, rfl⟩ rfl rfl id rfl, state,
      refused, heard⟩

theorem carries_enroll (step : s.step? .enroll = some next) :
    ∃ c origin, s.admission = .holding c origin ∧
      ((s.runners.length < next.runners.length ∧
          s.Carries next .admission (.running s.runners.length) ⟨c, origin⟩ ∧
          next.calls = s.calls) ∨
        (¬ s.runners.length < next.runners.length ∧
          s.Carries next .admission .rejected ⟨c, origin⟩ ∧
          ∃ state, s.refusal? c = some state ∧
            next.calls = s.calls ++ announcement s.routes c (.new c state))) := by
  obtain ⟨c, origin, holding⟩ : ∃ c origin, s.admission = .holding c origin := by
    simp only [step?] at step
    split at step
    · exact ⟨_, _, ‹_›⟩
    · cases step
  refine ⟨c, origin, holding, ?_⟩
  rcases step_of_enroll holding step with ⟨-, factory, rfl⟩ | ⟨state, log, refused, rfl, heard⟩
  · exact .inl ⟨by simp [join], carries_join holding, rfl⟩
  · refine .inr ⟨lt_irrefl _, ⟨trivial, ?_, False.elim, fun p notAdmission other => ?_⟩, state,
      refused, heard⟩
    · simp only [contents, holding, Admission.errands]
    · have told := s.queue.release_alike c origin
      have going : s.admission ≠ .stopped := by simp [holding]
      cases p with
      | admission => exact absurd rfl notAdmission
      | line => exact fun _ => ⟨going, rfl⟩
      | output => exact keeps_output told.output fun _ => going
      | lane name =>
          have lanes := s.queue.lanes_release c origin
          exact keeps_lane (by simp only [Queue.lane, lanes])
      | inbox => exact keeps_inbox told.inbox told.started told.dispatching
      | hand => exact keeps_hand told.hand told.started told.producing
      | _ => exact fun served => ⟨served, rfl⟩

theorem carries_report {i : Nat} (step : s.step? (.runner i .report) = some next) :
    ∃ e result, s.standing[i]? = some (e, none) ∧
      next.standing = s.standing.set i (e, some result) ∧
      s.Carries next (.running i) (.finished i) e ∧
      next.calls = s.calls ++ announcement s.routes e.command result := by
  obtain ⟨r, result, log, found, phase, rfl, heard⟩ := step_of_report step
  have before : s.standing[i]? = some (⟨r.command, r.origin⟩, none) := by
    rw [System.standing, List.getElem?_map, found]
    simp [Runner.reported?, phase, Runner.Phase.epilogue?]
  have standing : System.standing { s with
      runners := s.runners.set i { r with phase := .closing result .leave }
      log } = s.standing.set i (⟨r.command, r.origin⟩, some result) := List.map_set
  have after : (s.standing.set i (⟨r.command, r.origin⟩, some result))[i]? =
      some (⟨r.command, r.origin⟩, some result) := by
    rw [List.getElem?_set_self (List.getElem?_eq_some_iff.1 before).1]
  refine ⟨_, result, before, standing, ⟨trivial, ?_, fun _ => ⟨trivial, ?_⟩,
    fun p notRunning notFinished => ?_⟩, heard⟩
  · simp only [contents, standing, before, after]
  · simp only [contents, standing, before, after, List.nil_append]
  · cases p with
    | running j | finished j =>
        have other : i ≠ j := fun same => by simp [same] at notRunning notFinished
        exact fun _ => ⟨trivial, by simp only [contents, standing, List.getElem?_set_ne other]⟩
    | _ => exact fun served => ⟨served, rfl⟩

/-! ## Commands that the manager takes on -/

def intake? (s : System) (act : Action) (next : System) : Option Errand :=
  match act with
  | .enter i =>
      match next.pushes[i]? with
      | some ⟨c, .accepted⟩ => some ⟨c, if c.queue.isEmpty then .admitted else .released⟩
      | _ => none
  | act => (s.direct? act).map fun c => ⟨c, .direct⟩

def accepted (s : System) : List Command :=
  (s.pushes.filter fun p => p.status == .accepted).map Push.command

section
variable {α : Type} {p : α → Bool} {l : List α} {i : Nat} {x y : α}

theorem filter_set_perm (found : l[i]? = some x) (before : p x = false) :
    ((l.set i y).filter p).Perm (l.filter p ++ [y].filter p) := by
  induction l generalizing i with
  | nil => cases found
  | cons first rest ih =>
      cases i with
      | zero =>
          cases found
          have out : (x :: rest).filter p = rest.filter p :=
            List.filter_cons_of_neg (by simp [before])
          show (([y] ++ rest).filter p).Perm _
          rw [out, List.filter_append]
          exact List.perm_append_comm
      | succ i =>
          have rest := ih (by simpa using found)
          rw [List.set_cons_succ, List.filter_cons, List.filter_cons]
          split
          · exact rest.cons first
          · exact rest

end

theorem settled_push {i : Nat} {p q : Push} (found : s.pushes[i]? = some p)
    (pushes : next.pushes = s.pushes.set i q) : next.pushes[i]? = some q := by
  rw [pushes, List.getElem?_set_self (List.getElem?_eq_some_iff.1 found).1]

theorem accepted_set {i : Nat} {c : Command} {status : PushStatus}
    (found : s.pushes[i]? = some ⟨c, .waiting⟩)
    (pushes : next.pushes = s.pushes.set i ⟨c, status⟩) :
    next.accepted.Perm (s.accepted ++ if status = .accepted then [c] else []) := by
  have settled := (filter_set_perm (p := fun p : Push => p.status == .accepted) (y := ⟨c, status⟩)
    found rfl).map Push.command
  rw [← pushes, List.map_append] at settled
  refine settled.trans (List.Perm.of_eq (congrArg _ ?_))
  cases status <;> rfl

theorem brings_enter {i : Nat} (step : s.step? (.enter i) = some next) :
    ∃ c, s.pushes[i]? = some ⟨c, .waiting⟩ ∧
      ((next.pushes = s.pushes.set i ⟨c, .accepted⟩ ∧
        s.Brings next (if c.queue.isEmpty then .line else .inbox)
          ⟨c, if c.queue.isEmpty then .admitted else .released⟩) ∨
      (next.pushes = s.pushes.set i ⟨c, .refused⟩ ∧ ∀ p, s.Keeps next p)) := by
  have same : s.queue.Alike s.queue := ⟨rfl, rfl, rfl, rfl, rfl, rfl⟩
  simp only [step?, enter?] at step
  split at step
  · rename_i c found
    refine ⟨c, found, ?_⟩
    split at step
    · rename_i queued
      cases step
      have named : c.queue.isEmpty = false := by simpa using queued
      simp only [named, Queue.push, Bool.false_eq_true, if_false]
      split
      · exact .inr ⟨rfl, keeps_of_eq rfl same rfl rfl id rfl⟩
      · rename_i working
        refine .inl ⟨rfl, fun served => ⟨served, ?_⟩, fun other notInbox => ?_⟩
        · simp [contents, settlePush, note, Errand.queued]
        cases other with
        | inbox => exact absurd rfl notInbox
        | _ => exact fun served => ⟨served, rfl⟩
    · rename_i unqueued
      have unnamed : c.queue.isEmpty = true := by simpa using unqueued
      simp only [unnamed, if_true]
      split at step
      · cases step
        exact .inr ⟨rfl, keeps_of_eq rfl same rfl rfl id rfl⟩
      · split at step <;> cases step
        refine .inl ⟨rfl, fun served => ⟨served, by simp [contents, settlePush, note]⟩,
          fun other notLine => ?_⟩
        cases other with
        | line => exact absurd rfl notLine
        | _ => exact fun served => ⟨served, rfl⟩
  · cases step

theorem accepted_perm (step : s.step? act = some next) :
    next.accepted.Perm (s.accepted ++
      ((s.intake? act next).toList.filter fun e => e.origin != .direct).map Errand.command) := by
  by_cases entering : ∃ i, act = .enter i
  · obtain ⟨i, rfl⟩ := entering
    obtain ⟨c, found, ⟨pushes, -⟩ | ⟨pushes, -⟩⟩ := brings_enter step
    · have here := settled_push found pushes
      refine (accepted_set found pushes).trans (List.Perm.of_eq (congrArg _ ?_))
      cases named : c.queue.isEmpty <;> simp [intake?, here, named]
    · have here := settled_push found pushes
      refine (accepted_set found pushes).trans (List.Perm.of_eq (congrArg _ ?_))
      simp [intake?, here]
  · have nothing : ((s.intake? act next).toList.filter fun e => e.origin != .direct) = [] := by
      cases act with
      | enter i => exact absurd ⟨i, rfl⟩ entering
      | _ => simp [intake?]
    have same : next.accepted = s.accepted := by
      cases move_of_step step with
      | push => simp [accepted]
      | enterQueue | enterLine | refuse => exact absurd ⟨_, rfl⟩ entering
      | _ => rfl
    rw [nothing, same, List.map_nil, List.append_nil]

end System

end Overseer.Manager
