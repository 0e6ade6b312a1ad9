import Overseer.Proofs.Manager.Lanes
import Overseer.Proofs.Manager.Registry

/-!
# One job of a queue at a time

The token of a lane travels from a signal through the hands of the producer and of the admission to
a runner, which gives it back when it is over. No step doubles it, and none loses it before the
manager is asked to end.
-/

namespace Overseer

def Runner.owes (name : String) (r : Runner) : Bool :=
  decide (r.origin = .released) && decide (r.command.queue = name) && !r.phase.hasNotified

theorem Runner.owes_new (config : Manager.Config) (now : Nat) (c : Command) (factory : Nat)
    (hooks : List Hook) (origin : Runner.Origin) (name : String) :
    (Runner.new config now c factory hooks origin).owes name =
      decide (origin = .released ∧ c.queue = name) := by
  rw [Bool.decide_and]
  exact Bool.and_true _

theorem Runner.owes_of_released {r : Runner} (released : r.origin = .released)
    (staying : r.phase.hasLeft = false) : r.owes r.command.queue = true := by
  have silent : r.phase.hasNotified = false := by
    revert staying
    cases r.phase with
    | closing _ k => cases k <;> simp [Phase.hasLeft, Phase.hasNotified]
    | _ => simp [Phase.hasLeft, Phase.hasNotified]
  simp [owes, released, silent]

end Overseer

namespace Overseer.Manager

def Admission.tokens (name : String) : Admission → Nat
  | .holding c .released => if c.queue = name then 1 else 0
  | _ => 0

section
variable {α : Type} {p : α → Bool} {l : List α} {i j : Nat} {x y : α}

theorem countP_set_add (found : l[i]? = some x) :
    (l.set i y).countP p + (if p x then 1 else 0) = l.countP p + if p y then 1 else 0 := by
  induction l generalizing i with
  | nil => cases found
  | cons first rest ih =>
      cases i with
      | zero =>
          cases found
          rw [List.set_cons_zero, List.countP_cons, List.countP_cons]
          omega
      | succ i =>
          have rest := ih (by simpa using found)
          rw [List.set_cons_succ, List.countP_cons, List.countP_cons]
          omega

theorem countP_eq_of_map {l l' : List α} (same : l.map p = l'.map p) :
    l.countP p = l'.countP p := by
  have count := congrArg (List.countP id) same
  rwa [List.countP_map, List.countP_map] at count

theorem index_eq_of_countP_le_one (few : l.countP p ≤ 1) (one : l[i]? = some x) (holds : p x = true)
    (other : l[j]? = some y) (holds' : p y = true) : i = j := by
  induction l generalizing i j with
  | nil => cases one
  | cons first rest ih =>
      rw [List.countP_cons] at few
      cases i <;> cases j <;>
        simp only [List.getElem?_cons_zero, List.getElem?_cons_succ] at one other
      case zero.zero => rfl
      case zero.succ j =>
        cases one
        have later := List.countP_pos_iff.2 ⟨y, List.mem_of_getElem? other, holds'⟩
        rw [if_pos holds] at few
        omega
      case succ.zero i =>
        cases other
        have later := List.countP_pos_iff.2 ⟨x, List.mem_of_getElem? one, holds⟩
        rw [if_pos holds'] at few
        omega
      case succ.succ i j => exact congrArg _ (ih (by omega) one other)

end

namespace System

/-- The tokens of a queue that the queue manager has given away. -/
def debt (s : System) (name : String) : Nat :=
  s.admission.tokens name + s.runners.countP (Runner.owes name)

/-- All tokens of a queue. -/
def tokens (s : System) (name : String) : Nat := s.queue.tokens name + s.debt name

structure Accounted (s : System) : Prop where
  orderly : s.queue.Orderly
  balanced : ∀ {name}, name ≠ "" → s.queue.Balanced name (s.debt name)

variable {config : Config} {dawn : Int} {s next : System}

theorem Accounted.congr (accounted : s.Accounted) (queue : next.queue = s.queue)
    (debt : ∀ name, next.debt name = s.debt name) : next.Accounted :=
  ⟨by rw [queue]; exact accounted.orderly, fun named => by
    rw [queue, debt]
    exact accounted.balanced named⟩

theorem Accounted.withQueue (accounted : s.Accounted) {queue : Queue}
    (orderly : s.queue.Orderly → queue.Orderly)
    (balanced : ∀ {name out}, s.queue.Orderly → s.queue.Balanced name out → queue.Balanced name out)
    (queued : next.queue = queue) (debt : ∀ name, next.debt name = s.debt name) :
    next.Accounted :=
  ⟨by rw [queued]; exact orderly accounted.orderly, fun named => by
    rw [queued, debt]
    exact balanced accounted.orderly (accounted.balanced named)⟩

theorem debt_eq (admission : ∀ name, next.admission.tokens name = s.admission.tokens name)
    (same : ∀ name, next.runners.map (Runner.owes name) = s.runners.map (Runner.owes name))
    (name : String) : next.debt name = s.debt name := by
  rw [debt, debt, admission, countP_eq_of_map (same name)]

theorem Accounted.giveBack (accounted : s.Accounted) (released : Bool) (name : String)
    (queued : next.queue = if released then s.queue.notify name else s.queue)
    (debt : ∀ n, next.debt n + (if released ∧ name = n then 1 else 0) = s.debt n) :
    next.Accounted := by
  cases released with
  | false => exact accounted.congr queued fun n => by simpa using debt n
  | true =>
      simp only [if_true] at queued
      refine ⟨by rw [queued]; exact accounted.orderly.notify name, fun {n} named => ?_⟩
      rw [queued]
      refine Queue.Balanced.notify accounted.orderly named ?_
      have held := debt n
      simp only [true_and] at held
      rw [held]
      exact accounted.balanced named

theorem Move.resting {act : Action} (move : Move s act next)
    (resting : s.started = false → s.admission = .off) :
    next.started = false → next.admission = .off := by
  cases move with
  | start => exact nofun
  | awaken =>
      intro fresh
      show s.admission.awoken = .off
      rw [resting fresh]
      rfl
  | arm at_rest | countRoom at_rest | countFull at_rest | wake at_rest | takeDirect at_rest
  | takeReleased at_rest | enroll at_rest | reject at_rest =>
      intro fresh
      rw [resting fresh] at at_rest
      cases at_rest
  | stopAdmission cancelled rests =>
      intro fresh
      rw [admissionRests, resting fresh] at rests
      cases rests
  | _ => exact resting

theorem Move.accounted {act : Action} (move : Move s act next)
    (resting : s.started = false → s.admission = .off) (accounted : s.Accounted) :
    next.Accounted := by
  cases move with
  | aside | push | enterLine | refuse => exact accounted.congr rfl fun _ => rfl
  | start fresh =>
      -- The admission is set to `idle`, and before its start it cannot have held a token.
      refine accounted.withQueue (·.start) (fun _ balanced => balanced.start) rfl fun name => ?_
      simp only [debt, resting fresh, Admission.tokens]
  | cancel =>
      exact accounted.withQueue (·.cancel) (fun _ balanced => balanced.cancel) rfl fun _ => rfl
  | enterQueue =>
      exact accounted.withQueue (·.push _) (fun _ balanced => balanced.push _) rfl fun _ => rfl
  | dispatch work =>
      exact accounted.withQueue (·.dispatch work)
        (fun orderly balanced => balanced.dispatch orderly work) rfl fun _ => rfl
  | produce work =>
      exact accounted.withQueue (·.produce work)
        (fun orderly balanced => balanced.produce orderly work) rfl fun _ => rfl
  | deliver work =>
      exact accounted.withQueue (·.deliver work)
        (fun orderly balanced => balanced.deliver orderly work) rfl fun _ => rfl
  | stopDispatcher work =>
      exact accounted.withQueue (·.stopDispatcher work)
        (fun _ balanced => balanced.stopDispatcher work) rfl fun _ => rfl
  | stopProducer work =>
      exact accounted.withQueue (·.stopProducer work)
        (fun _ balanced => balanced.stopProducer work) rfl fun _ => rfl
  | kill =>
      exact accounted.congr rfl
        (debt_eq (fun _ => rfl) fun _ => map_askToEnd (fun _ _ => rfl) _ _)
  | @run act c factory hooks slices direct known free =>
      refine accounted.congr rfl fun name => ?_
      simp [debt, join, Runner.owes_new]
  | @work i r r' act effects slices log found rule staying =>
      refine accounted.congr rfl (debt_eq (fun _ => rfl) fun name => map_set_eq found ?_)
      rw [Runner.owes, Runner.owes, rule.command_eq, rule.origin_eq, (rule.standing_eq staying).2]
  | leave found phase | publish found phase =>
      refine accounted.congr rfl (debt_eq (fun _ => rfl) fun name => map_set_eq found ?_)
      simp [Runner.owes, phase, Runner.Phase.hasNotified]
  | @release i r result found phase =>
      -- The runner owed its token before this step, and the queue has it as a signal afterwards.
      refine accounted.giveBack (decide (r.origin = .released)) r.command.queue (by simp)
        fun name => ?_
      have count := countP_set_add (p := Runner.owes name) found
        (y := { r with phase := .closing result .wake })
      have before : (r.owes name = true) = (r.origin = .released ∧ r.command.queue = name) := by
        simp [Runner.owes, phase, Runner.Phase.hasNotified]
      have after : ({ r with phase := .closing result .wake } : Runner).owes name = false := by
        simp [Runner.owes, Runner.Phase.hasNotified]
      rw [after] at count
      simp only [before] at count
      simp only [debt, decide_eq_true_eq]
      simp only [Bool.false_eq_true, if_false] at count
      omega
  | @awaken i r result found phase =>
      refine accounted.congr rfl (debt_eq (fun name => ?_) fun name => map_set_eq found ?_)
      · show s.admission.awoken.tokens name = s.admission.tokens name
        cases s.admission <;> rfl
      · simp [Runner.owes, phase, Runner.Phase.hasNotified]
  | arm before | countRoom before | countFull before | wake before | takeDirect before =>
      exact accounted.congr rfl (debt_eq (fun name => by rw [before]; rfl) fun _ => rfl)
  | @takeReleased c queue ready work =>
      refine ⟨accounted.orderly.take work, fun {name} named => ?_⟩
      have taken := (accounted.balanced named).take work
      have debt : s.debt name + (if c.queue = name then 1 else 0) = System.debt { s with
          admission := .holding c .released, queue } name := by
        simp only [System.debt, ready, Admission.tokens]
        omega
      rwa [debt] at taken
  | @enroll c origin factory holding known free =>
      refine accounted.congr rfl fun name => ?_
      simp only [debt, join, List.countP_append, List.countP_singleton, holding, Runner.owes_new]
      cases origin <;> simp [Admission.tokens]
      omega
  | @reject c origin log holding =>
      refine accounted.giveBack (decide (origin = .released)) c.queue (by simp) fun name => ?_
      simp only [debt, holding]
      cases origin <;> simp [Admission.tokens]
      omega
  | stopAdmission cancelled rests =>
      refine accounted.withQueue (·.dropOutput cancelled)
        (fun _ balanced => balanced.dropOutput cancelled) rfl
        (debt_eq (fun name => ?_) fun _ => rfl)
      unfold admissionRests at rests
      split at rests
      all_goals simp_all [Admission.tokens, System.stopAdmission]

theorem accounted (reach : Reachable config dawn s) :
    (s.started = false → s.admission = .off) ∧ s.Accounted := by
  induction reach with
  | new => exact ⟨fun _ => rfl, .new _, fun _ => .new _ _⟩
  | next _ step ih =>
      have move := move_of_step step
      exact ⟨move.resting ih.1, move.accounted ih.1 ih.2⟩

/-- A queue has one token at most, and until the manager is asked to end it has one exactly as long
as it has a lane. So the queue manager has at most one running job of a queue, whatever other jobs
were started directly. -/
theorem one_token_per_queue (reach : Reachable config dawn s) {name : String} (named : name ≠ "") :
    s.tokens name ≤ 1 ∧
      (s.cancelled = false → (s.tokens name = 1 ↔ (s.queue.lanes.lookup name).isSome = true)) ∧
      ∀ id id' i j r r', (id, i) ∈ s.registry → (id', j) ∈ s.registry →
        s.runners[i]? = some r → s.runners[j]? = some r' →
        r.origin = .released → r'.origin = .released →
        r.command.queue = name → r'.command.queue = name → i = j := by
  have balanced := (accounted reach).2.balanced named
  have few : s.tokens name ≤ 1 := balanced.le_one
  refine ⟨few, fun going => ?_, ?_⟩
  · have exact_count : s.tokens name = s.queue.laneCount name := balanced.eq going
    rw [exact_count, Queue.laneCount]
    split <;> simp_all
  · intro id id' i j r r' listed listed' found found' released released' queue queue'
    have holds : ∀ {id i r}, (id, i) ∈ s.registry → s.runners[i]? = some r →
        r.origin = .released → r.command.queue = name → r.owes name = true := by
      intro id i r listed found released queue
      obtain ⟨job, found', -, staying⟩ := (enlisted reach).found listed
      cases found.symm.trans found'
      exact queue ▸ Runner.owes_of_released released staying
    have fewer : s.runners.countP (Runner.owes name) ≤ 1 := by
      unfold tokens debt at few
      omega
    exact index_eq_of_countP_le_one fewer found (holds listed found released queue) found'
      (holds listed' found' released' queue')

theorem one_token_per_queue_running :
    let job (id : String) : Command := { Command.new id "test" with queue := "q" }
    let acts := [.call (.register "test" 0), .call .start, .call (.push (job "first")),
      .call (.push (job "second")), .enter 0, .enter 1, .dispatch, .dispatch, .produce, .deliver,
      .arm, .count, .takeReleased, .enroll]
    ∃ s, (System.new .default 0).after? acts = some s ∧ s.registry = [("first", 0)] ∧
      s.tokens "q" = 1 := by
  intro job acts
  have works : ((System.new .default 0).after? acts).isSome = true := rfl
  have run := (Option.some_get works).symm
  exact ⟨_, run, rfl, ((one_token_per_queue (reachable_after .new run) (by decide)).2.1 rfl).2 rfl⟩

end System

end Overseer.Manager
