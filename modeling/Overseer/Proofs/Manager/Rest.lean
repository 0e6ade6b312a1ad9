import Overseer.Proofs.Manager.Capacity
import Overseer.Proofs.Manager.Conservation

/-!
# The manager at rest

When neither the tasks of the manager nor the runners can go on by themselves and there is room for
a job, nothing is on its way: what waits is in the lane of a queue of which a job runs. So no signal
gets lost, and no wake-up of the admission.
-/

namespace Overseer

def Runner.Action.isOwn : Runner.Action → Bool
  | .emit _ | .hangUp | .kill => false
  | _ => true

end Overseer

namespace Overseer.Manager

def Action.isInternal : Action → Bool
  | .runner _ act => act.isOwn
  | .dispatch | .produce | .deliver | .stopDispatcher | .stopProducer => true
  | act => act.isAdmission

namespace System

/-- Whether nothing goes on by itself, until time passes or somebody else acts. -/
def Resting (s : System) : Prop := ∀ act, act.isInternal = true → s.step? act = none

/-- Whether a submission is stuck: neither it nor one before it can get in. -/
def Blocked (s : System) (i : Nat) : Prop :=
  ∃ c, s.pushes[i]? = some ⟨c, .waiting⟩ ∧ ∀ j ≤ i, s.step? (.enter j) = none

structure Still (s : System) : Prop where
  commands : s.commands = []
  inbox : s.queue.inbox = []
  signals : s.queue.signals = []
  hand : s.queue.hand = none
  output : s.queue.output = []
  ready : s.admission = .ready

def leaving (s : System) : Nat := s.runners.countP fun r => r.phase.isLeaving

variable {config : Config} {dawn : Int} {s next : System} {act : Action}

/-! ## No wake-up is lost -/

/-- Whether the admission has a reason to sleep: all places are taken, or somebody is about to wake
it. -/
def Tired (s : System) : Prop :=
  s.admission = .waiting false → s.config.effectiveMaxJobs ≤ s.live + s.leaving

theorem leaving_askToEnd (asked : Nat → Bool) :
    System.leaving { s with runners := askToEnd asked s.runners } = s.leaving :=
  countP_eq_of_map (map_askToEnd (fun _ _ => rfl) asked s.runners)

theorem leaving_set {i : Nat} {r r' : Runner} (found : s.runners[i]? = some r)
    (runners : next.runners = s.runners.set i r')
    (same : r'.phase.isLeaving = r.phase.isLeaving) : next.leaving = s.leaving := by
  rw [leaving, leaving, runners]
  exact countP_eq_of_map (map_set_eq found same)

theorem Move.tired (move : Move s act next) (enlisted : s.Enlisted) (tired : s.Tired) :
    next.Tired := by
  cases move with
  | start | arm | countRoom | wake | takeDirect | takeReleased | enroll | reject | stopAdmission =>
      exact nofun
  | countFull armed full => exact fun _ => Nat.le_trans full (Nat.le_add_right _ _)
  | kill =>
      intro asleep
      rw [leaving_askToEnd]
      exact tired asleep
  | @run act c factory hooks slices direct known free =>
      intro asleep
      have before := tired asleep
      have more : System.leaving { s.join c factory hooks .direct with slices } = s.leaving := by
        simp [leaving, join, Runner.new, Runner.Phase.isLeaving]
      rw [more]
      show s.config.effectiveMaxJobs ≤ s.live + 1 + s.leaving
      omega
  | work found rule staying =>
      intro asleep
      rw [leaving_set found rfl (rule.isLeaving_eq staying)]
      exact tired asleep
  | @leave i r result found phase =>
      -- One place less is taken, and one runner more is about to wake the admission.
      intro asleep
      have before := tired asleep
      have fewer := enlisted.length_leave (enlisted.listed found (by rw [phase]; rfl))
      have count := countP_set_add (p := fun r => r.phase.isLeaving) found
        (y := { r with phase := .closing result .release })
      have here : r.phase.isLeaving = false := by rw [phase]; rfl
      have gone : (Runner.Phase.closing result .release).isLeaving = true := rfl
      simp only [here, gone, Bool.false_eq_true, if_false, if_true] at count
      show s.config.effectiveMaxJobs ≤ (s.registry.filter _).length +
        (s.runners.set i { r with phase := .closing result .release }).countP _
      unfold leaving at before
      omega
  | release found phase | publish found phase =>
      intro asleep
      rw [leaving_set found rfl (by rw [phase]; rfl)]
      exact tired asleep
  | awaken =>
      intro asleep
      have awake : s.admission.awoken ≠ .waiting false := by
        cases s.admission <;> simp [Admission.awoken]
      exact absurd asleep awake
  | _ => exact tired

theorem tired (reach : Reachable config dawn s) : s.Tired := by
  induction reach with
  | new => exact nofun
  | next reach step ih => exact (move_of_step step).tired (enlisted reach) ih

/-! ## What rest means for each task -/

section
variable (resting : s.Resting)
include resting

theorem Resting.no_farewell {i : Nat} {r : Runner} (found : s.runners[i]? = some r)
    {result : JobResult} {k : Runner.Farewell} : r.phase ≠ .closing result k := by
  intro phase
  have stuck := resting (.runner i .farewell) rfl
  have taken : r.step? s.config s.clock .farewell = _ :=
    Runner.step?_eq_some_iff.2 (.farewell phase)
  simp only [step?, stepRunner?, found, taken] at stuck
  cases stuck

theorem Resting.unreported {i : Nat} {r : Runner} (found : s.runners[i]? = some r)
    (silent : r.phase.hasNotified = false) : r.reported? = none := by
  unfold Runner.reported?
  cases phase : r.phase with
  | closing result k => exact absurd phase (resting.no_farewell found)
  | ended result =>
      rw [phase] at silent
      cases silent
  | _ => rfl

theorem Resting.leaving : s.leaving = 0 := by
  refine List.countP_eq_zero.2 fun r member => ?_
  obtain ⟨i, found⟩ := List.getElem?_of_mem member
  cases phase : r.phase with
  | closing result k => exact absurd phase (resting.no_farewell found)
  | _ => simp [Runner.Phase.isLeaving]

theorem Resting.inbox (dispatching : s.queue.dispatching = true) : s.queue.inbox = [] := by
  have stuck := resting .dispatch rfl
  cases inbox : s.queue.inbox with
  | nil => rfl
  | cons c rest => simp [step?, Queue.dispatch?, dispatching, inbox] at stuck

theorem Resting.admission (wired : s.Wired) (tired : s.Tired) (started : s.started = true)
    (going : s.cancelled = false) (room : s.live < s.config.effectiveMaxJobs) :
    s.admission = .ready ∧ s.commands = [] ∧ s.queue.output = [] := by
  have stuck (act : Action) (isAdmission : act.isAdmission = true) : s.step? act = none := by
    refine resting act ?_
    cases act <;> first | rfl | cases isAdmission
  cases admission : s.admission with
  | off =>
      rw [wired.off_iff.1 admission] at started
      cases started
  | idle => simpa [step?, admission] using stuck .arm rfl
  | armed woken => simpa [step?, admission] using stuck .count rfl
  | waiting woken =>
      cases woken with
      | true => simpa [step?, admission] using stuck .wake rfl
      | false =>
          have full := tired admission
          rw [resting.leaving] at full
          omega
  | ready =>
      refine ⟨rfl, ?_, ?_⟩
      · have stuck := stuck .takeDirect rfl
        cases line : s.commands with
        | nil => rfl
        | cons c rest => simp [step?, admission, line] at stuck
      · have stuck := stuck .takeReleased rfl
        cases output : s.queue.output with
        | nil => rfl
        | cons c rest => simp [step?, admission, Queue.take?, output] at stuck
  | holding c origin => simpa [step?, admission] using stuck .enroll rfl
  | stopped =>
      rw [wired.stopped admission] at going
      cases going

theorem Resting.producer (wired : s.Wired) (producing : s.queue.producing = true)
    (empty : s.queue.output = []) : s.queue.hand = none ∧ s.queue.signals = [] := by
  have free : s.queue.hand = none := by
    have stuck := resting .deliver rfl
    cases hand : s.queue.hand with
    | none => rfl
    | some c =>
        have capacity := wired.capacity
        cases isOpen : s.queue.outputOpen <;>
          simp [step?, Queue.deliver?, producing, hand, isOpen, empty, capacity, releaseCapacity]
            at stuck
  refine ⟨free, ?_⟩
  have stuck := resting .produce rfl
  cases signals : s.queue.signals with
  | nil => rfl
  | cons name rest => simp [step?, Queue.produce?, producing, free, signals] at stuck

theorem Resting.still (wired : s.Wired) (orderly : s.queue.Orderly) (tired : s.Tired)
    (started : s.started = true) (going : s.cancelled = false)
    (room : s.live < s.config.effectiveMaxJobs) : s.Still := by
  obtain ⟨dispatching, producing⟩ := (orderly.alive going).2 (wired.started.trans started)
  obtain ⟨ready, commands, output⟩ := resting.admission wired tired started going room
  obtain ⟨hand, signals⟩ := resting.producer wired producing output
  exact ⟨commands, resting.inbox dispatching, signals, hand, output, ready⟩

theorem Resting.owing (still : s.Still) (accounted : s.Accounted) (going : s.cancelled = false)
    {name : String} (named : name ≠ "") (waits : s.queue.lane name ≠ []) :
    ∃ (i : Nat) (r : Runner), s.runners[i]? = some r ∧ r.origin = .released ∧
      r.command.queue = name ∧ r.reported? = none := by
  have lane : s.queue.laneCount name = 1 := by
    unfold Queue.laneCount
    cases found : s.queue.lanes.lookup name with
    | none => simp [Queue.lane, found] at waits
    | some l => rfl
  have balance := (accounted.balanced named).eq going
  have owed : 0 < s.runners.countP (Runner.owes name) := by
    simp only [Queue.tokens, debt, Admission.tokens, still.ready, still.signals, still.hand,
      still.output, lane, List.count_nil, Option.toList_none, List.append_nil,
      List.countP_nil] at balance
    omega
  obtain ⟨r, member, owes⟩ := List.countP_pos_iff.1 owed
  obtain ⟨i, found⟩ := List.getElem?_of_mem member
  simp only [Runner.owes, Bool.and_eq_true, decide_eq_true_eq, Bool.not_eq_true'] at owes
  exact ⟨i, r, found, owes.1.1, owes.1.2, resting.unreported found owes.2⟩

end

theorem not_blocked (room : s.commands.length < s.config.effectiveMaxJobs) (i : Nat) :
    ¬ s.Blocked i := by
  rintro ⟨c, found, stuck⟩
  induction i using Nat.strong_induction_on generalizing c with
  | _ i ih =>
      have here := stuck i (Nat.le_refl i)
      simp only [step?, enter?, found] at here
      cases queued : c.queue.isEmpty with
      | false => simp [queued] at here
      | true =>
          cases isOpen : s.commandsOpen with
          | false => simp [queued, isOpen] at here
          | true =>
              -- Another submission without a queue is before it.
              have behind : s.isNextPush i = false := by
                by_contra next
                simp [queued, isOpen, next, room] at here
              obtain ⟨p, member, waiting⟩ := List.all_eq_false.1 behind
              obtain ⟨j, earlier⟩ := List.getElem?_of_mem member
              rw [List.getElem?_take] at earlier
              split at earlier
              · rename_i before
                obtain ⟨d, status⟩ := p
                simp only [Bool.or_eq_true, bne_iff_ne, ne_eq, not_or, not_not] at waiting
                obtain ⟨rfl, -⟩ := waiting
                exact ih j before d earlier fun k le => stuck k (by omega)
              · cases earlier

end System

/-! ## What still waits -/

/-- The latest ticket of a queue that has come out of its lane. -/
structure Ledger.LastOut (L : Ledger) (name : String) (n : Nat) (u : Ticket) : Prop where
  ticket : L.tickets[n]? = some u
  released : u.origin = .released
  queue : u.command.queue = name
  out : (Place.lane name).stage < u.place.stage
  later : ∀ m t, n < m → L.tickets[m]? = some t → t.origin = .released → t.command.queue = name →
    t.place.stage ≤ (Place.lane name).stage

variable {config : Config} {dawn : Int} {intake : List Errand} {L : Ledger} {s : System}

namespace Ledger

theorem Located.vacant (located : L.Located s) {p : Place} (served : s.Served p)
    (empty : s.contents p = []) : ∀ t ∈ L.tickets, t.place ≠ p := by
  intro t member here
  have held := mem_held member here
  rw [located p served, empty] at held
  cases held

theorem Located.running (located : L.Located s) {i : Nat} {r : Runner}
    (found : s.runners[i]? = some r) (unreported : r.reported? = none) :
    ∃ (n : Nat) (u : Ticket), L.tickets[n]? = some u ∧ u.place = .running i ∧
      u.toErrand = ⟨r.command, r.origin⟩ := by
  have here : ⟨r.command, r.origin⟩ ∈ L.held (.running i) := by
    rw [located (.running i) trivial]
    simp [System.contents, System.standing, found, unreported]
  obtain ⟨u, member, same⟩ := List.mem_map.1 here
  obtain ⟨member, place⟩ := List.mem_filter.1 member
  obtain ⟨n, ticket⟩ := List.getElem?_of_mem member
  exact ⟨n, u, ticket, by simpa using place, same⟩

theorem Located.index_eq (located : L.Located s) {i m n : Nat} {u v : Ticket}
    (one : L.tickets[m]? = some u) (here : u.place = .running i) (other : L.tickets[n]? = some v)
    (there : v.place = .running i) : m = n := by
  have few : (s.contents (.running i)).length ≤ 1 := by
    simp only [System.contents]
    split <;> simp
  rw [← located (.running i) trivial, held, List.length_map, ← List.countP_eq_length_filter] at few
  exact index_eq_of_countP_le_one few one (by simpa using here) other (by simpa using there)

theorem Located.place_of (located : L.Located s) (still : s.Still)
    (served : ∀ p, p ≠ .rejected → s.Served p) {t : Ticket} (member : t ∈ L.tickets) :
    t.place.isDone = true ∨ (∃ i, t.place = .running i) ∨ ∃ name, t.place = .lane name := by
  have vacant {p : Place} (taken : p ≠ .rejected) (empty : s.contents p = []) : t.place ≠ p :=
    located.vacant (served p taken) empty t member
  cases place : t.place with
  | line => exact absurd place (vacant (by simp) (by simp [System.contents, still.commands]))
  | inbox => exact absurd place (vacant (by simp) (by simp [System.contents, still.inbox]))
  | hand => exact absurd place (vacant (by simp) (by simp [System.contents, still.hand]))
  | output => exact absurd place (vacant (by simp) (by simp [System.contents, still.output]))
  | admission =>
      exact absurd place
        (vacant (by simp) (by simp [System.contents, still.ready, Admission.errands]))
  | lane name => exact .inr (.inr ⟨name, rfl⟩)
  | running i => exact .inr (.inl ⟨i, rfl⟩)
  | finished | rejected => exact .inl rfl

theorem Faithful.lastOut (faithful : L.Faithful s) (accounted : s.Accounted) (still : s.Still)
    (served : ∀ p, p ≠ .rejected → s.Served p) {n i : Nat} {u : Ticket}
    (ticket : L.tickets[n]? = some u) (running : u.place = .running i)
    (released : u.origin = .released) : L.LastOut u.command.queue n u := by
  obtain ⟨located, ordered, -⟩ := faithful
  refine ⟨ticket, released, rfl, by simp [running, Place.stage], ?_⟩
  intro m v later other released' queue
  have sibling : u.toErrand.Sibling v.toErrand := ⟨released, released', queue.symm⟩
  have behind := ordered.stage_le later ticket other sibling
  have member := List.mem_of_getElem? other
  rcases located.place_of still served member with isDone | ⟨j, place⟩ | ⟨name, place⟩
  · rw [running] at behind
    exact absurd ((Place.isDone_iff _).1 isDone) (Nat.not_le_of_lt (Nat.lt_succ_of_le behind))
  · -- There is one runner of the queue, and it has one ticket.
    have here := mem_held (List.mem_of_getElem? ticket) running
    have there := mem_held member place
    rw [located (.running i) trivial] at here
    rw [located (.running j) trivial] at there
    have named := ordered.named u (List.mem_of_getElem? ticket) released
    have one := System.running_apart accounted here there named sibling
    exact absurd (located.index_eq ticket running other (one ▸ place)) (Nat.ne_of_lt later)
  · rw [place]
    exact Nat.le_refl _

end Ledger

/-- When the manager is at rest with room for a job, nothing is on its way and nobody is stuck: a
command that still waits is in its lane, and the one that was last let out of it is with a running
job. -/
theorem no_stall (recorded : Recorded config dawn intake L s) (started : s.started = true)
    (going : s.cancelled = false) (resting : s.Resting)
    (room : s.live < config.effectiveMaxJobs) :
    s.commands = [] ∧ s.queue.inbox = [] ∧ s.queue.signals = [] ∧ s.queue.hand = none ∧
      s.queue.output = [] ∧ (∀ i, ¬ s.Blocked i) ∧
      ∀ t ∈ L.tickets, t.place.isDone = true ∨
        (∃ i, t.place = .running i ∧ (t.command.id, i) ∈ s.registry) ∨
        t.place = .lane t.command.queue ∧ ∃ n u, ∃ i, L.LastOut t.command.queue n u ∧
          u.place = .running i ∧ (u.command.id, i) ∈ s.registry := by
  have reach := recorded.reachable
  have wired := System.wired reach
  have accounted := (System.accounted reach).2
  have faithful := recorded.faithful
  have listed {i : Nat} {u : Ticket} (member : u ∈ L.tickets) (running : u.place = .running i) :
      (u.command.id, i) ∈ s.registry := by
    have here := Ledger.mem_held member running
    rw [faithful.located (.running i) trivial] at here
    exact System.listed_of_running (System.enlisted reach) here
  have served (p : Place) (taken : p ≠ .rejected) : s.Served p :=
    System.served_of_going wired accounted.orderly going taken
  rw [← System.config_eq reach] at room
  have still := resting.still wired accounted.orderly (System.tired reach) started going room
  have free : s.commands.length < s.config.effectiveMaxJobs := by
    rw [still.commands]
    exact Nat.zero_lt_of_lt room
  refine ⟨still.commands, still.inbox, still.signals, still.hand, still.output,
    System.not_blocked free, fun t member => ?_⟩
  rcases faithful.located.place_of still served member with isDone | ⟨i, place⟩ | ⟨name, place⟩
  · exact .inl isDone
  · exact .inr (.inl ⟨i, place, listed member place⟩)
  · have here := Ledger.mem_held member place
    rw [faithful.located (.lane name) trivial] at here
    obtain ⟨released, rfl⟩ := System.of_mem_lane accounted.orderly here
    have waits : s.queue.lane t.command.queue ≠ [] := fun empty => by
      simp [System.contents, empty] at here
    have named := faithful.ordered.named t member released
    obtain ⟨i, r, found, released', queue, unreported⟩ :=
      resting.owing still accounted going named waits
    obtain ⟨n, u, ticket, running, same⟩ := faithful.located.running found unreported
    have origin : u.origin = .released := (congrArg Errand.origin same).trans released'
    have command : u.command = r.command := congrArg Errand.command same
    have last := faithful.lastOut accounted still served ticket running origin
    rw [command, queue] at last
    exact .inr (.inr ⟨place, n, u, i, last, running, listed (List.mem_of_getElem? ticket) running⟩)

def lull : List Action :=
  let job (id : String) : Command := { Command.new id "test" with queue := "q" }
  [.call (.register "test" 0), .call .start, .call (.push (job "first")),
    .call (.push (job "second")), .enter 0, .enter 1, .dispatch, .dispatch, .produce, .deliver,
    .arm, .count, .takeReleased, .enroll, .arm, .count, .runner 0 (.launch ⟨[], none⟩),
    .call (.push (.new "third" "test"))]

def lulled : List Errand × Ledger × System :=
  (replay? ([], .empty, .new .default 0) lull).get rfl

theorem resting_lulled : lulled.2.2.Resting := by
  intro act internal
  cases act with
  | runner i work =>
      cases i with
      | zero => cases work <;> first | rfl | cases internal
      | succ i => rfl
  | _ => first | rfl | cases internal

theorem no_stall_lulled :
    lulled.2.2.started = true ∧ lulled.2.2.cancelled = false ∧ lulled.2.2.Resting ∧
      lulled.2.2.live = 1 ∧ lulled.2.1.tickets.map Ticket.place = [.running 0, .lane "q"] ∧
      ∀ i, ¬ lulled.2.2.Blocked i := by
  have run : replay? ([], .empty, .new .default 0) lull = some lulled := (Option.some_get _).symm
  exact ⟨rfl, rfl, resting_lulled, rfl, rfl,
    (no_stall (recorded_replay .new run) rfl rfl resting_lulled (by decide)).2.2.2.2.2.1⟩

end Overseer.Manager
