import Overseer.Proofs.Manager.Registry

/-!
# The bound on running jobs

The admission counts the running jobs, then takes a command, then starts its job. Between the count
and the start other jobs may end, and jobs may be started directly; so what holds at the count need
not hold at the start.
-/

namespace Overseer.Manager

structure Tally where
  found : Nat
  joined : Nat
  left : Nat

namespace System

def tally (t : Tally) (s : System) (act : Action) (next : System) : Tally :=
  match act with
  | .count => ⟨s.live, 0, 0⟩
  | act =>
      { t with
        joined := if act.isDirect && decide (s.live < next.live) then t.joined + 1 else t.joined
        left := if next.live < s.live then t.left + 1 else t.left }

/-- What a new system may become, with the tally of its jobs. -/
inductive Watched (config : Config) (dawn : Int) : Tally → System → Prop where
  | new : Watched config dawn ⟨0, 0, 0⟩ (.new config dawn)
  | next {t : Tally} {s next : System} {act : Action} (watched : Watched config dawn t s)
      (step : s.step? act = some next) : Watched config dawn (tally t s act next) next

def hasCounted (s : System) : Bool :=
  match s.admission with
  | .ready | .holding _ _ => true
  | _ => false

structure Tallied (max : Nat) (t : Tally) (s : System) : Prop where
  room : t.found < max
  balance : s.live + t.left = t.found + t.joined

variable {config : Config} {dawn : Int} {s next : System} {t : Tally} {act : Action} {max : Nat}

theorem Watched.reachable (watched : Watched config dawn t s) : Reachable config dawn s := by
  induction watched with
  | new => exact .new
  | next _ step ih => exact ih.next step

theorem exists_watched (reach : Reachable config dawn s) : ∃ t, Watched config dawn t s := by
  induction reach with
  | new => exact ⟨_, .new⟩
  | next _ step ih =>
      obtain ⟨t, watched⟩ := ih
      exact ⟨_, watched.next step⟩

theorem config_eq (reach : Reachable config dawn s) : s.config = config := by
  induction reach with
  | new => rfl
  | next _ step ih => cases move_of_step step <;> exact ih

/-! ## What a step does to the tally -/

theorem tally_of_live_eq (counting : act ≠ .count) (same : next.live = s.live) :
    tally t s act next = t := by
  cases act with
  | count => exact absurd rfl counting
  | _ => simp [tally, same]

theorem tally_of_direct (direct : act.isDirect = true) (more : next.live = s.live + 1) :
    tally t s act next = { t with joined := t.joined + 1 } := by
  cases act with
  | call | entry => simp [tally, direct, more]
  | _ => cases direct

theorem tally_of_leave {i : Nat} {work : Runner.Action} (fewer : next.live + 1 = s.live) :
    tally t s (.runner i work) next = { t with left := t.left + 1 } := by
  have less : next.live < s.live := by omega
  simp [tally, Action.isDirect, less]

theorem Tallied.of_live_eq (tallied : s.Tallied max t) (counting : act ≠ .count)
    (same : next.live = s.live) : next.Tallied max (tally t s act next) := by
  rw [tally_of_live_eq counting same]
  exact ⟨tallied.room, same ▸ tallied.balance⟩

theorem Move.tallied (move : Move s act next) (enlisted : s.Enlisted)
    (tallied : s.hasCounted = true → s.Tallied s.config.effectiveMaxJobs t)
    (counted : next.hasCounted = true) :
    next.Tallied s.config.effectiveMaxJobs (tally t s act next) := by
  cases move with
  | start | arm | countFull | wake | enroll | reject | stopAdmission => cases counted
  | countRoom armed room => exact ⟨room, rfl⟩
  | @run act c factory hooks slices direct known free =>
      rw [tally_of_direct direct rfl]
      have before := tallied counted
      refine ⟨before.room, ?_⟩
      have balance := before.balance
      show s.live + 1 + t.left = t.found + (t.joined + 1)
      omega
  | @leave i r result found phase =>
      have fewer := enlisted.length_leave (enlisted.listed found (by rw [phase]; rfl))
      rw [tally_of_leave]
      · have before := tallied counted
        refine ⟨before.room, ?_⟩
        have balance := before.balance
        show (s.registry.filter fun job => job.1 != r.command.id).length + (t.left + 1) =
          t.found + t.joined
        omega
      · exact fewer
  | awaken =>
      have before : s.hasCounted = true := by
        revert counted
        simp only [hasCounted, Admission.awoken]
        cases s.admission <;> exact id
      exact (tallied before).of_live_eq (by simp) rfl
  | takeDirect ready => exact (tallied (by rw [hasCounted, ready])).of_live_eq (by simp) rfl
  | takeReleased ready => exact (tallied (by rw [hasCounted, ready])).of_live_eq (by simp) rfl
  | aside foreign =>
      refine (tallied counted).of_live_eq (fun counting => ?_) rfl
      rw [counting] at foreign
      cases foreign
  | _ => exact (tallied counted).of_live_eq (by simp) rfl

theorem Watched.tallied (watched : Watched config dawn t s) (counted : s.hasCounted = true) :
    s.Tallied config.effectiveMaxJobs t := by
  induction watched with
  | new => cases counted
  | next watched step ih =>
      rw [← config_eq watched.reachable] at ih ⊢
      exact (move_of_step step).tallied (enlisted watched.reachable) ih counted

/-- When the admission is about to start a job, there was room when it counted; there still is if
and only if fewer jobs were started directly since then than places were free and were given
back. -/
theorem admission_bound (watched : Watched config dawn t s) (step : s.step? .enroll = some next) :
    t.found < config.effectiveMaxJobs ∧ s.live + t.left = t.found + t.joined ∧
      (s.live < config.effectiveMaxJobs ↔
        t.joined < config.effectiveMaxJobs - t.found + t.left) := by
  -- Whether or not the command can be run, the admission holds it.
  have counted : s.hasCounted = true := by
    cases move_of_step step with
    | enroll holding | reject holding => rw [hasCounted, holding]
    | aside foreign => cases foreign
    | run direct => cases direct
  have tallied := watched.tallied counted
  have room := tallied.room
  have balance := tallied.balance
  exact ⟨room, balance, by omega⟩

def tight : Config := { Config.default with maxJobs := 1 }

def crowd : List Action :=
  [.call (.register "test" 0), .call .start, .arm, .count, .call (.run (.new "direct" "test") []),
    .call (.push (.new "pushed" "test")), .enter 0, .takeDirect]

def crowded : System := ((System.new tight 0).after? crowd).get (by decide)

theorem reachable_crowded : Reachable tight 0 crowded :=
  reachable_after .new (Option.some_get _).symm

theorem admission_bound_crowded :
    ∃ t next, Watched tight 0 t crowded ∧ crowded.step? .enroll = some next ∧
      ¬ t.joined < 1 - t.found + t.left := by
  obtain ⟨t, watched⟩ := exists_watched reachable_crowded
  exact ⟨t, _, watched, rfl, fun fewer =>
    absurd ((admission_bound watched rfl).2.2.2 fewer) (by decide)⟩

/-- The admission starts a job although as many jobs run as are allowed. -/
theorem admission_exceeds_bound :
    ¬ ∀ (config : Config) (dawn : Int) (s next : System), Reachable config dawn s →
      s.step? .enroll = some next → s.live < next.live → s.live < config.effectiveMaxJobs :=
  fun bound => absurd (bound tight 0 crowded _ reachable_crowded rfl (by decide)) (by decide)

/-! ## The jobs that the admission started -/

def admittedLive (s : System) : Nat :=
  s.registry.countP fun job => s.runners[job.2]?.any fun r => r.origin != .direct

def reserved (s : System) : Nat := if s.hasCounted then 1 else 0

theorem admittedLive_le_live (s : System) : s.admittedLive ≤ s.live := List.countP_le_length

theorem admittedLive_congr (registry : next.registry = s.registry)
    (origins : next.runners.map (·.origin) = s.runners.map (·.origin)) :
    next.admittedLive = s.admittedLive := by
  have origin (runners : List Runner) (i : Nat) :
      (runners[i]?.any fun r => r.origin != .direct) =
        (runners.map (·.origin))[i]?.any (· != .direct) := by
    rw [List.getElem?_map, Option.any_map]
  simp only [admittedLive, registry, origin, origins]

theorem Enlisted.admittedLive_join (enlisted : s.Enlisted) {c : Command} {factory : Nat}
    {hooks : List Hook} {origin : Runner.Origin} :
    (s.join c factory hooks origin).admittedLive =
      s.admittedLive + if origin = .direct then 0 else 1 := by
  have last : (s.join c factory hooks origin).runners[s.runners.length]? =
      some (.new s.config s.now c factory hooks origin) := List.getElem?_concat_length
  have earlier : ∀ job ∈ s.registry,
      (s.join c factory hooks origin).runners[job.2]? = s.runners[job.2]? := by
    intro job listed
    obtain ⟨r, found, -⟩ := enlisted.found listed
    exact List.getElem?_append_left (List.getElem?_eq_some_iff.1 found).1
  have others : s.registry.countP (fun job =>
      (s.join c factory hooks origin).runners[job.2]?.any fun r => r.origin != .direct) =
        s.admittedLive :=
    List.countP_congr fun job listed => by rw [earlier job listed]
  show ((c.id, s.runners.length) :: s.registry).countP _ = _
  rw [List.countP_cons, others, last]
  cases origin <;> rfl

theorem admittedLive_set {i : Nat} {r r' : Runner} (found : s.runners[i]? = some r)
    (registry : next.registry = s.registry) (runners : next.runners = s.runners.set i r')
    (origin : r'.origin = r.origin) : next.admittedLive = s.admittedLive :=
  admittedLive_congr registry (by rw [runners, map_set_eq found origin])

theorem admittedLive_leave {i : Nat} {r r' : Runner} (found : s.runners[i]? = some r)
    {id : String} (registry : next.registry = s.registry.filter fun job => job.1 != id)
    (runners : next.runners = s.runners.set i r') (origin : r'.origin = r.origin) :
    next.admittedLive ≤ s.admittedLive := by
  have same : System.admittedLive { s with runners := s.runners.set i r' } = s.admittedLive :=
    admittedLive_set found rfl rfl origin
  rw [← same, admittedLive, admittedLive, registry, runners]
  exact List.Sublist.countP_le List.filter_sublist

theorem reserved_awoken (s : System) :
    System.reserved { s with admission := s.admission.awoken } = s.reserved := by
  have counted : System.hasCounted { s with admission := s.admission.awoken } = s.hasCounted := by
    cases waits : s.admission <;> simp only [hasCounted, waits, Admission.awoken]
  rw [reserved, reserved, counted]

theorem bounded_of_le {max : Nat} (bounded : s.admittedLive + s.reserved ≤ max)
    (admitted : next.admittedLive ≤ s.admittedLive) (place : next.reserved = s.reserved) :
    next.admittedLive + next.reserved ≤ max :=
  Nat.le_trans (Nat.add_le_add admitted (Nat.le_of_eq place)) bounded

theorem Move.admitted (move : Move s act next) (enlisted : s.Enlisted)
    (bounded : s.admittedLive + s.reserved ≤ s.config.effectiveMaxJobs) :
    next.admittedLive + next.reserved ≤ s.config.effectiveMaxJobs := by
  have few : s.admittedLive ≤ s.config.effectiveMaxJobs := Nat.le_of_add_right_le bounded
  cases move with
  | start | arm | countFull | wake | reject | stopAdmission => exact few
  | countRoom armed room =>
      -- All running jobs are counted, those that were started directly too.
      exact Nat.lt_of_le_of_lt s.admittedLive_le_live room
  | @run act c factory hooks slices direct known free =>
      exact bounded_of_le bounded (Nat.le_of_eq enlisted.admittedLive_join) rfl
  | @enroll c origin factory holding known free =>
      have joined : (s.join c factory [] origin).admittedLive =
          s.admittedLive + if origin = .direct then 0 else 1 := enlisted.admittedLive_join
      have place : s.reserved = 1 := by rw [reserved, hasCounted, holding]; rfl
      have more : (s.join c factory [] origin).admittedLive ≤ s.admittedLive + 1 := by
        rw [joined]
        split <;> omega
      rw [place] at bounded
      exact Nat.le_trans more bounded
  | kill =>
      exact bounded_of_le bounded
        (Nat.le_of_eq (admittedLive_congr rfl (map_askToEnd (fun _ _ => rfl) _ _))) rfl
  | work found rule =>
      exact bounded_of_le bounded (Nat.le_of_eq (admittedLive_set found rfl rfl rule.origin_eq)) rfl
  | @leave i r result found phase =>
      exact bounded_of_le bounded (admittedLive_leave found rfl rfl rfl) rfl
  | release found | publish found =>
      exact bounded_of_le bounded (Nat.le_of_eq (admittedLive_set found rfl rfl rfl)) rfl
  | awaken found =>
      exact bounded_of_le bounded (Nat.le_of_eq (admittedLive_set found rfl rfl rfl))
        s.reserved_awoken
  | takeDirect ready | takeReleased ready =>
      have place : s.reserved = 1 := by rw [reserved, hasCounted, ready]; rfl
      rw [place] at bounded
      exact bounded
  | _ => exact bounded

/-- However many jobs are started directly, and whenever they come and go, the running jobs that the
admission started are no more than are allowed. -/
theorem admitted_le_bound (reach : Reachable config dawn s) :
    s.admittedLive ≤ config.effectiveMaxJobs := by
  have bounded : s.admittedLive + s.reserved ≤ config.effectiveMaxJobs := by
    induction reach with
    | new => exact Nat.zero_le _
    | next reach step ih =>
        rw [← config_eq reach] at ih ⊢
        exact (move_of_step step).admitted (enlisted reach) ih
  exact Nat.le_of_add_right_le bounded

theorem admitted_le_bound_crowded :
    ∃ s, Reachable tight 0 s ∧ s.live = 2 ∧ s.admittedLive = 1 ∧ s.admittedLive ≤ 1 := by
  have step : crowded.step? .enroll = some _ := rfl
  have reach := reachable_crowded.next step
  exact ⟨_, reach, rfl, rfl, admitted_le_bound reach⟩

end System

end Overseer.Manager
