import Mathlib
import Overseer.Host.Children

/-!
# Who gets which status

A status is sent into the channel of the child that it is about, in every run. Whether the parent of
the child waits at that channel is another matter: a registration takes the place of an earlier one
with the same number, and the host may give away the number of a child that was collected but not
claimed. In the runs in which it does not, the orderly ones, every parent gets the status of its own
child.
-/

namespace Overseer.Host

/-! ## The tables of the registry -/

namespace Registry

theorem mem_bind {entries : List (Pid × Nat)} {pid p : Pid} {ticket k : Nat} :
    (p, k) ∈ bind pid ticket entries ↔ p = pid ∧ k = ticket ∨ p ≠ pid ∧ (p, k) ∈ entries := by
  simp only [bind, List.mem_cons, Prod.mk.injEq, List.mem_filter, bne_iff_ne, ne_eq]
  tauto

theorem mem_of_lookup {α β : Type} [BEq α] [LawfulBEq α] {k : α} {entries : List (α × β)} {x : β}
    (found : entries.lookup k = some x) : (k, x) ∈ entries := by
  obtain ⟨before, after, rfl, -⟩ := List.lookup_eq_some_iff.1 found
  simp

theorem lookup_of_mem {α β : Type} [BEq α] [LawfulBEq α] {k : α} {entries : List (α × β)} {x : β}
    (member : (k, x) ∈ entries) (unique : ∀ y, (k, y) ∈ entries → y = x) :
    entries.lookup k = some x := by
  cases found : entries.lookup k with
  | none => simpa using List.lookup_eq_none_iff.1 found _ member
  | some y => rw [unique y (mem_of_lookup found)]

end Registry

namespace World

def live (w : World) : List Child := w.running ++ w.ready.map (·.1)

def children (w : World) : List Child := w.live ++ w.collected.map (·.1)

def collectOne (w : World) (e : Child × ExitStatus) (rest : List (Child × ExitStatus)) : World :=
  { w with
    registry := w.registry.collect e.2
    ready := rest
    collected := w.collected ++ [e] }

def reaped (w : World) : World :=
  { w with
    registry := w.registry.reap (w.ready.map (·.2))
    ready := []
    collected := w.collected ++ w.ready }

def spawned (w : World) (pid : Pid) : World :=
  { w with
    registry := w.registry.register (some pid)
    running := ⟨w.nextSerial, pid⟩ :: w.running
    owned := ⟨w.nextSerial, pid⟩ :: w.owned
    nextSerial := w.nextSerial + 1 }

def ended (w : World) (child : Child) (code signal : Option Int) : World :=
  { w with
    running := w.running.erase child
    ready := w.ready ++ [(child, ⟨child.pid, code, signal⟩)] }

def claimed (w : World) (child : Child) (ticket : Nat) : World :=
  { w with
    registry :=
      { w.registry with receivers := w.registry.receivers.filter fun e => e.1 != child.pid }
    owned := w.owned.erase child
    waiting := ⟨child, ticket⟩ :: w.waiting }

/-- What may happen, and what it makes of the world. -/
inductive Event (w : World) : Action → World → Prop where
  | register {pid : Pid} (free : pid ∉ w.used) : Event w (.register pid) (w.spawned pid)
  | fail : Event w .fail w
  | finish {child : Child} {code signal : Option Int} (running : child ∈ w.running) :
      Event w (.finish child code signal) (w.ended child code signal)
  | reap : Event w .reap w.reaped
  | claim {child : Child} {ticket : Nat} (owned : child ∈ w.owned)
      (found : w.registry.receivers.lookup child.pid = some ticket) :
      Event w (.claim child) (w.claimed child ticket)
  | refuse {child : Child} (owned : child ∈ w.owned)
      (missing : w.registry.receivers.lookup child.pid = none) :
      Event w (.claim child)
        { w with
          owned := w.owned.erase child
          answered := ⟨child, .notRegistered child.pid⟩ :: w.answered }
  | answer {x : Waiting} {answer : WaitAnswer} (asked : x ∈ w.waiting)
      (found : w.registry.answer? x.child.pid x.ticket = some answer) :
      Event w (.answer x)
        { w with
          waiting := w.waiting.erase x
          answered := ⟨x.child, answer⟩ :: w.answered }

theorem event_of_step {w next : World} {act : Action} (step : w.step? act = some next) :
    Event w act next := by
  cases act with
  | register pid =>
      simp only [step?] at step
      split at step <;> cases step
      exact .register ‹_›
  | fail =>
      cases step
      exact .fail
  | finish child code signal =>
      simp only [step?] at step
      split at step <;> cases step
      exact .finish ‹_›
  | reap =>
      cases step
      exact .reap
  | claim child =>
      simp only [step?, Registry.claim] at step
      split at step
      · rename_i owned
        cases found : w.registry.receivers.lookup child.pid with
        | none =>
            simp only [found, Option.some.injEq] at step
            exact step ▸ .refuse owned found
        | some ticket =>
            simp only [found, Option.some.injEq] at step
            exact step ▸ .claim owned found
      · cases step
  | answer x =>
      simp only [step?] at step
      split at step
      · split at step <;> cases step
        exact .answer ‹_› ‹_›
      · cases step

theorem reaped_induction {P : World → Prop}
    (one : ∀ w e rest, P w → w.ready = e :: rest → P (w.collectOne e rest))
    (w : World) (holds : P w) : P w.reaped := by
  -- The reaper goes through the statuses in the order in which their children ended.
  generalize ready : w.ready = entries
  induction entries generalizing w with
  | nil =>
      have same : w.reaped = w := by
        cases w
        simp_all [reaped, Registry.reap]
      rwa [same]
  | cons e rest ih =>
      have later := ih (w.collectOne e rest) (one w e rest holds ready) rfl
      simpa [reaped, collectOne, ready, Registry.reap] using later

/-! ## Statuses and channels -/

structure Posted (w : World) : Prop where
  tickets : w.registry.nextTicket = w.nextSerial
  bounded : ∀ c ∈ w.children, c.serial < w.nextSerial
  serials : (w.children.map Child.serial).Nodup
  pids : (w.live.map Child.pid).Nodup
  senders : ∀ p k, (p, k) ∈ w.registry.senders ↔ ⟨k, p⟩ ∈ w.live
  named : ∀ e ∈ w.ready, e.2.pid = e.1.pid
  sent : ∀ k s, (k, s) ∈ w.registry.sent ↔ ∃ c, c.serial = k ∧ (c, s) ∈ w.collected

theorem used_eq (w : World) : w.used = w.live.map Child.pid := by simp [used, live]

theorem Posted.initial : Posted initial where
  tickets := rfl
  bounded := nofun
  serials := .nil
  pids := .nil
  senders := by simp [World.initial, Registry.empty, live]
  named := nofun
  sent := by simp [World.initial, Registry.empty]

theorem Posted.spawned {w : World} {pid : Pid} (posted : Posted w) (free : pid ∉ w.used) :
    Posted (w.spawned pid) where
  tickets := congrArg (· + 1) posted.tickets
  bounded := by
    intro c member
    rcases List.mem_cons.1 member with rfl | old
    · exact Nat.lt_succ_self _
    · exact Nat.lt_succ_of_lt (posted.bounded c old)
  serials := by
    refine List.nodup_cons.2 ⟨fun member => ?_, posted.serials⟩
    obtain ⟨c, old, same⟩ := List.mem_map.1 member
    exact absurd (posted.bounded c old) (by simp [same])
  pids := by
    rw [used_eq] at free
    exact List.nodup_cons.2 ⟨free, posted.pids⟩
  senders := by
    intro p k
    have other : ⟨k, p⟩ ∈ w.live → p ≠ pid := by
      rintro member rfl
      exact free (used_eq w ▸ List.mem_map_of_mem member)
    show (p, k) ∈ Registry.bind _ _ _ ↔ _ ∈ _ :: w.live
    rw [Registry.mem_bind, posted.senders, posted.tickets, List.mem_cons, Child.mk.injEq]
    tauto
  named := posted.named
  sent := posted.sent

theorem live_ended {w : World} {child : Child} (running : child ∈ w.running)
    (code signal : Option Int) : (w.ended child code signal).live.Perm w.live := by
  have moved : (w.running.erase child ++ (w.ready.map (·.1) ++ [child])).Perm
      (child :: w.running.erase child ++ w.ready.map (·.1)) := by
    rw [← List.append_assoc]
    exact List.perm_append_singleton _ _
  simp only [live, ended, List.map_append, List.map_cons, List.map_nil]
  exact moved.trans ((List.perm_cons_erase running).symm.append_right _)

theorem Posted.ended {w : World} {child : Child} (posted : Posted w)
    (running : child ∈ w.running) (code signal : Option Int) :
    Posted (w.ended child code signal) := by
  have live := live_ended running code signal
  have children : (w.ended child code signal).children.Perm w.children := live.append_right _
  exact {
    tickets := posted.tickets
    bounded := fun c member => posted.bounded c (children.mem_iff.1 member)
    serials := (children.map _).nodup_iff.2 posted.serials
    pids := (live.map _).nodup_iff.2 posted.pids
    senders := fun p k => (posted.senders p k).trans live.mem_iff.symm
    named := by
      intro e member
      rcases List.mem_append.1 member with old | new
      · exact posted.named e old
      · rw [List.mem_singleton.1 new]
    sent := posted.sent }

theorem live_of_ready {w : World} {e : Child × ExitStatus} {rest : List (Child × ExitStatus)}
    (ready : w.ready = e :: rest) : w.live.Perm (e.1 :: (w.collectOne e rest).live) := by
  simp only [live, collectOne, ready, List.map_cons]
  exact List.perm_middle

theorem children_of_ready {w : World} {e : Child × ExitStatus}
    {rest : List (Child × ExitStatus)} (ready : w.ready = e :: rest) :
    w.children.Perm (w.collectOne e rest).children := by
  have moved := (live_of_ready ready).append_right (w.collected.map (·.1))
  refine moved.trans ?_
  simp only [children, collectOne, List.map_append, List.map_cons, List.map_nil]
  rw [← List.append_assoc]
  exact (List.perm_append_singleton _ _).symm

theorem Posted.sender_of_ready {w : World} {e : Child × ExitStatus}
    {rest : List (Child × ExitStatus)} (posted : Posted w) (ready : w.ready = e :: rest) :
    w.registry.senders.lookup e.2.pid = some e.1.serial := by
  have mine : e.1 ∈ w.live := (live_of_ready ready).mem_iff.2 List.mem_cons_self
  have name : e.2.pid = e.1.pid := posted.named e (ready ▸ List.mem_cons_self)
  rw [name]
  refine Registry.lookup_of_mem ((posted.senders _ _).2 mine) fun ticket entry => ?_
  have theirs := (posted.senders _ _).1 entry
  exact congrArg Child.serial (List.inj_on_of_nodup_map posted.pids theirs mine rfl)

theorem Posted.collectOne {w : World} {e : Child × ExitStatus}
    {rest : List (Child × ExitStatus)} (posted : Posted w) (ready : w.ready = e :: rest) :
    Posted (w.collectOne e rest) := by
  have live := live_of_ready ready
  have children := children_of_ready ready
  have name : e.2.pid = e.1.pid := posted.named e (ready ▸ List.mem_cons_self)
  have sender := posted.sender_of_ready ready
  have pids := (live.map Child.pid).nodup_iff.1 posted.pids
  have collect : w.registry.collect e.2 =
      { w.registry with
        senders := w.registry.senders.filter fun entry => entry.1 != e.2.pid
        sent := (e.1.serial, e.2) :: w.registry.sent } := by
    simp [Registry.collect, sender]
  exact {
    tickets := by
      show (w.registry.collect e.2).nextTicket = w.nextSerial
      rw [collect]
      exact posted.tickets
    bounded := fun c member => posted.bounded c (children.mem_iff.2 member)
    serials := (children.map _).nodup_iff.1 posted.serials
    pids := (List.nodup_cons.1 pids).2
    senders := by
      intro p k
      show (p, k) ∈ (w.registry.collect e.2).senders ↔ _
      have others : ⟨k, p⟩ ∈ (w.collectOne e rest).live → p ≠ e.1.pid := by
        rintro member rfl
        exact (List.nodup_cons.1 pids).1 (List.mem_map.2 ⟨_, member, rfl⟩)
      have mine : (⟨k, p⟩ : Child) = e.1 → p = e.1.pid := fun same => same ▸ rfl
      rw [collect, List.mem_filter, posted.senders, live.mem_iff, List.mem_cons, name]
      simp only [bne_iff_ne, ne_eq]
      tauto
    named := fun d member => posted.named d (ready ▸ List.mem_cons_of_mem _ member)
    sent := by
      intro k s
      show (k, s) ∈ (w.registry.collect e.2).sent ↔ ∃ c, c.serial = k ∧ (c, s) ∈ w.collected ++ [e]
      rw [collect, List.mem_cons, posted.sent, Prod.mk.injEq]
      constructor
      · rintro (⟨rfl, rfl⟩ | ⟨c, serial, old⟩)
        · exact ⟨e.1, rfl, by simp⟩
        · exact ⟨c, serial, List.mem_append_left _ old⟩
      · rintro ⟨c, serial, member⟩
        rcases List.mem_append.1 member with old | new
        · exact .inr ⟨c, serial, old⟩
        · cases List.mem_singleton.1 new
          exact .inl ⟨serial.symm, rfl⟩ }

theorem Event.posted {w next : World} {act : Action} (event : Event w act next)
    (posted : Posted w) : Posted next := by
  cases event with
  | register free => exact posted.spawned free
  | finish running => exact posted.ended running _ _
  | reap => exact reaped_induction (fun _ _ _ posted ready => posted.collectOne ready) w posted
  | fail | claim | refuse | answer => exact { posted with }

theorem Reachable.posted {w : World} (reach : Reachable w) : Posted w := by
  induction reach with
  | initial => exact .initial
  | next _ step ih => exact (event_of_step step).posted ih

theorem Posted.answer_of_collected {w : World} {c : Child} {s : ExitStatus} (posted : Posted w)
    (collected : (c, s) ∈ w.collected) (pid : Pid) :
    w.registry.answer? pid c.serial = some (.status s) := by
  have serials : (w.collected.map fun e => e.1.serial).Nodup := by
    have nodup := posted.serials
    rw [children, List.map_append, List.map_map] at nodup
    exact nodup.of_append_right
  have found : w.registry.sent.lookup c.serial = some s := by
    refine Registry.lookup_of_mem ((posted.sent _ _).2 ⟨c, rfl, collected⟩) fun t entry => ?_
    obtain ⟨d, serial, theirs⟩ := (posted.sent _ _).1 entry
    exact congrArg Prod.snd (List.inj_on_of_nodup_map serials theirs collected serial)
  simp only [Registry.answer?, found]

theorem Posted.answer_of_live {w : World} {c : Child} (posted : Posted w) (live : c ∈ w.live)
    (pid : Pid) : w.registry.answer? pid c.serial = none := by
  have entry := (posted.senders c.pid c.serial).2 live
  unfold Registry.answer?
  cases found : w.registry.sent.lookup c.serial with
  | none =>
      have there : w.registry.senders.any (fun e => e.2 == c.serial) = true :=
        List.any_eq_true.2 ⟨_, entry, by simp⟩
      simp [there]
  | some t =>
      obtain ⟨d, serial, theirs⟩ := (posted.sent _ _).1 (Registry.mem_of_lookup found)
      have nodup := posted.serials
      rw [children, List.map_append] at nodup
      have apart := (List.nodup_append'.1 nodup).2.2 (List.mem_map_of_mem live)
      exact absurd (List.mem_map.2 ⟨d, List.mem_map_of_mem theirs, serial⟩) apart

/-! ## Parents and channels -/

inductive Orderly : World → Prop where
  | initial : Orderly initial
  | next {w next : World} {act : Action} (orderly : Orderly w) (step : w.step? act = some next)
      (fresh : ∀ child ∈ w.owned, act ≠ .register child.pid) : Orderly next

theorem Orderly.reachable {w : World} (orderly : Orderly w) : Reachable w := by
  induction orderly with
  | initial => exact .initial
  | next _ step _ ih => exact ih.next step

structure Owed (w : World) : Prop where
  receivers : ∀ p k, (p, k) ∈ w.registry.receivers ↔ ⟨k, p⟩ ∈ w.owned
  pids : (w.owned.map Child.pid).Nodup
  owned : ∀ c ∈ w.owned, c ∈ w.children
  waiting : ∀ x ∈ w.waiting, x.ticket = x.child.serial ∧ x.child ∈ w.children
  answered : ∀ a ∈ w.answered, ∃ s, a.answer = .status s ∧ (a.child, s) ∈ w.collected

theorem Owed.initial : Owed initial where
  receivers := by simp [World.initial, Registry.empty]
  pids := .nil
  owned := nofun
  waiting := nofun
  answered := nofun

theorem Owed.spawned {w : World} {pid : Pid} (owed : Owed w) (posted : Posted w)
    (fresh : ∀ child ∈ w.owned, child.pid ≠ pid) : Owed (w.spawned pid) where
  receivers := by
    intro p k
    have other : ⟨k, p⟩ ∈ w.owned → p ≠ pid := fun member => fresh _ member
    show (p, k) ∈ Registry.bind _ _ _ ↔ _ ∈ _ :: w.owned
    rw [Registry.mem_bind, owed.receivers, posted.tickets, List.mem_cons, Child.mk.injEq]
    tauto
  pids := by
    refine List.nodup_cons.2 ⟨fun member => ?_, owed.pids⟩
    obtain ⟨c, old, same⟩ := List.mem_map.1 member
    exact fresh c old same
  owned := by
    intro c member
    rcases List.mem_cons.1 member with rfl | old
    · exact List.mem_cons_self
    · exact List.mem_cons_of_mem _ (owed.owned c old)
  waiting := fun x member =>
    ⟨(owed.waiting x member).1, List.mem_cons_of_mem _ (owed.waiting x member).2⟩
  answered := owed.answered

theorem Owed.ended {w : World} {child : Child} (owed : Owed w) (running : child ∈ w.running)
    (code signal : Option Int) : Owed (w.ended child code signal) := by
  have children : (w.ended child code signal).children.Perm w.children :=
    (live_ended running code signal).append_right _
  exact {
    receivers := owed.receivers
    pids := owed.pids
    owned := fun c member => children.mem_iff.2 (owed.owned c member)
    waiting := fun x member =>
      ⟨(owed.waiting x member).1, children.mem_iff.2 (owed.waiting x member).2⟩
    answered := owed.answered }

theorem collect_receivers (r : Registry) (s : ExitStatus) :
    (r.collect s).receivers = r.receivers := by
  unfold Registry.collect
  split <;> rfl

theorem Owed.collectOne {w : World} {e : Child × ExitStatus} {rest : List (Child × ExitStatus)}
    (owed : Owed w) (ready : w.ready = e :: rest) : Owed (w.collectOne e rest) := by
  have children := children_of_ready ready
  exact {
    receivers := by
      intro p k
      show (p, k) ∈ (w.registry.collect e.2).receivers ↔ _
      rw [collect_receivers]
      exact owed.receivers p k
    pids := owed.pids
    owned := fun c member => children.mem_iff.1 (owed.owned c member)
    waiting := fun x member =>
      ⟨(owed.waiting x member).1, children.mem_iff.1 (owed.waiting x member).2⟩
    answered := by
      intro a member
      obtain ⟨s, status, collected⟩ := owed.answered a member
      exact ⟨s, status, List.mem_append_left _ collected⟩ }

theorem Owed.receiver_of_owned {w : World} {child : Child} (owed : Owed w)
    (member : child ∈ w.owned) :
    w.registry.receivers.lookup child.pid = some child.serial := by
  refine Registry.lookup_of_mem ((owed.receivers _ _).2 member) fun ticket entry => ?_
  have theirs := (owed.receivers _ _).1 entry
  exact congrArg Child.serial (List.inj_on_of_nodup_map owed.pids theirs member rfl)

theorem Owed.claimed {w : World} {child : Child} (owed : Owed w) (member : child ∈ w.owned) :
    Owed (w.claimed child child.serial) where
  receivers := by
    intro p k
    have nodup : w.owned.Nodup := .of_map _ owed.pids
    have apart : ⟨k, p⟩ ∈ w.owned → (p ≠ child.pid ↔ (⟨k, p⟩ : Child) ≠ child) := by
      intro other
      refine ⟨fun different same => different (same ▸ rfl), fun different same => ?_⟩
      exact different (List.inj_on_of_nodup_map owed.pids other member same)
    show (p, k) ∈ w.registry.receivers.filter _ ↔ _ ∈ w.owned.erase child
    rw [List.mem_filter, owed.receivers, nodup.mem_erase_iff]
    simp only [bne_iff_ne, ne_eq]
    tauto
  pids := owed.pids.sublist (List.erase_sublist.map _)
  owned := fun c left => owed.owned c (List.mem_of_mem_erase left)
  waiting := by
    intro x waiting
    rcases List.mem_cons.1 waiting with rfl | old
    · exact ⟨rfl, owed.owned _ member⟩
    · exact owed.waiting x old
  answered := owed.answered

theorem Owed.status_of_answer {w : World} {x : Waiting} {answer : WaitAnswer} (owed : Owed w)
    (posted : Posted w) (asked : x ∈ w.waiting)
    (found : w.registry.answer? x.child.pid x.ticket = some answer) :
    ∃ s, answer = .status s ∧ (x.child, s) ∈ w.collected := by
  obtain ⟨ticket, member⟩ := owed.waiting x asked
  rw [ticket] at found
  rcases List.mem_append.1 member with live | collected
  · rw [posted.answer_of_live live] at found
    cases found
  · obtain ⟨⟨c, s⟩, collected, rfl⟩ := List.mem_map.1 collected
    rw [posted.answer_of_collected collected] at found
    exact ⟨s, (Option.some.inj found).symm, collected⟩

theorem Event.owed {w next : World} {act : Action} (event : Event w act next) (owed : Owed w)
    (posted : Posted w) (fresh : ∀ child ∈ w.owned, act ≠ .register child.pid) : Owed next := by
  cases event with
  | @register pid free =>
      refine owed.spawned posted fun c member same => fresh c member ?_
      rw [same]
  | fail => exact owed
  | finish running => exact owed.ended running _ _
  | reap => exact reaped_induction (fun _ _ _ owed ready => owed.collectOne ready) w owed
  | @claim child ticket member found =>
      rw [owed.receiver_of_owned member] at found
      cases found
      exact owed.claimed member
  | @refuse child member missing =>
      rw [owed.receiver_of_owned member] at missing
      cases missing
  | @answer x answer asked found =>
      exact { owed with
        waiting := fun y member => owed.waiting y (List.mem_of_mem_erase member)
        answered := by
          intro a member
          rcases List.mem_cons.1 member with rfl | old
          · exact owed.status_of_answer posted asked found
          · exact owed.answered a old }

theorem Orderly.owed {w : World} (orderly : Orderly w) : Owed w := by
  induction orderly with
  | initial => exact .initial
  | next before step fresh ih =>
      exact (event_of_step step).owed ih before.reachable.posted fresh

/-- In an orderly run every answer that a parent has got is the status of its own child; no parent
is refused, and no status is lost: who waits for a child that was collected can be answered with
its status. -/
theorem own_status_delivered {w : World} (orderly : Orderly w) :
    (∀ a ∈ w.answered, ∃ s, a.answer = .status s ∧ (a.child, s) ∈ w.collected) ∧
      (∀ c ∈ w.owned, w.step? (.claim c) = some (w.claimed c c.serial)) ∧
      ∀ x ∈ w.waiting, ∀ s, (x.child, s) ∈ w.collected →
        ∃ next, w.step? (.answer x) = some next ∧ ⟨x.child, .status s⟩ ∈ next.answered := by
  have owed := orderly.owed
  refine ⟨owed.answered, ?_, ?_⟩
  · intro c member
    simp [step?, Registry.claim, member, owed.receiver_of_owned member, claimed]
  · intro x asked s collected
    have answer := orderly.reachable.posted.answer_of_collected collected x.child.pid
    rw [← (owed.waiting x asked).1] at answer
    simp [step?, asked, answer]

def after? (w : World) : List Action → Option World
  | [] => some w
  | act :: rest => (w.step? act).bind fun next => next.after? rest

theorem reachable_after {w next : World} {acts : List Action} (reach : Reachable w)
    (done : w.after? acts = some next) : Reachable next := by
  induction acts generalizing w with
  | nil =>
      cases done
      exact reach
  | cons act rest ih =>
      obtain ⟨between, step, done⟩ := Option.bind_eq_some_iff.1 done
      exact ih (reach.next step) done

def reuse : List Action :=
  [.register 7, .finish ⟨0, 7⟩ (some 0) none, .reap, .register 7, .finish ⟨1, 7⟩ (some 1) none,
    .reap, .claim ⟨0, 7⟩, .claim ⟨1, 7⟩, .answer ⟨⟨0, 7⟩, 1⟩]

def swapped : World := (initial.after? reuse).get (by decide)

example : swapped.answered =
    [⟨⟨0, 7⟩, .status ⟨7, some 1, none⟩⟩, ⟨⟨1, 7⟩, .notRegistered 7⟩] := by decide

theorem status_of_another_delivered :
    ¬ ∀ w, Reachable w →
      ∀ a ∈ w.answered, ∃ s, a.answer = .status s ∧ (a.child, s) ∈ w.collected := by
  intro own
  have reach : Reachable swapped := reachable_after .initial (Option.some_get _).symm
  obtain ⟨s, status, -⟩ := own swapped reach ⟨⟨1, 7⟩, .notRegistered 7⟩ (by decide)
  cases status

end World

end Overseer.Host
