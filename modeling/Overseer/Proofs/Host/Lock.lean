import Mathlib
import Overseer.Host.Lock
import Overseer.Proofs.Host.Delivery

/-!
# Nothing that is collected is thrown away

Whenever the reaper is told of the end of a child it finds the channel of that child in the
registry, since no parent can be between the spawning and the entering of a child while the reaper
holds the lock, and no child can get the number of another one before the status of that one is
posted.
-/

namespace Overseer.Host

/-! ## The tables of the registry -/

namespace Registry

section Entries

variable {α : Type} {pid : Pid} {entries : List (Pid × α)}

theorem perm_of_lookup {x : α} (keys : (entries.map (·.1)).Nodup)
    (found : entries.lookup pid = some x) :
    entries.Perm ((pid, x) :: entries.filter fun e => e.1 != pid) := by
  obtain ⟨before, after, rfl, -⟩ := List.lookup_eq_some_iff.1 found
  have apart := List.nodup_middle.1 (by simpa using keys)
  have kept : (before ++ (pid, x) :: after).filter (fun e => e.1 != pid) = before ++ after := by
    have others : ∀ e ∈ before ++ after, (e.1 != pid) = true := by
      intro e member
      rw [bne_iff_ne]
      rintro rfl
      have key := List.mem_map_of_mem (f := Prod.fst) member
      exact (List.nodup_cons.1 apart).1 (by simpa using key)
    have split := List.filter_eq_self.2 others
    simpa using split
  rw [kept]
  exact List.perm_middle

theorem keys_filter (p : Pid × α → Bool) (keys : (entries.map (·.1)).Nodup) :
    ((entries.filter p).map (·.1)).Nodup :=
  keys.sublist (List.filter_sublist.map _)

end Entries

theorem keys_bind {pid : Pid} {ticket : Nat} {entries : List (Pid × Nat)}
    (keys : (entries.map (·.1)).Nodup) : ((bind pid ticket entries).map (·.1)).Nodup := by
  refine List.nodup_cons.2 ⟨fun member => ?_, keys_filter _ keys⟩
  obtain ⟨e, kept, same⟩ := List.mem_map.1 member
  simp [same] at kept

def channels (r : Registry) : List Nat := r.senders.map (·.2) ++ r.sent.map (·.1)

structure Tidy (r : Registry) : Prop where
  senders : (r.senders.map (·.1)).Nodup
  receivers : (r.receivers.map (·.1)).Nodup
  channels : r.channels.Nodup
  bounded : ∀ k ∈ r.channels, k < r.nextTicket

variable {r : Registry}

theorem Tidy.empty : Tidy empty where
  senders := .nil
  receivers := .nil
  channels := .nil
  bounded := nofun

theorem Tidy.register (tidy : Tidy r) (pid : Pid) : Tidy (r.register (some pid)) := by
  have fewer : ((r.senders.filter fun e => e.1 != pid).map (·.2) ++ r.sent.map (·.1)).Sublist
      r.channels :=
    (List.filter_sublist.map _).append_right _
  exact {
    senders := keys_bind tidy.senders
    receivers := keys_bind tidy.receivers
    channels := by
      refine List.nodup_cons.2 ⟨fun member => ?_, tidy.channels.sublist fewer⟩
      exact absurd (tidy.bounded _ (fewer.subset member)) (lt_irrefl _)
    bounded := by
      intro k member
      rcases List.mem_cons.1 member with rfl | old
      · exact Nat.lt_succ_self _
      · exact Nat.lt_succ_of_lt (tidy.bounded k (fewer.subset old)) }

theorem collect_of_lookup {s : ExitStatus} {ticket : Nat}
    (found : r.senders.lookup s.pid = some ticket) :
    r.collect s = { r with
      senders := r.senders.filter fun e => e.1 != s.pid
      sent := (ticket, s) :: r.sent } := by
  simp [collect, found]

theorem Tidy.collect (tidy : Tidy r) (s : ExitStatus) : Tidy (r.collect s) := by
  cases found : r.senders.lookup s.pid with
  | none => simpa [Registry.collect, found] using tidy
  | some ticket =>
      have same : (r.collect s).channels.Perm r.channels := by
        have taken := (perm_of_lookup tidy.senders found).map Prod.snd
        rw [collect_of_lookup found]
        exact List.perm_middle.trans (taken.symm.append_right _)
      have next : (r.collect s).nextTicket = r.nextTicket := by rw [collect_of_lookup found]
      exact {
        senders := by
          rw [collect_of_lookup found]
          exact keys_filter _ tidy.senders
        receivers := by
          rw [collect_of_lookup found]
          exact tidy.receivers
        channels := same.nodup_iff.2 tidy.channels
        bounded := fun k member => next ▸ tidy.bounded k (same.mem_iff.1 member) }

theorem Tidy.claimed (tidy : Tidy r) (pid : Pid) :
    Tidy { r with receivers := r.receivers.filter fun e => e.1 != pid } :=
  { tidy with receivers := keys_filter _ tidy.receivers }

theorem Tidy.not_sent (tidy : Tidy r) {pid : Pid} {k : Nat} (entry : (pid, k) ∈ r.senders) :
    k ∉ r.sent.map (·.1) :=
  (List.nodup_append'.1 tidy.channels).2.2 (List.mem_map_of_mem (f := Prod.snd) entry)

theorem Tidy.answer_of_sender (tidy : Tidy r) {pid p : Pid} {k : Nat}
    (entry : (pid, k) ∈ r.senders) : r.answer? p k = none := by
  have silent : r.sent.lookup k = none :=
    List.lookup_eq_none_iff.2 fun e member => by
      rw [bne_iff_ne]
      rintro rfl
      exact tidy.not_sent entry (List.mem_map_of_mem member)
  have there : r.senders.any (fun e => e.2 == k) = true := List.any_eq_true.2 ⟨_, entry, by simp⟩
  simp [answer?, silent, there]

end Registry

namespace World

theorem Posted.reordered {w : World} {ready : List (Child × ExitStatus)} (posted : Posted w)
    (same : ready.Perm w.ready) : Posted { w with ready } := by
  have live : ({ w with ready } : World).live.Perm w.live := (same.map _).append_left _
  have children : ({ w with ready } : World).children.Perm w.children := live.append_right _
  exact { posted with
    bounded := fun c member => posted.bounded c (children.mem_iff.1 member)
    serials := (children.map _).nodup_iff.2 posted.serials
    pids := (live.map _).nodup_iff.2 posted.pids
    senders := fun p k => (posted.senders p k).trans live.mem_iff.symm
    named := fun e member => posted.named e (same.mem_iff.1 member) }

theorem Posted.senders_perm {w : World} (posted : Posted w) (once : w.registry.senders.Nodup) :
    w.registry.senders.Perm (w.live.map fun c => (c.pid, c.serial)) := by
  have pids : (w.live.map Child.pid).Nodup := posted.pids
  have keys : (w.live.map fun c => (c.pid, c.serial)).Nodup := .of_map Prod.fst (by simpa)
  refine (List.perm_ext_iff_of_nodup once keys).2 ?_
  rintro ⟨p, k⟩
  rw [posted.senders]
  constructor
  · exact fun live => List.mem_map.2 ⟨_, live, rfl⟩
  · intro entry
    obtain ⟨c, live, same⟩ := List.mem_map.1 entry
    cases same
    exact live

end World

namespace LockedWorld

variable {l next : LockedWorld} {act : Action}

/-! ## What may happen -/

inductive Turn (l : LockedWorld) : Action → LockedWorld → Prop where
  | lock (free : l.holder = .nobody) : Turn l .lock { l with holder := .spawning }
  | spawn {pid : Pid} (holds : l.holder = .spawning) (unused : pid ∉ l.used) :
      Turn l (.spawn pid)
        { l with
          running := ⟨l.nextSerial, pid⟩ :: l.running
          nextSerial := l.nextSerial + 1
          holder := .entering ⟨l.nextSerial, pid⟩ }
  | fail (holds : l.holder = .spawning) : Turn l .fail { l with holder := .nobody }
  | enter {child : Child} (holds : l.holder = .entering child) :
      Turn l .enter
        { l with
          registry := l.registry.register (some child.pid)
          owned := child :: l.owned
          entered := (child, l.registry.nextTicket) :: l.entered
          holder := .nobody }
  | finish {child : Child} {e : WaitEvent} (code signal : Option Int)
      (running : child ∈ l.running) :
      Turn l (.finish child e) { l with toWorld := l.toWorld.ended child code signal }
  | wake (free : l.holder = .nobody) : Turn l .wake { l with holder := .asking }
  | goOn {report : Report} (holds : l.holder = .asking) : Turn l (.ask report) l
  | release {report : Report} (holds : l.holder = .asking) :
      Turn l (.ask report) { l with holder := .nobody }
  | collect {report : Report} {r : Child × ExitStatus} (holds : l.holder = .asking)
      (ready : r ∈ l.ready) :
      Turn l (.ask report)
        { l with
          ready := l.ready.erase r
          collected := l.collected ++ [r]
          holder := .posting r.1 r.2 }
  | post {child : Child} {status : ExitStatus} (holds : l.holder = .posting child status) :
      Turn l .post { l with registry := l.registry.collect status, holder := .asking }
  | claim {child : Child} {w : World} (free : l.holder = .nobody)
      (event : World.Event l.toWorld (.claim child) w) :
      Turn l (.claim child) { l with toWorld := w }
  | answer {x : Waiting} {w : World} (event : World.Event l.toWorld (.answer x) w) :
      Turn l (.answer x) { l with toWorld := w }

theorem turn_of_told {e : WaitEvent} (holds : l.holder = .asking)
    (told : l.told? e = some next) : Turn l (.ask (.event e)) next := by
  unfold told? at told
  split at told
  · cases told
    exact .goOn holds
  · obtain ⟨r, found, rfl⟩ := Option.map_eq_some_iff.1 told
    exact .collect holds (List.mem_of_find?_eq_some found)

theorem turn_of_hear {report : Report} (holds : l.holder = .asking)
    (heard : l.hear? report = some next) : Turn l (.ask report) next := by
  cases report with
  | interrupted =>
      cases heard
      exact .goOn holds
  | failed =>
      cases heard
      exact .release holds
  | noChildren =>
      simp only [hear?] at heard
      split at heard <;> cases heard
      exact .release holds
  | event e =>
      cases e with
      | stillAlive =>
          simp only [hear?] at heard
          split at heard <;> cases heard
          exact .release holds
      | exited | signaled | stopped | continued => exact turn_of_told holds heard

theorem turn_of_step (step : l.step? act = some next) : Turn l act next := by
  cases act with
  | lock =>
      simp only [step?] at step
      split at step <;> cases step
      rename_i may
      obtain ⟨-, free⟩ : l.served = true ∧ l.holder = .nobody := by simpa using may
      exact .lock free
  | spawn pid =>
      simp only [step?] at step
      split at step <;> cases step
      rename_i may
      exact .spawn may.1 may.2
  | fail =>
      simp only [step?] at step
      split at step <;> cases step
      exact .fail ‹_›
  | enter =>
      simp only [step?] at step
      split at step <;> cases step
      exact .enter ‹_›
  | finish child e =>
      simp only [step?] at step
      split at step
      · split at step
        · obtain ⟨w, ended, rfl⟩ := Option.map_eq_some_iff.1 step
          cases World.event_of_step ended with
          | finish running => exact .finish _ _ running
        · cases step
      · cases step
  | wake =>
      simp only [step?] at step
      split at step <;> cases step
      rename_i may
      obtain ⟨-, free⟩ : l.served = true ∧ l.holder = .nobody := by simpa using may
      exact .wake free
  | ask report =>
      simp only [step?] at step
      split at step
      · exact turn_of_hear ‹_› step
      · cases step
  | post =>
      simp only [step?] at step
      split at step <;> cases step
      exact .post ‹_›
  | claim child =>
      simp only [step?] at step
      split at step
      · obtain ⟨w, happens, rfl⟩ := Option.map_eq_some_iff.1 step
        exact .claim ‹_› (World.event_of_step happens)
      · cases step
  | answer x =>
      obtain ⟨w, happens, rfl⟩ := Option.map_eq_some_iff.1 step
      exact .answer (World.event_of_step happens)

/-! ## What every turn preserves -/

def settled (l : LockedWorld) : Registry :=
  match l.holder with
  | .entering child => l.registry.register (some child.pid)
  | .posting _ status => l.registry.collect status
  | _ => l.registry

/-- The children that are entered then. -/
def known (l : LockedWorld) : List (Child × Nat) :=
  match l.holder with
  | .entering child => (child, l.registry.nextTicket) :: l.entered
  | _ => l.entered

structure Kept (l : LockedWorld) : Prop where
  tidy : l.registry.Tidy
  posted : World.Posted { l.toWorld with registry := l.settled }
  entered : l.known.Perm (l.children.map fun c => (c, c.serial))
  posting : ∀ c s, l.holder = .posting c s →
    l.registry.senders.lookup s.pid = some c.serial ∧ (c, s) ∈ l.collected
  awaited : ∀ p k, (p, k) ∈ l.registry.senders →
    (p, k) ∈ l.registry.receivers ∨ ∃ x ∈ l.waiting, x.ticket = k

theorem Kept.initial (served : Bool) : Kept (.initial served) where
  tidy := .empty
  posted := .initial
  entered := .nil
  posting := nofun
  awaited := nofun

theorem Kept.spawned {pid : Pid} (kept : Kept l) (holds : l.holder = .spawning)
    (unused : pid ∉ l.used) :
    Kept { l with
      running := ⟨l.nextSerial, pid⟩ :: l.running
      nextSerial := l.nextSerial + 1
      holder := .entering ⟨l.nextSerial, pid⟩ } := by
  obtain ⟨w, served, holder, entered⟩ := l
  subst holds
  have posted : w.Posted := { kept.posted with }
  have ticket : w.registry.nextTicket = w.nextSerial := posted.tickets
  exact {
    tidy := kept.tidy
    posted := { posted.spawned unused with }
    entered := by
      show ((⟨w.nextSerial, pid⟩ : Child), w.registry.nextTicket) :: entered |>.Perm _
      rw [ticket]
      exact kept.entered.cons _
    posting := nofun
    awaited := kept.awaited }

theorem Kept.ended {child : Child} (kept : Kept l) (running : child ∈ l.running)
    (code signal : Option Int) :
    Kept { l with toWorld := l.toWorld.ended child code signal } where
  tidy := kept.tidy
  posted := kept.posted.ended running code signal
  entered := by
    have children : (l.toWorld.ended child code signal).children.Perm l.children :=
      (World.live_ended running code signal).append_right _
    exact kept.entered.trans (children.map _).symm
  posting := kept.posting
  awaited := kept.awaited

theorem Kept.collected {r : Child × ExitStatus} (kept : Kept l) (holds : l.holder = .asking)
    (ready : r ∈ l.ready) :
    Kept { l with
      ready := l.ready.erase r
      collected := l.collected ++ [r]
      holder := .posting r.1 r.2 } := by
  obtain ⟨w, served, holder, entered⟩ := l
  subst holds
  have first : (r :: w.ready.erase r).Perm w.ready := (List.perm_cons_erase ready).symm
  have posted : ({ w with ready := r :: w.ready.erase r } : World).Posted :=
    World.Posted.reordered kept.posted first
  have sender := posted.sender_of_ready rfl
  have children := World.children_of_ready (w := { w with ready := r :: w.ready.erase r }) rfl
  exact {
    tidy := kept.tidy
    posted := posted.collectOne rfl
    entered := by
      have before := ((first.map Prod.fst).append_left w.running).append_right
        (w.collected.map Prod.fst)
      exact kept.entered.trans ((before.symm.trans children).map _)
    posting := by
      rintro c s ⟨⟩
      exact ⟨sender, List.mem_append_right _ List.mem_cons_self⟩
    awaited := kept.awaited }

theorem Kept.entering {child : Child} (kept : Kept l) (holds : l.holder = .entering child) :
    Kept { l with
      registry := l.registry.register (some child.pid)
      owned := child :: l.owned
      entered := (child, l.registry.nextTicket) :: l.entered
      holder := .nobody } := by
  obtain ⟨w, served, holder, entered⟩ := l
  subst holds
  exact {
    tidy := kept.tidy.register _
    posted := { kept.posted with }
    entered := kept.entered
    posting := nofun
    awaited := by
      intro p k entry
      show (p, k) ∈ Registry.bind _ _ _ ∨ _
      rw [Registry.mem_bind]
      rcases Registry.mem_bind.1 entry with new | ⟨other, old⟩
      · exact .inl (.inl new)
      · exact (kept.awaited p k old).imp_left fun there => .inr ⟨other, there⟩ }

theorem Kept.delivered {child : Child} {status : ExitStatus} (kept : Kept l)
    (holds : l.holder = .posting child status) :
    Kept { l with registry := l.registry.collect status, holder := .asking } := by
  obtain ⟨w, served, holder, entered⟩ := l
  subst holds
  have collect := Registry.collect_of_lookup (kept.posting child status rfl).1
  exact {
    tidy := kept.tidy.collect _
    posted := kept.posted
    entered := kept.entered
    posting := nofun
    awaited := by
      intro p k entry
      simp only [collect] at entry ⊢
      exact kept.awaited p k (List.mem_of_mem_filter entry) }

theorem Kept.claimed {child : Child} {w : World} (kept : Kept l) (free : l.holder = .nobody)
    (event : World.Event l.toWorld (.claim child) w) : Kept { l with toWorld := w } := by
  obtain ⟨v, served, holder, entered⟩ := l
  subst free
  have posted : w.Posted := event.posted kept.posted
  cases event with
  | @claim _ ticket owned found =>
      exact {
        tidy := kept.tidy.claimed _
        posted := posted
        entered := kept.entered
        posting := nofun
        awaited := by
          intro p k entry
          rcases kept.awaited p k entry with there | ⟨x, waits, same⟩
          · have split := (Registry.perm_of_lookup kept.tidy.receivers found).mem_iff.1 there
            rcases List.mem_cons.1 split with taken | left
            · cases taken
              exact .inr ⟨_, List.mem_cons_self, rfl⟩
            · exact .inl left
          · exact .inr ⟨x, List.mem_cons_of_mem _ waits, same⟩ }
  | refuse owned missing => exact { kept with posted := posted, posting := nofun }

theorem Kept.answered {x : Waiting} {w : World} (kept : Kept l)
    (event : World.Event l.toWorld (.answer x) w) : Kept { l with toWorld := w } := by
  obtain ⟨v, served, holder, entered⟩ := l
  cases event with
  | @answer _ answer asked found =>
      have awaited : ∀ p k, (p, k) ∈ v.registry.senders →
          (p, k) ∈ v.registry.receivers ∨ ∃ y ∈ v.waiting.erase x, y.ticket = k := by
        intro p k entry
        refine (kept.awaited p k entry).imp_right ?_
        rintro ⟨y, waits, rfl⟩
        refine ⟨y, (List.mem_erase_of_ne ?_).2 waits, rfl⟩
        rintro rfl
        rw [kept.tidy.answer_of_sender entry] at found
        cases found
      -- What is left to settle depends on who holds the lock only.
      cases holder <;>
        exact { kept with posted := { kept.posted with }, awaited }

theorem Turn.kept (turn : Turn l act next) (kept : Kept l) : Kept next := by
  cases turn with
  | spawn holds unused => exact kept.spawned holds unused
  | enter holds => exact kept.entering holds
  | finish code signal running => exact kept.ended running code signal
  | collect holds ready => exact kept.collected holds ready
  | post holds => exact kept.delivered holds
  | claim free event => exact kept.claimed free event
  | answer event => exact kept.answered event
  | goOn => exact kept
  | lock holds | fail holds | wake holds | release holds =>
      -- Who holds the lock has nothing at hand, before and after.
      obtain ⟨w, served, holder, entered⟩ := l
      subst holds
      exact { kept with posting := nofun }

theorem Reachable.kept {served : Bool} (reach : Reachable served l) : Kept l := by
  induction reach with
  | initial => exact .initial served
  | next _ step ih => exact (turn_of_step step).kept ih

/-! ## Every status is posted -/

section Statuses

variable {c : Child} {s : ExitStatus}

theorem Kept.serials (kept : Kept l) : (l.children.map Child.serial).Nodup := kept.posted.serials

theorem Kept.not_collected (kept : Kept l) (live : c ∈ l.live) :
    c ∉ l.collected.map (·.1) :=
  (List.nodup_append'.1 (.of_map _ kept.serials)).2.2 live

theorem Kept.filter_children (kept : Kept l) :
    (l.children.filter fun c => c ∉ l.collected.map (·.1)) = l.live := by
  have stays : ∀ c ∈ l.live, decide (c ∉ l.collected.map (·.1)) = true := fun c live =>
    decide_eq_true (kept.not_collected live)
  have goes : ∀ c ∈ l.collected.map (·.1), ¬decide (c ∉ l.collected.map (·.1)) = true :=
    fun c member => by simpa using member
  rw [World.children, List.filter_append, List.filter_eq_self.2 stays,
    List.filter_eq_nil_iff.2 goes, List.append_nil]

theorem Kept.pending (kept : Kept l) (free : l.holder = .nobody) :
    l.registry.pending = (l.entered.filter fun e => e.1 ∉ l.collected.map (·.1)).length := by
  have settled : l.settled = l.registry := by simp [settled, free]
  have known : l.known = l.entered := by simp [known, free]
  have posted := kept.posted
  have entered := kept.entered
  rw [settled] at posted
  rw [known] at entered
  have senders := (posted.senders_perm (.of_map _ kept.tidy.senders)).length_eq
  have left := (entered.filter fun e => e.1 ∉ l.collected.map (·.1)).length_eq
  rw [List.filter_map, List.length_map] at left
  simp only [Function.comp_def, kept.filter_children] at left
  rw [left, Registry.pending]
  exact senders.trans (List.length_map _)

theorem Kept.once (kept : Kept l) :
    (l.entered.map (·.1)).Nodup ∧ (l.entered.map (·.2)).Nodup ∧
      (l.collected.map (·.1)).Nodup := by
  have entered : l.entered.Sublist l.known := by
    unfold known
    split
    · exact List.sublist_cons_self _ _
    · exact .refl _
  have children : l.children.Nodup := .of_map _ kept.serials
  have firsts : (l.known.map (·.1)).Nodup :=
    (kept.entered.map _).nodup_iff.2 (by simpa [Function.comp_def] using children)
  have seconds : (l.known.map (·.2)).Nodup :=
    (kept.entered.map _).nodup_iff.2 (by simpa [Function.comp_def] using kept.serials)
  exact ⟨firsts.sublist (entered.map _), seconds.sublist (entered.map _),
    (List.nodup_append'.1 children).2.1⟩

end Statuses

def after? (l : LockedWorld) : List Action → Option LockedWorld
  | [] => some l
  | act :: rest => (l.step? act).bind fun next => next.after? rest

theorem reachable_after {served : Bool} {acts : List Action} (reach : Reachable served l)
    (done : l.after? acts = some next) : Reachable served next := by
  induction acts generalizing l with
  | nil =>
      cases done
      exact reach
  | cons act rest ih =>
      obtain ⟨between, step, done⟩ := Option.bind_eq_some_iff.1 done
      exact ih (reach.next step) done

def hurried : List Action :=
  [.lock, .spawn 7, .finish ⟨0, 7⟩ (.exited 7 0), .enter, .wake, .ask .interrupted,
    .ask (.event (.exited 7 0)), .post, .ask .noChildren, .lock, .fail, .lock, .spawn 7, .enter,
    .wake, .ask (.event (.stopped 7 19)), .finish ⟨1, 7⟩ (.signaled 7 9 false),
    .ask (.event (.signaled 7 9 false))]

def posting : LockedWorld := ((initial true).after? hurried).get (by decide)

example : (initial true).after? [.lock, .spawn 7, .finish ⟨0, 7⟩ (.exited 7 0), .wake] = none := by
  decide

end LockedWorld

end Overseer.Host
