import Overseer.Proofs.Manager.Ledger

/-!
# No command is lost and none is answered twice

The ledger knows of every place what is there, and its answers are all that the handlers of results
ever hear. So a command is at one place at a time, and it is answered when it is done, and once.
-/

namespace Overseer.Manager

namespace Ledger

variable {L L' : Ledger} {s next : System} {act : Action} {source target p q : Place} {e : Errand}
  {before after : List Ticket} {t : Ticket} {intake : Option Errand} {n : Nat}

/-! ## What is at a place -/

theorem held_issue (L : Ledger) (e : Errand) (p q : Place) :
    (L.issue e p).held q = L.held q ++ if p = q then [e] else [] := by
  by_cases here : p = q <;> simp [held, issue, here]

theorem Split.held_other (split : L.Split source before t after) (notSource : p ≠ source)
    (notTarget : p ≠ target) : (L.shift source target).held p = L.held p := by
  rw [split.shift_eq, held, held, split.tickets]
  simp [split.place, Ne.symm notSource, Ne.symm notTarget]

theorem Split.held_source (split : L.Split source before t after) (different : target ≠ source) :
    t.toErrand :: (L.shift source target).held source = L.held source := by
  have missed : before.filter (fun a => a.place == source) = [] := by
    simpa using split.ahead
  rw [split.shift_eq, held, held, split.tickets]
  simp [split.place, missed, different]

theorem Split.held_target (split : L.Split source before t after) (different : target ≠ source)
    (fresh : ∀ a ∈ after, a.place ≠ target) :
    (L.shift source target).held target = L.held target ++ [t.toErrand] := by
  have missed : after.filter (fun a => a.place == target) = [] := by
    simpa using fresh
  rw [split.shift_eq, held, held, split.tickets]
  simp [split.place, missed, Ne.symm different]

theorem Split.member (split : L.Split source before t after) : t ∈ L.tickets := by
  rw [split.tickets]
  exact List.mem_append_right _ List.mem_cons_self

theorem Split.getElem? (split : L.Split source before t after) :
    L.tickets[L.first source]? = some t := by
  rw [split.first_eq, split.tickets]
  simp

theorem Split.mem_shift (split : L.Split source before t after) {b : Ticket}
    (member : b ∈ (L.shift source target).tickets) :
    b ∈ L.tickets ∨ b = { t with place := target } := by
  rw [split.shift_eq] at member
  rw [split.tickets]
  simp only [List.mem_append, List.mem_cons] at member ⊢
  tauto

theorem mem_held (member : t ∈ L.tickets) (here : t.place = p) : t.toErrand ∈ L.held p :=
  List.mem_map_of_mem (List.mem_filter.2 ⟨member, by simpa using here⟩)

/-! ## The order of the commands of a queue -/

structure Ordered (L : Ledger) : Prop where
  siblings : L.tickets.Pairwise fun a b =>
    a.toErrand.Sibling b.toErrand → b.place.stage ≤ a.place.stage
  unqueued : ∀ t ∈ L.tickets, t.place = .line → t.origin ≠ .released
  named : ∀ t ∈ L.tickets, t.origin = .released → t.command.queue ≠ ""

theorem Ordered.stage_le (ordered : L.Ordered) {m n : Nat} {u v : Ticket} (earlier : m < n)
    (one : L.tickets[m]? = some u) (other : L.tickets[n]? = some v)
    (sibling : u.toErrand.Sibling v.toErrand) : v.place.stage ≤ u.place.stage := by
  obtain ⟨first, rfl⟩ := List.getElem?_eq_some_iff.1 one
  obtain ⟨second, rfl⟩ := List.getElem?_eq_some_iff.1 other
  exact List.pairwise_iff_getElem.1 ordered.siblings m n first second earlier sibling

theorem Ordered.issue (ordered : L.Ordered)
    (low : e.origin = .released → p = .inbox ∧ e.command.queue ≠ "") : (L.issue e p).Ordered := by
  refine ⟨List.pairwise_append.2 ⟨ordered.siblings, List.pairwise_singleton _ _, ?_⟩, ?_, ?_⟩
  · intro a _ b new sibling
    rw [List.mem_singleton.1 new] at sibling ⊢
    rw [(low sibling.2.1).1]
    exact Nat.zero_le _
  · intro b member inLine released
    rcases List.mem_append.1 member with old | new
    · exact ordered.unqueued b old inLine released
    · rw [List.mem_singleton.1 new] at inLine released
      rw [(low released).1] at inLine
      cases inLine
  · intro b member released
    rcases List.mem_append.1 member with old | new
    · exact ordered.named b old released
    · rw [List.mem_singleton.1 new] at released ⊢
      exact (low released).2

theorem exists_conveyed (located : L.Located s) (conveys : s.Conveys next source target e) :
    ∃ before t after, L.Split source before t after ∧ t.toErrand = e :=
  exists_split ((located source conveys.served).trans conveys.taken)

theorem Split.clear (split : L.Split source before t after) (located : L.Located s)
    (ordered : L.Ordered) (conveys : s.Conveys next source target t.toErrand) :
    ∀ a ∈ before, a.toErrand.Sibling t.toErrand → target.stage ≤ a.place.stage := by
  intro a earlier sibling
  have member : a ∈ L.tickets := by
    rw [split.tickets]
    exact List.mem_append_left _ earlier
  have late : source.stage ≤ a.place.stage := by
    have pairs := ordered.siblings
    rw [split.tickets, List.pairwise_append] at pairs
    have pair := pairs.2.2 a earlier t List.mem_cons_self sibling
    rwa [split.place] at pair
  by_contra early
  have named := ordered.named a member sibling.1
  rw [sibling.2.2] at named
  obtain ⟨served, others⟩ := conveys.clear sibling.2.1 named a.place (split.ahead a earlier)
    (fun inLine => ordered.unqueued a member inLine sibling.1) late (Nat.lt_of_not_le early)
  have here := mem_held member rfl
  rw [located a.place served] at here
  exact others _ here ⟨sibling.2.1, sibling.1, sibling.2.2.symm⟩

theorem Split.fresh (split : L.Split source before t after) (located : L.Located s)
    (ordered : L.Ordered) (conveys : s.Conveys next source target t.toErrand)
    (served : s.Served target) : ∀ a ∈ after, a.place ≠ target := by
  intro a later there
  have member : a ∈ L.tickets := by
    rw [split.tickets]
    exact List.mem_append_right _ (List.mem_cons_of_mem _ later)
  have here := mem_held member there
  rw [located target served] at here
  have pairs := ordered.siblings
  rw [split.tickets, List.pairwise_append, List.pairwise_cons] at pairs
  have pair := pairs.2.1.1 a later (conveys.behind _ here)
  rw [there, split.place] at pair
  exact absurd conveys.forward (Nat.not_lt_of_le pair)

theorem Ordered.convey (ordered : L.Ordered) (located : L.Located s)
    (conveys : s.Conveys next source target e) : (L.shift source target).Ordered := by
  obtain ⟨before, t, after, split, rfl⟩ := exists_conveyed located conveys
  have clear := split.clear located ordered conveys
  have pairs := ordered.siblings
  rw [split.tickets, List.pairwise_append, List.pairwise_cons] at pairs
  obtain ⟨earlier, ⟨next, later⟩, across⟩ := pairs
  have notLine : target ≠ .line := by
    rintro rfl
    exact absurd conveys.forward (Nat.not_lt_zero _)
  refine ⟨?_, ?_, ?_⟩
  · rw [split.shift_eq]
    refine List.pairwise_append.2 ⟨earlier,
      List.pairwise_cons.2 ⟨fun b member sibling => ?_, later⟩, fun a member b other sibling => ?_⟩
    · have low := next b member sibling
      rw [split.place] at low
      exact Nat.le_trans low (Nat.le_of_lt conveys.forward)
    · rcases List.mem_cons.1 other with rfl | other
      · exact clear a member sibling
      · exact across a member b (List.mem_cons_of_mem _ other) sibling
  · intro b member
    rcases split.mem_shift member with old | rfl
    · exact ordered.unqueued b old
    · exact fun inLine => absurd inLine notLine
  · intro b member
    rcases split.mem_shift member with old | rfl
    · exact ordered.named b old
    · exact ordered.named t split.member

theorem Ordered.tell (ordered : L.Ordered) : (L.tell n s next).Ordered :=
  ⟨ordered.siblings, ordered.unqueued, ordered.named⟩

theorem Located.issue (located : L.Located s) (brings : s.Brings next p e) :
    (L.issue e p).Located next := by
  intro q served
  rw [held_issue]
  by_cases here : p = q
  · subst here
    obtain ⟨before, came⟩ := brings.came served
    rw [if_pos rfl, located p before, came]
  · obtain ⟨before, kept⟩ := brings.kept q (Ne.symm here) served
    rw [if_neg here, List.append_nil, located q before, kept]

theorem Located.convey (located : L.Located s) (ordered : L.Ordered)
    (conveys : s.Conveys next source target e) : (L.shift source target).Located next := by
  obtain ⟨before, t, after, split, rfl⟩ := exists_conveyed located conveys
  have different : target ≠ source := by
    rintro rfl
    exact absurd conveys.forward (Nat.lt_irrefl _)
  intro p served
  by_cases atTarget : p = target
  · subst atTarget
    obtain ⟨before, came⟩ := conveys.came served
    rw [split.held_target different (split.fresh located ordered conveys before), came,
      located p before]
  · by_cases atSource : p = source
    · subst atSource
      have held := split.held_source different
      rw [located p conveys.served, conveys.taken] at held
      exact (List.cons.inj held).2
    · obtain ⟨before, kept⟩ := conveys.kept p atSource atTarget served
      rw [split.held_other atSource atTarget, located p before, kept]

/-! ## The answers -/

structure Answered (L : Ledger) (s : System) : Prop where
  heard : L.answers.flatMap Answer.calls = s.calls
  known : ∀ a ∈ L.answers, a.ticket < L.tickets.length
  pending : ∀ {n t}, L.tickets[n]? = some t → t.place.isDone = false → L.answersTo n = []
  done : ∀ {n t}, L.tickets[n]? = some t → t.place.isDone = true →
    ∃ r routes, s.Settled t.toErrand t.place r ∧
      L.answersTo n = [⟨n, routes, announcement routes t.command r⟩]

theorem answersTo_tell (L : Ledger) (n m : Nat) (s next : System) :
    (L.tell n s next).answersTo m = L.answersTo m ++
      if n = m then [⟨n, s.routes, next.calls.drop s.calls.length⟩] else [] := by
  by_cases same : n = m <;> simp [answersTo, tell, same]

theorem Answered.unknown (answered : L.Answered s) {m : Nat} (beyond : L.tickets.length ≤ m) :
    L.answersTo m = [] := by
  refine List.filter_eq_nil_iff.2 fun a member => ?_
  have bound := answered.known a member
  simp only [beq_iff_eq]
  omega

theorem Answered.about (answered : L.Answered s) {a : Answer} (member : a ∈ L.answers) :
    ∃ t r, L.tickets[a.ticket]? = some t ∧ s.Settled t.toErrand t.place r ∧
      a.calls = announcement a.routes t.command r := by
  obtain ⟨t, ticket⟩ : ∃ t, L.tickets[a.ticket]? = some t :=
    ⟨_, List.getElem?_eq_getElem (answered.known a member)⟩
  have own : a ∈ L.answersTo a.ticket := List.mem_filter.2 ⟨member, by simp⟩
  cases isDone : t.place.isDone with
  | false =>
      rw [answered.pending ticket isDone] at own
      cases own
  | true =>
      obtain ⟨r, routes, settled, answers⟩ := answered.done ticket isDone
      rw [answers, List.mem_singleton] at own
      refine ⟨t, r, ticket, settled, ?_⟩
      rw [congrArg Answer.calls own, congrArg Answer.routes own]

theorem Answered.unanswered (answered : L.Answered s) (split : L.Split source before t after)
    (conveys : s.Conveys next source target e) : L.answersTo (L.first source) = [] :=
  answered.pending split.getElem? (by rw [split.place]; exact conveys.pending)

theorem Answered.keep (answered : L.Answered s) (quiet : next.calls = s.calls)
    (stays : ∀ {e p r}, s.Settled e p r → next.Settled e p r) : L.Answered next where
  heard := by rw [quiet]; exact answered.heard
  known := answered.known
  pending := answered.pending
  done found isDone := by
    obtain ⟨r, routes, settled, answers⟩ := answered.done found isDone
    exact ⟨r, routes, stays settled, answers⟩

structure Puts (L L' : Ledger) (n : Nat) (e : Errand) (p : Place) : Prop where
  answers : L'.answers = L.answers
  length : L.tickets.length ≤ L'.tickets.length
  here : L'.tickets[n]? = some ⟨e, p⟩
  others : ∀ m, m ≠ n → ∀ t, L'.tickets[m]? = some t → L.tickets[m]? = some t

theorem puts_issue (L : Ledger) (e : Errand) (p : Place) :
    L.Puts (L.issue e p) L.tickets.length e p where
  answers := rfl
  length := by simp [issue]
  here := List.getElem?_concat_length
  others m other t found := by
    rw [issue, List.getElem?_append] at found
    split at found
    · exact found
    · rw [List.getElem?_eq_none (by rw [List.length_singleton]; omega)] at found
      cases found

theorem Split.puts (split : L.Split source before t after) (target : Place) :
    L.Puts (L.shift source target) (L.first source) t.toErrand target where
  answers := rfl
  length := by simp [shift]
  here := by
    rw [split.shift_eq, split.first_eq]
    simp
  others m other t found := by
    simpa [shift, List.getElem?_modify, Ne.symm other] using found

theorem Answered.put (answered : L.Answered s) (puts : L.Puts L' n e p)
    (unanswered : L.answersTo n = []) (quiet : next.calls = s.calls) (pending : p.isDone = false)
    (stays : ∀ {e p r}, s.Settled e p r → next.Settled e p r) : L'.Answered next where
  heard := by rw [puts.answers, quiet]; exact answered.heard
  known a member :=
    Nat.lt_of_lt_of_le (answered.known a (puts.answers ▸ member)) puts.length
  pending {m t} found isPending := by
    rw [answersTo, puts.answers]
    by_cases same : m = n
    · subst same
      exact unanswered
    · exact answered.pending (puts.others m same t found) isPending
  done {m t} found isDone := by
    rw [answersTo, puts.answers]
    by_cases same : m = n
    · subst same
      rw [puts.here] at found
      cases found
      rw [pending] at isDone
      cases isDone
    · obtain ⟨r, routes, settled, answers⟩ := answered.done (puts.others m same t found) isDone
      exact ⟨r, routes, stays settled, answers⟩

theorem Answered.conclude (answered : L.Answered s) (puts : L.Puts L' n e p) {r : JobResult}
    (unanswered : L.answersTo n = [])
    (heard : next.calls = s.calls ++ announcement s.routes e.command r)
    (settled : next.Settled e p r) (stays : ∀ {e p r}, s.Settled e p r → next.Settled e p r) :
    (L'.tell n s next).Answered next := by
  have news : next.calls.drop s.calls.length = announcement s.routes e.command r := by
    rw [heard, List.drop_left]
  have earlier (m : Nat) : L'.answersTo m = L.answersTo m := by
    rw [answersTo, puts.answers, answersTo]
  refine ⟨?_, fun a member => ?_, fun {m t} found pending => ?_, fun {m t} found isDone => ?_⟩
  · rw [tell, puts.answers, news, heard, ← answered.heard]
    simp
  · rw [tell, puts.answers] at member
    rcases List.mem_append.1 member with old | new
    · exact Nat.lt_of_lt_of_le (answered.known a old) puts.length
    · rw [List.mem_singleton.1 new]
      exact (List.getElem?_eq_some_iff.1 puts.here).1
  · have other : m ≠ n := by
      rintro rfl
      rw [tell, puts.here] at found
      cases found
      rw [settled.isDone] at pending
      cases pending
    rw [answersTo_tell, if_neg (Ne.symm other), List.append_nil, earlier]
    exact answered.pending (puts.others m other t found) pending
  · by_cases same : m = n
    · subst same
      rw [tell, puts.here] at found
      cases found
      refine ⟨r, s.routes, settled, ?_⟩
      rw [answersTo_tell, if_pos rfl, earlier, unanswered, news]
      rfl
    · obtain ⟨r, routes, settled, answers⟩ := answered.done (puts.others m same t found) isDone
      refine ⟨r, routes, stays settled, ?_⟩
      rw [answersTo_tell, if_neg (Ne.symm same), List.append_nil, earlier, answers]

/-! ## Every run -/

structure Faithful (L : Ledger) (s : System) : Prop where
  located : L.Located s
  ordered : L.Ordered
  answered : L.Answered s

theorem Course.faithful (course : L.Course s next intake L') (faithful : L.Faithful s)
    (stays : ∀ {e p r}, s.Settled e p r → next.Settled e p r) : L'.Faithful next := by
  obtain ⟨located, ordered, answered⟩ := faithful
  cases course with
  | idle keeps quiet =>
      refine ⟨fun p served => ?_, ordered, answered.keep quiet stays⟩
      obtain ⟨before, kept⟩ := keeps p served
      rw [located p before, kept]
  | @takenOn e p brings quiet begun =>
      refine ⟨located.issue brings, ordered.issue fun released => ?_,
        answered.put (L.puts_issue e p) (answered.unknown (Nat.le_refl _)) quiet ?_ stays⟩
      · cases begun with
        | inbox c named => exact ⟨rfl, named⟩
        | _ => cases released
      · cases begun <;> rfl
  | @turnedAway c r keeps settled heard =>
      have direct : (L.issue ⟨c, .direct⟩ .rejected).Ordered := ordered.issue nofun
      refine ⟨fun p served => ?_, direct.tell,
        answered.conclude (L.puts_issue _ _) (answered.unknown (Nat.le_refl _)) heard settled stays⟩
      have notRejected : p ≠ .rejected := by
        rintro rfl
        exact served
      obtain ⟨before, kept⟩ := keeps p served
      show (L.issue _ _).held p = _
      rw [held_issue, if_neg (Ne.symm notRejected), List.append_nil, located p before, kept]
  | moved conveys quiet pending =>
      obtain ⟨before, t, after, split, rfl⟩ := exists_conveyed located conveys
      have unanswered := answered.unanswered split conveys
      exact ⟨located.convey ordered conveys, ordered.convey located conveys,
        answered.put (split.puts _) unanswered quiet pending stays⟩
  | concluded conveys settled heard =>
      obtain ⟨before, t, after, split, rfl⟩ := exists_conveyed located conveys
      have unanswered := answered.unanswered split conveys
      exact ⟨located.convey ordered conveys, (ordered.convey located conveys).tell,
        answered.conclude (split.puts _) unanswered heard settled stays⟩

theorem Course.tickets (course : L.Course s next intake L') (located : L.Located s) :
    L'.tickets.map Ticket.toErrand = L.tickets.map Ticket.toErrand ++ intake.toList := by
  have shifted {source target : Place} {e : Errand} (conveys : s.Conveys next source target e) :
      (L.shift source target).tickets.map Ticket.toErrand = L.tickets.map Ticket.toErrand := by
    obtain ⟨before, t, after, split, -⟩ := exists_conveyed located conveys
    rw [split.shift_eq, split.tickets]
    simp
  cases course with
  | idle => simp
  | takenOn => simp [issue]
  | turnedAway => simp [issue, tell]
  | moved conveys => simpa using shifted conveys
  | concluded conveys => simpa [tell] using shifted conveys

end Ledger

variable {config : Config} {dawn : Int} {intake : List Errand} {L : Ledger} {s : System}

theorem Recorded.course {next : System} {act : Action} (recorded : Recorded config dawn intake L s)
    (faithful : L.Faithful s) (step : s.step? act = some next) :
    L.Course s next (s.intake? act next) (L.record s act next) :=
  have reach := recorded.reachable
  Ledger.course_of_step (System.wired reach) (System.accounted reach).2 faithful.located step

theorem Recorded.faithful (recorded : Recorded config dawn intake L s) : L.Faithful s := by
  induction recorded with
  | new => exact ⟨fun p _ => by cases p <;> rfl, ⟨.nil, nofun, nofun⟩, rfl, nofun, nofun, nofun⟩
  | next recorded step ih =>
      exact (recorded.course ih step).faithful ih (System.Settled.stays step)

theorem Recorded.tickets (recorded : Recorded config dawn intake L s) :
    L.tickets.map Ticket.toErrand = intake := by
  induction recorded with
  | new => rfl
  | next recorded step ih =>
      have faithful := recorded.faithful
      rw [(recorded.course faithful step).tickets faithful.located, ih]

theorem Recorded.accepted_perm (recorded : Recorded config dawn intake L s) :
    s.accepted.Perm ((intake.filter fun e => e.origin != .direct).map Errand.command) := by
  induction recorded with
  | new => exact .nil
  | next recorded step ih =>
      rw [List.filter_append, List.map_append]
      exact (System.accepted_perm step).trans (ih.append_right _)

/-! ## Before the manager is asked to end -/

theorem System.served_of_going (wired : s.Wired) (orderly : s.queue.Orderly)
    (going : s.cancelled = false) {p : Place} (taken : p ≠ .rejected) : s.Served p := by
  have working := (orderly.alive going).2
  have unstopped : s.admission ≠ .stopped := fun stopped => by
    rw [wired.stopped stopped] at going
    cases going
  cases p with
  | line | output => exact unstopped
  | inbox => exact fun started => (working started).1
  | hand => exact fun started => (working started).2
  | rejected => exact taken rfl
  | _ => trivial

theorem System.listed_of_running (enlisted : s.Enlisted) {i : Nat} {e : Errand}
    (here : e ∈ s.contents (.running i)) : (e.command.id, i) ∈ s.registry := by
  obtain ⟨r, found, rfl, unreported⟩ := mem_running here
  refine enlisted.listed found ?_
  rw [Runner.reported?, Option.map_eq_none_iff] at unreported
  rw [Runner.Phase.hasLeft_eq, unreported]
  rfl

/-- What it is that no command is lost and none is answered twice. -/
structure Conserved (intake : List Errand) (L : Ledger) (s : System) : Prop where
  /-- The submissions that were accepted are taken on, and else only what is run directly. -/
  accepted : s.accepted.Perm ((intake.filter fun e => e.origin != .direct).map Errand.command)
  /-- Every command that was taken on has one ticket, and so one place. -/
  tickets : L.tickets.map Ticket.toErrand = intake
  /-- At every place there is what the ledger says, in the order in which it was taken on. -/
  located : ∀ p, p ≠ .rejected → s.contents p = L.held p
  apart : s.queue.Apart
  /-- Who has a command without having reported is a running job. -/
  live : ∀ i e, e ∈ L.held (.running i) → (e.command.id, i) ∈ s.registry
  /-- The handlers hear what the answers say, and nothing else. -/
  heard : L.answers.flatMap Answer.calls = s.calls
  known : ∀ a ∈ L.answers, a.ticket < L.tickets.length
  /-- A command that is not done has not been answered. -/
  pending : ∀ n t, L.tickets[n]? = some t → t.place.isDone = false → L.answersTo n = []
  /-- A command that is done has been answered once. -/
  done : ∀ n t, L.tickets[n]? = some t → t.place.isDone = true →
    ∃ r routes, s.Settled t.toErrand t.place r ∧
      L.answersTo n = [⟨n, routes, announcement routes t.command r⟩]
  /-- The result that a job hands to who waits for it is the one of its answer. -/
  published : ∀ i r result, s.runners[i]? = some r → r.published? = some result →
    ∃ n t routes, L.tickets[n]? = some t ∧ t.place = .finished i ∧ t.command = r.command ∧
      L.answersTo n = [⟨n, routes, announcement routes r.command result⟩]

/-- Until the manager is asked to end, every command that it has taken on is at one place, and the
handlers of results have heard of it once if it is done, and else not at all. -/
theorem conserved (recorded : Recorded config dawn intake L s) (going : s.cancelled = false) :
    Conserved intake L s := by
  have reach := recorded.reachable
  obtain ⟨located, -, answered⟩ := recorded.faithful
  have served {p : Place} (taken : p ≠ .rejected) : s.Served p :=
    System.served_of_going (System.wired reach) (System.accounted reach).2.orderly going taken
  refine ⟨recorded.accepted_perm, recorded.tickets,
    fun p taken => (located p (served taken)).symm, System.apart reach, fun i e here => ?_,
    answered.heard, answered.known, fun _ _ => answered.pending, fun _ _ => answered.done,
    fun i r result found published => ?_⟩
  · rw [located (.running i) trivial] at here
    exact System.listed_of_running (System.enlisted reach) here
  · have standing : s.standing[i]? = some (⟨r.command, r.origin⟩, some result) := by
      rw [System.standing, List.getElem?_map, found, ← Runner.reported?_of_published published]
      rfl
    have here : ⟨r.command, r.origin⟩ ∈ L.held (.finished i) := by
      rw [located (.finished i) trivial]
      simp [System.contents, standing]
    obtain ⟨t, member, same⟩ := List.mem_map.1 here
    obtain ⟨member, place⟩ := List.mem_filter.1 member
    have place : t.place = .finished i := by simpa using place
    obtain ⟨n, ticket⟩ := List.getElem?_of_mem member
    obtain ⟨r', routes, settled, answers⟩ := answered.done ticket (by rw [place]; rfl)
    rw [place, same, System.Settled, standing] at settled
    cases settled
    have command : t.command = r.command := congrArg Errand.command same
    exact ⟨n, t, routes, ticket, place, command, command ▸ answers⟩

def contention : List Action :=
  let job (id : String) : Command := { Command.new id "test" with queue := "q" }
  [.call (.register "test" 0), .call .start, .call (.handleRoute ""), .call (.push (job "first")),
    .call (.push (job "second")), .enter 0, .enter 1, .dispatch, .dispatch, .produce, .deliver,
    .arm, .count, .takeReleased, .enroll, .call (.run (.new "first" "test") []),
    .runner 0 (.launch ⟨[], some "no"⟩), .runner 0 .collect, .runner 0 .report]

theorem conserved_contended :
    ∃ intake L s, replay? ([], .empty, .new .default 0) contention = some (intake, L, s) ∧
      s.cancelled = false ∧ Conserved intake L s ∧
      L.tickets.map Ticket.place = [.finished 0, .lane "q", .rejected] ∧
      L.answers.map Answer.ticket = [2, 0] := by
  have run : replay? ([], .empty, .new .default 0) contention = some _ := rfl
  exact ⟨_, _, _, run, rfl, conserved (recorded_replay .new run) rfl, rfl, rfl⟩

end Overseer.Manager
