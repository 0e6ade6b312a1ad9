import Mathlib
import Overseer.Boot.Meeting
import Overseer.Proofs.Boot.Rendezvous
import Overseer.Proofs.Table

/-!
# Nobody misses a release

Flags come into being when they are first named, by who waits for them or by who releases them, and
a waiter listens for one of them at a time. Still every waiter finds what it would find if it looked
at all flags at once: a listener that has nothing left to do is where `Waiter.settle` would have
brought it (`Sound.waiter_eq_settle`). Listeners and releases may come in any order.
-/

namespace Overseer.Boot

namespace Board

def value? (b : Board) (key : String) : Option Bool := (b.names.lookup key).bind b.held

structure Sound (b : Board) : Prop where
  made : ∀ {key i}, b.names.lookup key = some i → i < b.channels.length
  apart : ∀ {key other i}, b.names.lookup key = some i → b.names.lookup other = some i → key = other

structure Grows (b c : Board) : Prop where
  names : ∀ {key i}, b.names.lookup key = some i → c.names.lookup key = some i
  values : ∀ {key v}, b.value? key = some v → c.value? key = some v

section
variable {b c : Board} {key other : String} {value : Bool}

/-! ## Channels -/

theorem sound_empty : empty.Sound := ⟨nofun, nofun⟩

theorem Grows.refl (b : Board) : b.Grows b := ⟨id, id⟩

theorem Grows.trans {d : Board} (first : b.Grows c) (second : c.Grows d) : b.Grows d :=
  ⟨fun named => second.names (first.names named), fun known => second.values (first.values known)⟩

theorem channelOf_named {i : Nat} (named : b.names.lookup key = some i) :
    b.channelOf key = (b, i) := by
  rw [channelOf, named]

theorem channelOf_unnamed (unnamed : b.names.lookup key = none) :
    b.channelOf key =
      (⟨(key, b.channels.length) :: b.names, b.channels ++ [none]⟩, b.channels.length) := by
  rw [channelOf, unnamed]

theorem lookup_channelOf (b : Board) (key other : String) :
    (b.channelOf key).1.names.lookup other =
      if other = key then some (b.channelOf key).2 else b.names.lookup other := by
  cases named : b.names.lookup key with
  | some i =>
      rw [channelOf_named named]
      split
      · rename_i own
        rw [own, named]
      · rfl
  | none => rw [channelOf_unnamed named, Table.lookup_cons]

theorem held_channelOf (b : Board) (key : String) : (b.channelOf key).1.held = b.held := by
  funext i
  unfold channelOf
  cases b.names.lookup key with
  | some _ => rfl
  | none =>
      simp only [held, List.getElem?_append]
      split
      · rfl
      · rename_i beyond
        rw [List.getElem?_eq_none (Nat.le_of_not_lt beyond)]
        cases i - b.channels.length <;> rfl

theorem held_of_channelOf (b : Board) (key : String) :
    b.held (b.channelOf key).2 = b.value? key := by
  unfold channelOf value?
  cases b.names.lookup key with
  | some i => rfl
  | none => simp [held]

theorem value?_channelOf (b : Board) (key : String) :
    (b.channelOf key).1.value? = b.value? := by
  funext other
  rw [value?, held_channelOf, lookup_channelOf]
  split
  · rename_i own
    rw [own, ← held_of_channelOf]
    rfl
  · rfl

theorem Sound.channelOf (sound : b.Sound) (key : String) : (b.channelOf key).1.Sound := by
  cases named : b.names.lookup key with
  | some i =>
      rw [channelOf_named named]
      exact sound
  | none =>
      rw [channelOf_unnamed named]
      have fresh {other i} (found : b.names.lookup other = some i) : i ≠ b.channels.length :=
        Nat.ne_of_lt (sound.made found)
      constructor
      · intro other i found
        rw [Table.lookup_cons] at found
        rw [List.length_append]
        split at found
        · cases found
          exact Nat.lt_succ_self _
        · exact Nat.lt_succ_of_lt (sound.made found)
      · intro other another i found found'
        rw [Table.lookup_cons] at found found'
        split at found
        · cases found
          split at found'
          · simp_all
          · exact absurd rfl (fresh found')
        · split at found'
          · cases found'
            exact absurd rfl (fresh found)
          · exact sound.apart found found'

theorem grows_channelOf (b : Board) (key : String) : b.Grows (b.channelOf key).1 := by
  constructor
  · intro other i found
    rw [lookup_channelOf]
    split
    · rename_i own
      rw [own] at found
      rw [Board.channelOf, found]
    · exact found
  · intro other v known
    rwa [value?_channelOf]

/-! ## Releases -/

theorem release_eq (b : Board) (key : String) (value : Bool) :
    b.release key value =
      if (b.value? key).isSome then ((b.channelOf key).1, false)
      else
        let (c, i) := b.channelOf key
        ({ c with channels := c.channels.set i (some value) }, true) := by
  rw [← held_of_channelOf, ← held_channelOf b key]
  rfl

theorem release_snd (b : Board) (key : String) (value : Bool) :
    (b.release key value).2 = (b.value? key).isNone := by
  rw [release_eq]
  cases b.value? key <;> rfl

theorem query_eq (b : Board) (key : String) :
    b.query key = ((b.channelOf key).1, b.value? key) := by
  rw [← held_of_channelOf, ← held_channelOf b key]
  rfl

theorem Sound.release (sound : b.Sound) (key : String) (value : Bool) :
    (b.release key value).1.Sound := by
  have named := sound.channelOf key
  rw [release_eq]
  split
  · exact named
  · exact ⟨fun found => by rw [List.length_set]; exact named.made found, named.apart⟩

theorem Sound.value?_release (sound : b.Sound) (key other : String) (value : Bool) :
    (b.release key value).1.value? other =
      if other = key then some ((b.value? key).getD value) else b.value? other := by
  have same := congrFun (value?_channelOf b key)
  rw [release_eq]
  cases known : b.value? key with
  | some v =>
      rw [if_pos (by rfl), same]
      split
      · rename_i own
        rw [own, known]
        rfl
      · rfl
  | none =>
      rw [if_neg (by simp)]
      have named := sound.channelOf key
      have own := lookup_channelOf b key key
      rw [if_pos rfl] at own
      rw [← same]
      generalize b.channelOf key = made at own named
      obtain ⟨c, i⟩ := made
      simp only [value?] at own ⊢
      by_cases mine : other = key
      · rw [mine, own, if_pos rfl]
        simp [held, named.made own]
      · rw [if_neg mine]
        cases found : c.names.lookup other with
        | none => rfl
        | some j =>
            have different : i ≠ j := by
              rintro rfl
              exact mine (named.apart found own)
            simp [held, List.getElem?_set_ne different]

theorem Sound.grows_release (sound : b.Sound) (key : String) (value : Bool) :
    b.Grows (b.release key value).1 := by
  constructor
  · intro other i found
    have named := (grows_channelOf b key).names found
    rw [release_eq]
    split <;> exact named
  · intro other v known
    rw [sound.value?_release]
    split
    · rename_i own
      rw [← own, known]
      rfl
    · exact known

end

end Board

/-! ## The steps of a listener -/

namespace Listener

inductive Turn (b : Board) (l : Listener) : Board → Listener → Prop where
  | content (unanswered : l.answer = none) (passed : l.waiter.keys = []) :
      Turn b l b { l with waiter := { l.waiter with answer := some true } }
  | tunes (key : String) (rest : List String) (unanswered : l.answer = none)
      (keys : l.waiter.keys = key :: rest) (idle : l.channel = none) :
      Turn b l (b.channelOf key).1 { l with channel := some (b.channelOf key).2 }
  | refused (key : String) (rest : List String) (i : Nat) (unanswered : l.answer = none)
      (keys : l.waiter.keys = key :: rest) (tuned : l.channel = some i)
      (demand : l.demand = .allTrue) (failed : b.held i = some false) :
      Turn b l b { l with waiter := { l.waiter with answer := some false } }
  | passes (key : String) (rest : List String) (i : Nat) (v : Bool) (unanswered : l.answer = none)
      (keys : l.waiter.keys = key :: rest) (tuned : l.channel = some i)
      (known : b.held i = some v) (free : l.demand.passes v = true) :
      Turn b l b { l with waiter := { l.waiter with keys := rest }, channel := none }

section
variable {b c : Board} {l next : Listener}

theorem turn_of_step (step : l.step? b = some (c, next)) : Turn b l c next := by
  obtain ⟨asked, ⟨demand, keys, answer⟩, channel⟩ := l
  cases answer with
  | some v => cases step
  | none =>
      cases keys with
      | nil =>
          cases step
          exact .content rfl rfl
      | cons key rest =>
          cases channel with
          | none =>
              cases step
              exact .tunes key rest rfl rfl rfl
          | some i =>
              unfold step? at step
              simp only [Listener.answer, Listener.demand] at step
              cases known : b.held i with
              | none => simp [known] at step
              | some v =>
                  cases v <;> cases demand <;> simp only [known] at step <;> cases step
                  · exact .refused key rest i rfl rfl rfl rfl known
                  all_goals exact .passes key rest i _ rfl rfl rfl known rfl

theorem step?_eq_none_iff :
    l.step? b = none ↔ l.answer.isSome = true ∨
      ∃ key rest i, l.waiter.keys = key :: rest ∧ l.channel = some i ∧ b.held i = none := by
  unfold step?
  split
  · rename_i answered
    exact ⟨fun _ => .inl answered, fun _ => rfl⟩
  · rename_i unanswered
    rw [or_iff_right unanswered]
    cases keys : l.waiter.keys with
    | nil => simp
    | cons key rest =>
        cases tuned : l.channel with
        | none => simp
        | some i =>
            cases known : b.held i with
            | none => simp [known]
            | some v => cases v <;> cases l.demand <;> simp [known]

end

/-! ## What a listener knows -/

structure Sound (b : Board) (l : Listener) : Prop where
  passed : ∃ passed, l.asked = passed ++ l.waiter.keys ∧
    ∀ key ∈ passed, ∃ v, b.value? key = some v ∧ l.demand.passes v = true
  tuned : ∀ {i}, l.channel = some i →
    ∃ key rest, l.waiter.keys = key :: rest ∧ b.names.lookup key = some i
  content : l.answer = some true → l.waiter.keys = []
  refused : l.answer = some false →
    l.demand = .allTrue ∧ ∃ key rest, l.waiter.keys = key :: rest ∧ b.value? key = some false

section
variable {b c : Board} {l next : Listener}

theorem sound_start (b : Board) (demand : Demand) (keys : List String) :
    (start demand keys).Sound b :=
  ⟨⟨[], rfl, by simp⟩, nofun, nofun, nofun⟩

theorem Sound.mono (sound : l.Sound b) (grows : b.Grows c) : l.Sound c := by
  constructor
  · obtain ⟨passed, split, free⟩ := sound.passed
    refine ⟨passed, split, fun key member => ?_⟩
    obtain ⟨v, known, passes⟩ := free key member
    exact ⟨v, grows.values known, passes⟩
  · intro i tuned
    obtain ⟨key, rest, keys, named⟩ := sound.tuned tuned
    exact ⟨key, rest, keys, grows.names named⟩
  · exact sound.content
  · intro refused
    obtain ⟨demand, key, rest, keys, failed⟩ := sound.refused refused
    exact ⟨demand, key, rest, keys, grows.values failed⟩

theorem Sound.value?_eq {key : String} {rest : List String} {i : Nat} (sound : l.Sound b)
    (keys : l.waiter.keys = key :: rest) (tuned : l.channel = some i) :
    b.value? key = b.held i := by
  obtain ⟨key', rest', keys', named⟩ := sound.tuned tuned
  cases keys.symm.trans keys'
  rw [Board.value?, named]
  rfl

theorem Turn.grows (turn : Turn b l c next) : b.Grows c := by
  cases turn with
  | tunes key => exact b.grows_channelOf key
  | content | refused | passes => exact .refl b

theorem Turn.sound (turn : Turn b l c next) (sound : l.Sound b) : next.Sound c := by
  cases turn with
  | content unanswered nothing =>
      exact ⟨sound.passed, sound.tuned, fun _ => nothing, nofun⟩
  | tunes key rest unanswered keys idle =>
      have own := b.lookup_channelOf key key
      rw [if_pos rfl] at own
      refine { sound.mono (b.grows_channelOf key) with tuned := fun tuned => ?_ }
      cases tuned
      exact ⟨key, rest, keys, own⟩
  | refused key rest i unanswered keys tuned demand failed =>
      rw [← sound.value?_eq keys tuned] at failed
      exact ⟨sound.passed, sound.tuned, nofun, fun _ => ⟨demand, key, rest, keys, failed⟩⟩
  | passes key rest i v unanswered keys tuned known free =>
      rw [← sound.value?_eq keys tuned] at known
      obtain ⟨passed, split, others⟩ := sound.passed
      refine ⟨⟨passed ++ [key], ?_, ?_⟩, nofun, fun answered => ?_, fun answered => ?_⟩
      · rw [split, keys, List.append_assoc]
        rfl
      · intro other member
        rcases List.mem_append.1 member with member | member
        · exact others other member
        · rw [List.mem_singleton.1 member]
          exact ⟨v, known, free⟩
      · cases unanswered.symm.trans answered
      · cases unanswered.symm.trans answered

theorem Sound.blocked (sound : l.Sound b) (unanswered : l.answer = none)
    (rests : l.step? b = none) :
    ∃ key rest, l.waiter.keys = key :: rest ∧ b.value? key = none := by
  rcases step?_eq_none_iff.1 rests with answered | ⟨key, rest, i, keys, tuned, silent⟩
  · rw [unanswered] at answered
    cases answered
  · exact ⟨key, rest, keys, (sound.value?_eq keys tuned).trans silent⟩

theorem Sound.waiter_eq_settle {r : Rendezvous} (sound : l.Sound b)
    (same : ∀ key, b.value? key = r.get? key) (rests : l.step? b = none) :
    l.waiter = (Waiter.start l.demand l.asked).settle r := by
  obtain ⟨passed, split, free⟩ := sound.passed
  simp only [same] at free
  -- A waiter that starts now passes the same keys at once.
  have skip : (Waiter.start l.demand l.asked).settle r =
      Waiter.settle.go r (.start l.demand l.asked) l.waiter.keys := by
    rw [← Waiter.settle_go_passed (w := .start l.demand l.asked) rfl free, ← split]
    rfl
  rw [skip]
  show (⟨l.demand, l.waiter.keys, l.answer⟩ : Waiter) = _
  cases answered : l.answer with
  | some v =>
      cases v with
      | true => rw [sound.content answered]; rfl
      | false =>
          obtain ⟨demand, key, rest, keys, failed⟩ := sound.refused answered
          rw [same] at failed
          rw [keys, Waiter.settle_go_refused (w := .start l.demand l.asked) rfl demand failed]
          rfl
  | none =>
      obtain ⟨key, rest, keys, silent⟩ := sound.blocked answered rests
      rw [same] at silent
      rw [keys, Waiter.settle_go_blocked (w := .start l.demand l.asked) rfl silent]
      rfl

/-- What the flags of a listener come to, an unreleased one counted as false. -/
def verdict (b : Board) (l : Listener) : Bool :=
  l.asked.all fun key => l.demand.passes ((b.value? key).getD false)

theorem Sound.free_of_content (sound : l.Sound b) (content : l.answer = some true) :
    ∀ key ∈ l.asked, ∃ v, b.value? key = some v ∧ l.demand.passes v = true := by
  obtain ⟨passed, split, free⟩ := sound.passed
  rw [sound.content content, List.append_nil] at split
  rwa [split]

theorem Sound.exists_of_refused (sound : l.Sound b) (refused : l.answer = some false) :
    l.demand = .allTrue ∧ ∃ key ∈ l.asked, b.value? key = some false := by
  obtain ⟨demand, key, rest, keys, failed⟩ := sound.refused refused
  obtain ⟨passed, split, -⟩ := sound.passed
  refine ⟨demand, key, ?_, failed⟩
  rw [split, keys]
  simp

theorem Sound.goes_on (sound : l.Sound b)
    (released : ∀ key ∈ l.asked, (b.value? key).isSome = true) (unanswered : l.answer = none) :
    (l.step? b).isSome = true := by
  by_contra stuck
  obtain ⟨key, rest, keys, silent⟩ :=
    sound.blocked unanswered (Option.not_isSome_iff_eq_none.1 stuck)
  obtain ⟨passed, split, -⟩ := sound.passed
  have known := released key (by rw [split, keys]; simp)
  rw [silent] at known
  cases known

theorem Sound.answer_eq_verdict {v : Bool} (sound : l.Sound b) (answered : l.answer = some v) :
    v = l.verdict b := by
  cases v with
  | true =>
      refine Eq.symm (List.all_eq_true.2 fun key member => ?_)
      obtain ⟨v, known, free⟩ := sound.free_of_content answered key member
      rw [known]
      exact free
  | false =>
      obtain ⟨demand, key, member, failed⟩ := sound.exists_of_refused answered
      refine Eq.symm (List.all_eq_false.2 ⟨key, member, ?_⟩)
      rw [failed, demand]
      decide

theorem verdict_congr {l' : Listener} (demand : l'.demand = l.demand)
    (asked : ∀ key, key ∈ l'.asked ↔ key ∈ l.asked)
    (values : ∀ key ∈ l.asked, c.value? key = b.value? key) : l'.verdict c = l.verdict b := by
  rw [Bool.eq_iff_iff, verdict, verdict, List.all_eq_true, List.all_eq_true, demand]
  constructor
  · intro all key member
    rw [← values key member]
    exact all key ((asked key).2 member)
  · intro all key member
    rw [asked] at member
    rw [values key member]
    exact all key member

def effort (l : Listener) : Nat :=
  if l.answer.isSome then 0 else 2 * l.waiter.keys.length + if l.channel.isNone then 1 else 0

theorem Turn.asked_eq (turn : Turn b l c next) : next.asked = l.asked := by
  cases turn <;> rfl

theorem Turn.demand_eq (turn : Turn b l c next) : next.demand = l.demand := by
  cases turn <;> rfl

theorem Turn.effort_lt (turn : Turn b l c next) (sound : l.Sound b) : next.effort < l.effort := by
  cases turn with
  | content unanswered nothing =>
      have idle : l.channel = none := by
        cases tuned : l.channel with
        | none => rfl
        | some i =>
            obtain ⟨key, rest, keys, -⟩ := sound.tuned tuned
            cases nothing.symm.trans keys
      rw [effort, effort, unanswered, idle]
      simp [answer]
  | tunes key rest unanswered keys idle =>
      have same : l.waiter.answer = none := unanswered
      rw [effort, effort, unanswered, idle, answer, same]
      simp
  | refused key rest i unanswered keys tuned =>
      rw [effort, effort, unanswered, keys]
      simp [answer]
  | passes key rest i v unanswered keys tuned =>
      have same : l.waiter.answer = none := unanswered
      rw [effort, effort, unanswered, keys, tuned, answer, same]
      simp
      omega

end

end Listener

/-! ## What happens at a meeting -/

namespace Meeting

structure Done where
  act : Action
  reply : Option Bool
  deriving DecidableEq, Repr

/-- A meeting with all that has been done at it, the latest first. -/
inductive Record : List Done → Meeting → Prop where
  | empty : Record [] .empty
  | next {past : List Done} {m n : Meeting} {act : Action} {reply : Option Bool}
      (record : Record past m) (step : m.step? act = some (n, reply)) :
      Record (⟨act, reply⟩ :: past) n

def flags : List Done → Rendezvous
  | [] => .empty
  | d :: past =>
      match d.act with
      | .release key value => ((flags past).release key value).1
      | _ => flags past

inductive Move (m : Meeting) : Action → Meeting → Option Bool → Prop where
  | join (demand : Demand) (keys : List String) :
      Move m (.join demand keys) ⟨m.board, m.listeners ++ [.start demand keys]⟩ none
  | advance (i : Nat) {l next : Listener} {board : Board} (found : m.listeners[i]? = some l)
      (turn : Listener.Turn m.board l board next) :
      Move m (.advance i) ⟨board, m.listeners.set i next⟩ none
  | release (key : String) (value : Bool) :
      Move m (.release key value) ⟨(m.board.release key value).1, m.listeners⟩
        (some (m.board.value? key).isNone)
  | query (key : String) {reply : Option Bool} (told : reply = m.board.value? key) :
      Move m (.query key) ⟨(m.board.channelOf key).1, m.listeners⟩ reply

structure Sound (m : Meeting) : Prop where
  board : m.board.Sound
  listeners : ∀ l ∈ m.listeners, l.Sound m.board

section
variable {past later earlier : List Done} {m n : Meeting} {act : Action} {reply : Option Bool}
  {key : String} {value : Bool}

theorem move_of_step (step : m.step? act = some (n, reply)) : Move m act n reply := by
  cases act with
  | join demand keys =>
      cases step
      exact .join demand keys
  | advance i =>
      obtain ⟨l, found, step⟩ := Option.bind_eq_some_iff.1 step
      obtain ⟨⟨board, next⟩, own, same⟩ := Option.map_eq_some_iff.1 step
      cases same
      exact .advance i found (Listener.turn_of_step own)
  | release key value =>
      have told : m.step? (.release key value) =
          some (⟨(m.board.release key value).1, m.listeners⟩,
            some (m.board.release key value).2) := rfl
      rw [told, Board.release_snd] at step
      cases step
      exact .release key value
  | query key =>
      have told : m.step? (.query key) =
          some (⟨(m.board.query key).1, m.listeners⟩, (m.board.query key).2) := rfl
      rw [told, Board.query_eq] at step
      cases step
      exact .query key rfl

theorem Move.grows (move : Move m act n reply) (sound : m.Sound) : m.board.Grows n.board := by
  cases move with
  | join => exact .refl _
  | advance i found turn => exact turn.grows
  | release key value => exact sound.board.grows_release key value
  | query key => exact m.board.grows_channelOf key

theorem Move.sound (move : Move m act n reply) (sound : m.Sound) : n.Sound := by
  have kept : ∀ l ∈ m.listeners, l.Sound n.board := by
    intro l member
    exact (sound.listeners l member).mono (move.grows sound)
  cases move with
  | join demand keys =>
      refine ⟨sound.board, fun l member => ?_⟩
      rcases List.mem_append.1 member with member | member
      · exact kept l member
      · rw [List.mem_singleton.1 member]
        exact Listener.sound_start _ demand keys
  | advance i found turn =>
      refine ⟨?_, fun l member => ?_⟩
      · cases turn with
        | tunes key => exact sound.board.channelOf key
        | content | refused | passes => exact sound.board
      · rcases List.mem_or_eq_of_mem_set member with member | rfl
        · exact kept l member
        · exact turn.sound (sound.listeners _ (List.mem_of_getElem? found))
  | release key value => exact ⟨sound.board.release key value, kept⟩
  | query key => exact ⟨sound.board.channelOf key, kept⟩

theorem Record.sound (record : Record past m) : m.Sound := by
  induction record with
  | empty => exact ⟨Board.sound_empty, nofun⟩
  | next _ step ih => exact (move_of_step step).sound ih

theorem Record.value?_eq (record : Record past m) (key : String) :
    m.board.value? key = (flags past).get? key := by
  induction record generalizing key with
  | empty => rfl
  | @next past m n act reply record step ih =>
      cases move_of_step step with
      | join => exact ih key
      | advance i found turn =>
          cases turn with
          | tunes other => rw [Board.value?_channelOf]; exact ih key
          | content | refused | passes => exact ih key
      | release other value =>
          rw [record.sound.board.value?_release, flags, Rendezvous.get?_release_eq, ih, ih]
      | query other => rw [Board.value?_channelOf]; exact ih key

/-! ## The first release -/

theorem get?_flags_eq_none_iff :
    (flags past).get? key = none ↔ ∀ d ∈ past, ∀ v, d.act ≠ .release key v := by
  induction past with
  | nil => simp [flags, Rendezvous.empty, Rendezvous.get?]
  | cons d past ih =>
      rw [List.forall_mem_cons, ← ih]
      obtain ⟨act, reply⟩ := d
      cases act with
      | release other value =>
          simp only [flags, Rendezvous.get?_release_eq]
          by_cases own : key = other
          · simp [own]
          · simp [own, Ne.symm own]
      | join | advance | query => simp [flags]

theorem get?_flags_append (known : (flags earlier).get? key = some value)
    (later : List Done) : (flags (later ++ earlier)).get? key = some value := by
  induction later with
  | nil => exact known
  | cons d later ih =>
      obtain ⟨act, reply⟩ := d
      cases act with
      | release => exact Rendezvous.get?_release ih
      | join | advance | query => exact ih

theorem Record.move_at {d : Done} (record : Record (later ++ d :: earlier) m) :
    ∃ before after, Record earlier before ∧ Move before d.act after d.reply := by
  induction later generalizing m with
  | nil =>
      cases record with
      | next record step => exact ⟨_, _, record, move_of_step step⟩
  | cons e later ih =>
      cases record with
      | next record step => exact ih record

theorem Record.reply_of_release
    (record : Record (later ++ ⟨.release key value, reply⟩ :: earlier) m) :
    reply = some ((flags earlier).get? key).isNone := by
  obtain ⟨before, after, started, move⟩ := record.move_at
  cases move
  rw [started.value?_eq]

theorem Record.reply_of_query (record : Record (later ++ ⟨.query key, reply⟩ :: earlier) m) :
    reply = (flags earlier).get? key := by
  obtain ⟨before, after, started, move⟩ := record.move_at
  cases move with
  | query _ told => exact told.trans (started.value?_eq key)

theorem Record.value?_of_first
    (record : Record (later ++ ⟨.release key value, some true⟩ :: earlier) m) :
    m.board.value? key = some value := by
  have first := record.reply_of_release
  rw [Option.some.injEq, eq_comm, Option.isNone_iff_eq_none] at first
  rw [record.value?_eq]
  refine get?_flags_append ?_ later
  simp [flags, Rendezvous.get?_release_eq, first]

/-! ## The steps of the listeners -/

def turns (i : Nat) (past : List Done) : Nat := past.countP fun d => d.act = .advance i

theorem Record.turns_le (record : Record past m) (i : Nat) :
    match m.listeners[i]? with
    | some l => turns i past + l.effort ≤ 2 * l.asked.length + 1
    | none => turns i past = 0 := by
  induction record with
  | empty => rfl
  | @next past m n act reply record step ih =>
      cases move_of_step step with
      | join demand keys =>
          have same : turns i (⟨.join demand keys, none⟩ :: past) = turns i past := by
            simp [turns]
          rw [same]
          rcases Nat.lt_trichotomy i m.listeners.length with inside | last | beyond
          · rwa [List.getElem?_append_left inside]
          · rw [List.getElem?_eq_none (by omega)] at ih
            rw [last, List.getElem?_concat_length, ← last, ih]
            exact Nat.le_of_eq (Nat.zero_add _)
          · rw [List.getElem?_eq_none (by omega)] at ih
            rw [List.getElem?_eq_none (by simp; omega)]
            exact ih
      | @advance j l next board found turn =>
          by_cases own : j = i
          · subst own
            have fewer := turn.effort_lt (record.sound.listeners l (List.mem_of_getElem? found))
            have inside := (List.getElem?_eq_some_iff.1 found).1
            rw [found] at ih
            simp only [List.getElem?_set_self inside, turn.asked_eq]
            have more : turns j (⟨.advance j, none⟩ :: past) = turns j past + 1 := by
              simp [turns]
            simp only at ih
            omega
          · have same : turns i (⟨.advance j, none⟩ :: past) = turns i past := by
              simp [turns, own]
            rw [same]
            simpa only [List.getElem?_set_ne own] using ih
      | release | query => simpa [turns] using ih

theorem Record.listener_sound {i : Nat} {l : Listener} (record : Record past m)
    (found : m.listeners[i]? = some l) : l.Sound m.board :=
  record.sound.listeners l (List.mem_of_getElem? found)

theorem step?_advance {i : Nat} {l : Listener} (found : m.listeners[i]? = some l) :
    (m.step? (.advance i)).isSome = (l.step? m.board).isSome := by
  rw [step?, found]
  exact Option.isSome_map

theorem step?_advance_eq_none_iff {i : Nat} {l : Listener} (found : m.listeners[i]? = some l) :
    m.step? (.advance i) = none ↔ l.step? m.board = none := by
  rw [← Option.not_isSome_iff_eq_none, step?_advance found, Option.not_isSome_iff_eq_none]

/-- The first release of a flag returns true and fixes its value for ever, and no other release
does. A waiter that answers has found its flags as it says; once all its flags are released it is
not blocked, it has an answer after two steps for each of its keys and one more, and the answer is
what the values come to. So answers depend on the values alone, not on the order in which flags were
named, awaited or released, nor on the order of the keys. -/
theorem flags_released_once (record : Record past m) :
    (∀ later key value reply earlier, past = later ++ ⟨.release key value, reply⟩ :: earlier →
      ∃ first, reply = some first ∧ (first = true ↔ ∀ d ∈ earlier, ∀ v, d.act ≠ .release key v) ∧
        (first = true → m.board.value? key = some value)) ∧
    (∀ later key reply earlier, past = later ++ ⟨.query key, reply⟩ :: earlier →
      reply = (flags earlier).get? key) ∧
    (∀ key, m.board.value? key = (flags past).get? key) ∧
    (∀ i l, m.listeners[i]? = some l →
      (l.answer = some true →
        ∀ key ∈ l.asked, ∃ v, m.board.value? key = some v ∧ l.demand.passes v = true) ∧
      (l.answer = some false →
        l.demand = .allTrue ∧ ∃ key ∈ l.asked, m.board.value? key = some false) ∧
      ((∀ key ∈ l.asked, (m.board.value? key).isSome = true) →
        (l.answer = none → (m.step? (.advance i)).isSome = true) ∧
        ∀ v, l.answer = some v → v = l.verdict m.board) ∧
      (m.step? (.advance i) = none →
        l.waiter = (Waiter.start l.demand l.asked).settle (flags past)) ∧
      turns i past ≤ 2 * l.asked.length + 1) ∧
    ∀ past' m', Record past' m' → ∀ l ∈ m.listeners, ∀ l' ∈ m'.listeners,
      l'.demand = l.demand → (∀ key, key ∈ l'.asked ↔ key ∈ l.asked) →
      (∀ key ∈ l.asked, m'.board.value? key = m.board.value? key) →
      ∀ v v', l.answer = some v → l'.answer = some v' → v' = v := by
  refine ⟨?_, ?_, record.value?_eq, fun i l found => ?_, ?_⟩
  · rintro later key value reply earlier rfl
    refine ⟨_, record.reply_of_release, ?_, fun first => ?_⟩
    · rw [Option.isNone_iff_eq_none, get?_flags_eq_none_iff]
    · apply Record.value?_of_first
      rw [← first, ← record.reply_of_release]
      exact record
  · rintro later key reply earlier rfl
    exact record.reply_of_query
  · have sound := record.listener_sound found
    refine ⟨sound.free_of_content, sound.exists_of_refused, fun released => ⟨?_, ?_⟩, ?_, ?_⟩
    · rw [step?_advance found]
      exact sound.goes_on released
    · exact fun v answered => sound.answer_eq_verdict answered
    · intro rests
      exact sound.waiter_eq_settle record.value?_eq ((step?_advance_eq_none_iff found).1 rests)
    · have count := record.turns_le i
      rw [found] at count
      exact Nat.le_trans (Nat.le_add_right _ _) count
  · intro past' m' record' l member l' member' demand asked values v v' answered answered'
    rw [(record.sound.listeners l member).answer_eq_verdict answered,
      (record'.sound.listeners l' member').answer_eq_verdict answered']
    exact Listener.verdict_congr demand asked values

end

def replay? : List Done → Meeting → List Action → Option (List Done × Meeting)
  | past, m, [] => some (past, m)
  | past, m, act :: rest =>
      (m.step? act).bind fun (next, reply) => replay? (⟨act, reply⟩ :: past) next rest

theorem Record.of_replay {past whole : List Done} {m last : Meeting} {acts : List Action}
    (record : Record past m) (played : replay? past m acts = some (whole, last)) :
    Record whole last := by
  induction acts generalizing past m with
  | nil =>
      cases played
      exact record
  | cons act rest ih =>
      obtain ⟨⟨next, reply⟩, step, played⟩ := Option.bind_eq_some_iff.1 played
      exact ih (record.next step) played

def early : List Action :=
  [.join .allTrue ["a", "b"], .advance 0, .release "b" false, .release "a" true, .release "b" true,
    .advance 0, .advance 0, .advance 0]

def late : List Action :=
  [.release "a" true, .release "b" false, .join .allTrue ["b", "a", "b"], .advance 0, .advance 0]

def earlyDays : List Done × Meeting := (replay? [] .empty early).get (by decide)

def lateDays : List Done × Meeting := (replay? [] .empty late).get (by decide)

theorem flags_released_once_crosswise :
    ∃ l l', earlyDays.2.listeners = [l] ∧ lateDays.2.listeners = [l'] ∧ l.asked = ["a", "b"] ∧
      l'.asked = ["b", "a", "b"] ∧ l.answer = some false ∧ l'.answer = l.answer := by
  have record : Record earlyDays.1 earlyDays.2 :=
    .of_replay .empty (show replay? [] .empty early = _ by decide)
  have record' : Record lateDays.1 lateDays.2 :=
    .of_replay .empty (show replay? [] .empty late = _ by decide)
  obtain ⟨l, own⟩ : ∃ l, earlyDays.2.listeners = [l] := ⟨_, rfl⟩
  obtain ⟨l', own'⟩ : ∃ l, lateDays.2.listeners = [l] := ⟨_, rfl⟩
  have keys : l.asked = ["a", "b"] ∧ l.demand = .allTrue ∧ l.answer = some false := by
    cases own
    decide
  have keys' : l'.asked = ["b", "a", "b"] ∧ l'.demand = .allTrue ∧ l'.answer.isSome = true := by
    cases own'
    decide
  obtain ⟨v, answered⟩ := Option.isSome_iff_exists.1 keys'.2.2
  have values : ∀ key ∈ l.asked, lateDays.2.board.value? key = earlyDays.2.board.value? key := by
    rw [keys.1]
    decide
  have asked : ∀ key, key ∈ l'.asked ↔ key ∈ l.asked := by
    intro key
    rw [keys.1, keys'.1]
    simp only [List.mem_cons, List.not_mem_nil]
    tauto
  have agree := (flags_released_once record).2.2.2.2 _ _ record' l (by simp [own]) l'
    (by simp [own']) (keys'.2.1.trans keys.2.1.symm) asked values false v keys.2.2 answered
  exact ⟨l, l', own, own', keys.1, keys'.1, keys.2.2, by rw [answered, agree, keys.2.2]⟩

end Meeting

end Overseer.Boot
