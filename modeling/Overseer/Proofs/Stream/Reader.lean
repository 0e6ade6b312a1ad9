import Overseer.Stream.Reader

/-!
# What a reader makes of a stream

However the bytes of a stream arrive, the messages are those that a parser makes of its lines, in
order. A reader always knows what is still to come, and reading does not change that but takes the
reader closer to its end.
-/

namespace Overseer.Stream

def content : List Arrival → List UInt8
  | .bytes bs :: rest => bs ++ content rest
  | [] | .ended :: _ | .failed :: _ => []

def fails : List Arrival → Bool
  | .bytes _ :: rest => fails rest
  | .failed :: _ => true
  | [] | .ended :: _ => false

def cut (kept : Bool) (begun : List UInt8) : List UInt8 → List (List UInt8)
  | [] => if kept && !begun.isEmpty then [begun] else []
  | b :: rest => if b = lineFeed then begun :: cut kept [] rest else cut kept (begun ++ [b]) rest

def messages (p : Parser) (lines : List (List UInt8)) : List Message :=
  (p.feedAll (lines.map Text.Utf8.lossy)).2

def parsed (default : Level) (arrivals : List Arrival) : List Message :=
  messages (.new default) (cut (!fails arrivals) [] (content arrivals))

theorem messages_cons (p : Parser) (line : List UInt8) (lines : List (List UInt8)) :
    messages p (line :: lines) =
      (p.feed (Text.Utf8.lossy line)).2.toList ++
        messages (p.feed (Text.Utf8.lossy line)).1 lines :=
  rfl

theorem cut_append {kept : Bool} {bytes rest : List UInt8} {b : UInt8} (begun : List UInt8)
    (found : bytes.dropWhile (· != lineFeed) = b :: rest) (more : List UInt8) :
    cut kept begun (bytes ++ more) =
      (begun ++ bytes.takeWhile (· != lineFeed)) :: cut kept [] (rest ++ more) := by
  induction bytes generalizing begun with
  | nil => cases found
  | cons first bytes ih =>
      by_cases last : first = lineFeed
      · simp only [List.dropWhile_cons, last] at found
        cases found
        simp [cut, last]
      · have same : bytes.dropWhile (· != lineFeed) = b :: rest := by
          simpa [List.dropWhile_cons, last] using found
        simp [cut, last, ih _ same]

theorem cut_rest {kept : Bool} {bytes : List UInt8} (begun : List UInt8)
    (none : bytes.dropWhile (· != lineFeed) = []) :
    cut kept begun bytes =
      if kept && !(begun ++ bytes).isEmpty then [begun ++ bytes] else [] := by
  induction bytes generalizing begun with
  | nil => simp [cut]
  | cons first bytes ih =>
      by_cases last : first = lineFeed
      · simp [last] at none
      · have same : bytes.dropWhile (· != lineFeed) = [] := by
          simpa [List.dropWhile_cons, last] using none
        rw [cut, if_neg last, ih _ same, List.append_assoc, List.singleton_append]

namespace Reader

def pending (r : Reader) : List Message :=
  r.outgoing.toList ++ if r.finished then []
    else messages r.parser (cut (!fails r.arrivals) [] (r.buffer ++ content r.arrivals))

structure Sound (r : Reader) : Prop where
  forwarding : r.forwarding = true
  silent : r.finished = true → r.outgoing = none

variable {r next : Reader} {m : Message}

theorem pending_start (default : Level) (arrivals : List Arrival) :
    (Reader.start default arrivals).pending = parsed default arrivals := rfl

theorem sound_start (default : Level) (arrivals : List Arrival) :
    (Reader.start default arrivals).Sound := ⟨rfl, nofun⟩

theorem read?_eq_some_iff :
    r.read? = some next ↔ r.finished = false ∧ r.outgoing = none ∧ r.read = next := by
  unfold read?
  split
  · rename_i blocked
    rw [Bool.or_eq_true, Option.isSome_iff_ne_none] at blocked
    constructor
    · nofun
    · rintro ⟨running, idle, -⟩
      rcases blocked with finished | offers
      · cases running.symm.trans finished
      · exact absurd idle offers
  · rename_i going
    obtain ⟨running, idle⟩ : r.finished = false ∧ r.outgoing = none := by simpa using going
    rw [Option.some.injEq]
    exact ⟨fun same => ⟨running, idle, same⟩, fun all => all.2.2⟩

theorem takeLine_pending (sound : r.Sound) (running : r.finished = false)
    (buffer line : List UInt8) :
    ({ r with buffer }.takeLine line).pending =
      messages r.parser (line :: cut (!fails r.arrivals) [] (buffer ++ content r.arrivals)) := by
  rw [messages_cons, pending, takeLine]
  simp [sound.forwarding, running]

theorem read_pending (sound : r.Sound) (running : r.finished = false) (idle : r.outgoing = none) :
    r.read.pending = r.pending := by
  have before : r.pending =
      messages r.parser (cut (!fails r.arrivals) [] (r.buffer ++ content r.arrivals)) := by
    simp [pending, idle, running]
  rw [before]
  unfold read
  split
  · rename_i rest found
    rw [takeLine_pending sound running, cut_append [] found]
    rfl
  · rename_i unbroken
    split
    · rename_i bs arrivals coming
      rw [coming]
      simp [pending, idle, running, content, fails]
    · rename_i arrivals coming
      rw [coming, content, List.append_nil, cut_rest [] unbroken]
      simp [pending, idle, fails, messages, Parser.feedAll]
    · rename_i noBytes noFailure
      -- The source has ended, and what is left in the buffer is the last line.
      have ending : content r.arrivals = [] ∧ fails r.arrivals = false := by
        cases coming : r.arrivals with
        | nil => exact ⟨rfl, rfl⟩
        | cons first arrivals =>
            cases first with
            | bytes bs => exact absurd coming (noBytes bs arrivals)
            | failed => exact absurd coming (noFailure arrivals)
            | ended => exact ⟨rfl, rfl⟩
      obtain ⟨nothing, kept⟩ := ending
      rw [nothing, List.append_nil, kept, cut_rest [] unbroken]
      cases left : r.buffer with
      | nil => simp [pending, idle, messages, Parser.feedAll]
      | cons b bytes =>
          rw [← left, if_neg (by simp [left]), takeLine_pending sound running, nothing, kept]
          simp [left, cut]

theorem sound_read (sound : r.Sound) (running : r.finished = false) (idle : r.outgoing = none) :
    r.read.Sound := by
  unfold read
  split
  · exact ⟨sound.forwarding, fun finished => by simp [takeLine, running] at finished⟩
  · split
    · exact ⟨sound.forwarding, sound.silent⟩
    · exact ⟨sound.forwarding, fun _ => idle⟩
    · split
      · exact ⟨sound.forwarding, fun _ => idle⟩
      · exact ⟨sound.forwarding, fun finished => by simp [takeLine, running] at finished⟩

theorem read?_sound (sound : r.Sound) (step : r.read? = some next) :
    next.Sound ∧ next.pending = r.pending := by
  obtain ⟨running, idle, rfl⟩ := read?_eq_some_iff.1 step
  exact ⟨sound_read sound running idle, read_pending sound running idle⟩

theorem offered_sound (sound : r.Sound) (offers : r.outgoing = some m) :
    ({ r with outgoing := none } : Reader).Sound ∧
      r.pending = m :: ({ r with outgoing := none } : Reader).pending := by
  refine ⟨⟨sound.forwarding, fun _ => rfl⟩, ?_⟩
  simp [pending, offers]

theorem pending_of_finished (sound : r.Sound) (finished : r.finished = true) : r.pending = [] := by
  simp [pending, finished, sound.silent finished]

def effort (r : Reader) : Nat :=
  5 * (r.buffer.length + (content r.arrivals).length) + r.arrivals.length +
    4 * r.outgoing.toList.length + (!r.finished).toNat

theorem takeLine_effort (running : r.finished = false) (buffer line : List UInt8) :
    ({ r with buffer }.takeLine line).effort ≤
      5 * (buffer.length + (content r.arrivals).length) + r.arrivals.length + 5 := by
  have one (m : Option Message) : m.toList.length ≤ 1 := by cases m <;> simp
  have most := one ({ r with buffer }.takeLine line).outgoing
  simp only [effort, takeLine, running, Bool.not_false, Bool.toNat_true] at most ⊢
  omega

theorem offered_effort (offers : r.outgoing = some m) :
    ({ r with outgoing := none } : Reader).effort + 4 = r.effort := by
  simp only [effort, offers, Option.toList_none, Option.toList_some, List.length_nil,
    List.length_singleton]
  omega

theorem read?_effort (step : r.read? = some next) : next.effort < r.effort := by
  obtain ⟨running, idle, rfl⟩ := read?_eq_some_iff.1 step
  have before : r.effort =
      5 * (r.buffer.length + (content r.arrivals).length) + r.arrivals.length + 1 := by
    simp [effort, idle, running]
  rw [before]
  unfold read
  split
  · rename_i first rest found
    have parts : r.buffer = r.buffer.takeWhile (· != lineFeed) ++ first :: rest := by
      rw [← found, List.takeWhile_append_dropWhile]
    have length := congrArg List.length parts
    rw [List.length_append, List.length_cons] at length
    have most := takeLine_effort running rest (r.buffer.takeWhile (· != lineFeed))
    omega
  · split
    · rename_i bs arrivals coming
      simp only [effort, coming, content, idle, running, List.length_append, List.length_cons,
        Option.toList_none, List.length_nil, Bool.not_false, Bool.toNat_true]
      omega
    · simp only [effort, idle, Option.toList_none, List.length_nil, Bool.not_true, Bool.toNat_false]
      omega
    · split
      · simp [effort, idle]
      · rename_i left
        have some : 0 < r.buffer.length := List.length_pos_iff.2 (by simpa using left)
        have most := takeLine_effort running [] r.buffer
        rw [List.length_nil] at most
        omega

end Reader

end Overseer.Stream
