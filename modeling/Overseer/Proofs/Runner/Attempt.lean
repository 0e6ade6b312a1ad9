import Overseer.Proofs.Runner.Sights

/-!
# What a runner takes from a process

While it listens, a runner takes the messages of its process one after the other. It stops listening
after the message that says how the attempt ended, at the end of the stream, or when it obeys a
request to end; what comes after that is thrown away.
-/

namespace Overseer.Runner

def upToFinal : List Message → List Message
  | [] => []
  | m :: rest => if Attempt.isFinal m then [m] else m :: upToFinal rest

def Taken.sent? (t : Taken) : Option Message :=
  match t.act with
  | .emit m => some m
  | _ => none

def sent (past : List Taken) : List Message := past.reverse.filterMap Taken.sent?

/-- How the messages of a process have reached a runner that follows it. -/
inductive Attended (during : List Taken) : Phase → Prop where
  | crashed (deaf : received during = []) : Attended during .crashed
  | listening {a : Attempt} (queue : sent during = received during ++ a.stream)
      (going : ∀ m ∈ received during, Attempt.isFinal m = false)
      (free : during.any Taken.obeys = false) : Attended during (.listening a)
  | obeyed {a : Attempt} (part : received during <+: sent during)
      (going : ∀ m ∈ received during, Attempt.isFinal m = false)
      (obeyed : during.any Taken.obeys = true) : Attended during (.draining a)
  | final {a : Attempt} {front : List Message} {m : Message}
      (taken : received during = front ++ [m]) (final : Attempt.isFinal m = true)
      (part : received during <+: sent during)
      (going : ∀ m ∈ front, Attempt.isFinal m = false)
      (free : during.any Taken.obeys = false) : Attended during (.draining a)
  | exhausted {a : Attempt} (closed : a.streamOpen = false)
      (all : sent during = received during)
      (going : ∀ m ∈ received during, Attempt.isFinal m = false)
      (free : during.any Taken.obeys = false) : Attended during (.draining a)

theorem Attempt.record_stream (a : Attempt) (m : Message) : (a.record m).stream = a.stream := by
  unfold Attempt.record
  repeat' split
  all_goals rfl

theorem upToFinal_append {l : List Message} (going : ∀ m ∈ l, Attempt.isFinal m = false)
    (rest : List Message) : upToFinal (l ++ rest) = l ++ upToFinal rest := by
  induction l with
  | nil => rfl
  | cons m l ih =>
      have head := going m List.mem_cons_self
      have tail := ih fun n member => going n (List.mem_cons_of_mem _ member)
      simp [upToFinal, head, tail]

section
variable {config : Manager.Config} {clock : Clock} {r next : Runner} {act : Action}
  {effects : List Effect} {during earlier : List Taken} {t : Taken} {p : Phase}

@[simp] theorem sent_cons : sent (t :: during) = sent during ++ t.sent?.toList := by
  cases given : t.sent? <;> simp [sent, given]

theorem Attended.received_prefix (attended : Attended during p) :
    received during <+: upToFinal (sent during) := by
  cases attended with
  | crashed deaf =>
      rw [deaf]
      exact List.nil_prefix
  | listening queue going free =>
      rw [queue, upToFinal_append going]
      exact List.prefix_append _ _
  | obeyed part going obeyed =>
      obtain ⟨rest, part⟩ := part
      rw [← part, upToFinal_append going]
      exact List.prefix_append _ _
  | final taken final part going free =>
      obtain ⟨rest, part⟩ := part
      rw [← part, taken, List.append_assoc, upToFinal_append going]
      simp [upToFinal, final]
  | exhausted closed all going free =>
      have whole := upToFinal_append going []
      rw [List.append_nil] at whole
      rw [all, whole]
      exact List.prefix_append _ _

theorem Attended.received_eq {a : Attempt} (attended : Attended during (.draining a))
    (free : during.any Taken.obeys = false) : received during = upToFinal (sent during) := by
  cases attended with
  | obeyed part going obeyed => simp [free] at obeyed
  | final taken final part going free =>
      obtain ⟨rest, part⟩ := part
      rw [← part, taken, List.append_assoc, upToFinal_append going]
      simp [upToFinal, final]
  | exhausted closed all going free =>
      have whole := upToFinal_append going []
      rw [List.append_nil] at whole
      rw [all, whole]
      exact (List.append_nil _).symm

/-! ## What keeps it -/

theorem Attended.listen {a b : Attempt} (attended : Attended during (.listening a))
    (mute : t.sent? = none) (deaf : t.received? = none) (free : t.obeys = false)
    (stream : b.stream = a.stream) : Attended (t :: during) (.listening b) := by
  cases attended with
  | listening queue going calm =>
      refine .listening ?_ ?_ ?_
      · simpa [mute, deaf, stream] using queue
      · simpa [deaf] using going
      · simpa [free] using calm

theorem Attended.drain {a b : Attempt} (attended : Attended during (.draining a))
    (deaf : t.received? = none) (free : t.obeys = false)
    (closed : a.streamOpen = false → b.streamOpen = false)
    (mute : a.streamOpen = false → t.sent? = none) : Attended (t :: during) (.draining b) := by
  have grown {taken : List Message} (part : taken <+: sent during) :
      taken <+: sent (t :: during) := by
    rw [sent_cons]
    exact part.trans (List.prefix_append _ _)
  have same : received (t :: during) = received during := by simp [deaf]
  have calm : (t :: during).any Taken.obeys = during.any Taken.obeys := by simp [free]
  cases attended with
  | obeyed part going obeyed =>
      exact .obeyed (by rw [same]; exact grown part) (by rwa [same]) (by rwa [calm])
  | final taken final part going free =>
      exact .final (same.trans taken) final (by rw [same]; exact grown part) going (by rwa [calm])
  | exhausted ended all going free =>
      refine .exhausted (closed ended) ?_ (by rwa [same]) (by rwa [calm])
      rw [same, sent_cons, mute ended]
      simpa using all

theorem Rule.attended (rule : Rule config clock r act next effects)
    (attended : Attended during r.phase) (within : (Taken.mk clock r act).concludes = false) :
    Attended (⟨clock, r, act⟩ :: during) next.phase := by
  -- What concerns the request to end and the collector leaves the stream alone.
  have aside (mute : (Taken.mk clock r act).sent? = none)
      (deaf : (Taken.mk clock r act).received? = none)
      (free : (Taken.mk clock r act).obeys = false) (same : next.phase = r.phase) :
      Attended (⟨clock, r, act⟩ :: during) next.phase := by
    rw [same]
    cases phase : r.phase with
    | listening a =>
        rw [phase] at attended
        exact attended.listen mute deaf free rfl
    | draining a =>
        rw [phase] at attended
        exact attended.drain deaf free id fun _ => mute
    | crashed =>
        rw [phase] at attended
        cases attended with
        | crashed none => exact .crashed (by simp [deaf, none])
    | _ => rw [phase] at attended; cases attended
  cases rule with
  | kill | collect | flush => exact aside rfl rfl rfl rfl
  | expire phase | sample phase | tick phase | hangUp phase =>
      rw [phase] at attended
      exact attended.listen rfl rfl rfl rfl
  | discard phase =>
      rw [phase] at attended
      exact attended.drain rfl rfl id fun _ => rfl
  | lateHangUp phase =>
      rw [phase] at attended
      exact attended.drain rfl rfl (fun _ => rfl) fun _ => rfl
  | lateEmit phase streamOpen =>
      rw [phase] at attended
      exact attended.drain rfl rfl id fun closed => by simp [streamOpen] at closed
  | conclude => cases within
  | emit phase streamOpen =>
      rw [phase] at attended
      cases attended with
      | listening queue going free =>
          refine .listening ?_ ?_ free
          · simp [Taken.sent?, Taken.received?, queue]
          · simpa [Taken.received?] using going
  | @obey a phase killed =>
      rw [phase] at attended
      cases attended with
      | listening queue going free =>
          refine .obeyed ⟨a.stream, ?_⟩ ?_ (by simp [Taken.obeys])
          · simp [Taken.sent?, Taken.received?, queue]
          · simpa [Taken.received?] using going
  | @endOfStream a phase stream closed =>
      have deaf : (Taken.mk clock r .receive).received? = none := by
        simp [Taken.received?, phase, stream]
      rw [phase] at attended
      cases attended with
      | listening queue going free =>
          refine .exhausted closed ?_ ?_ free
          · simpa [deaf, Taken.sent?, stream] using queue
          · simpa [deaf] using going
  | @receive a m rest phase stream =>
      have taken : (Taken.mk clock r .receive).received? = some m := by
        simp [Taken.received?, phase, stream]
      rw [phase] at attended
      cases attended with
      | listening queue going free =>
          have part : sent (⟨clock, r, .receive⟩ :: during) =
              received (⟨clock, r, .receive⟩ :: during) ++ rest := by
            simp [taken, Taken.sent?, queue, stream]
          have stamped : Attempt.isFinal (m.stamp (.ofInt clock.nanos)) = Attempt.isFinal m := rfl
          simp only [Runner.receive, stamped]
          cases final : Attempt.isFinal m with
          | true =>
              exact .final (by rw [received_cons, taken]; rfl) final ⟨rest, part.symm⟩ going free
          | false =>
              refine .listening (by rw [part, Attempt.record_stream]) ?_ free
              intro n member
              rw [received_cons, taken] at member
              rcases List.mem_append.1 member with old | new
              · exact going n old
              · rw [List.mem_singleton.1 new]
                exact final
  | launch phase | resume phase | abandon phase | report phase | farewell phase =>
      rw [phase] at attended
      cases attended

theorem History.attended {q : Runner} {l : Launch} {began : Clock}
    (history : History config (during ++ ⟨began, q, .launch l⟩ :: earlier) r)
    (spawned : l.failure = none) (within : during.any Taken.concludes = false) :
    Attended during r.phase := by
  induction during generalizing r with
  | nil =>
      obtain ⟨-, effects, rule⟩ := history.last_step
      cases rule with
      | launch phase =>
          obtain ⟨hooks, q, seen, launch, -, launched⟩ := launch_cases config began q l
          rw [launch]
          cases launched with
          | followed => exact .listening rfl nofun rfl
          | crashed => exact .crashed rfl
          | failed failure => cases spawned.symm.trans failure
  | cons t during ih =>
      obtain ⟨history, rule⟩ := history.last_rule
      obtain ⟨last, within⟩ := Bool.or_eq_false_iff.1 within
      exact rule.attended (ih history within) last

end

end Overseer.Runner
