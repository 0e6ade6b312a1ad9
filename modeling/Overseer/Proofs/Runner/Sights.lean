import Overseer.Proofs.Runner.Trace

/-!
# What hooks and handlers see

A step shows its sights to all hooks, in turn and in full; what the hooks become and what they fire
is decided by these sights alone. The handlers of messages hear the accepted ones.
-/

namespace Overseer

theorem Hook.observeEach_append (hooks : List Hook) (first second : List Sight) :
    Hook.observeEach hooks (first ++ second) =
      ((Hook.observeEach (Hook.observeEach hooks first).1 second).1,
        (Hook.observeEach hooks first).2 ++
          (Hook.observeEach (Hook.observeEach hooks first).1 second).2) := by
  induction first generalizing hooks with
  | nil => rfl
  | cons s rest ih => simp [observeEach, ih]

def Sight.message? : Sight → Option Message
  | .message m => some m
  | _ => none

namespace Runner

def Effect.firing? : Effect → Option (Nat × Hook × Firing)
  | .fired i h f => some (i, h, f)
  | _ => none

def Effect.message? : Effect → Option Message
  | .message m => some m
  | _ => none

def Effect.isTermination : Effect → Bool
  | .terminated => true
  | _ => false

def Taken.received? (t : Taken) : Option Message :=
  match t.act, t.before.phase with
  | .receive, .listening a => a.stream.head?
  | _, _ => none

def Taken.heard? (t : Taken) : Option Message :=
  t.received?.map (·.stamp (.ofInt t.clock.nanos))

def Taken.sights (t : Taken) : List Sight :=
  match t.act, t.before.phase with
  | .launch l, .starting =>
      l.pids.map .pid ++ if l.failure.isSome then [.exit .error] else []
  | .tick, .listening a => [.tick (t.clock.now - a.began)]
  | .conclude, .draining a => [.exit (a.conclude t.clock.now).state]
  | _, _ => t.heard?.toList.map .message

def Taken.obeys (t : Taken) : Bool :=
  match t.act with
  | .obey => true
  | _ => false

def Taken.expires (t : Taken) : Bool :=
  match t.act with
  | .expire => true
  | _ => false

def Taken.concludes (t : Taken) : Bool :=
  match t.act with
  | .conclude => true
  | _ => false

def sights (past : List Taken) : List Sight := past.reverse.flatMap Taken.sights

def received (past : List Taken) : List Message := past.reverse.filterMap Taken.received?

def heard (past : List Taken) : List Message := past.reverse.filterMap Taken.heard?

section
variable {config : Manager.Config} {clock : Clock} {r next q : Runner} {act : Action}
  {effects : List Effect} {past later : List Taken} {t : Taken}

@[simp] theorem sights_cons : sights (t :: past) = sights past ++ t.sights := by
  simp [sights]

@[simp] theorem received_cons : received (t :: past) = received past ++ t.received?.toList := by
  cases taken : t.received? <;> simp [received, taken]

@[simp] theorem heard_cons : heard (t :: past) = heard past ++ t.heard?.toList := by
  cases taken : t.heard? <;> simp [heard, taken]

/-! ## Firings among the effects -/

@[simp] theorem filterMap_firing?_ofFiring (fired : List (Nat × Hook × Firing)) :
    (fired.map Effect.ofFiring).filterMap Effect.firing? = fired := by
  induction fired with
  | nil => rfl
  | cons head rest ih => simpa [Effect.ofFiring, Effect.firing?] using ih

@[simp] theorem filterMap_message?_ofFiring (fired : List (Nat × Hook × Firing)) :
    (fired.map Effect.ofFiring).filterMap Effect.message? = [] := by
  simp [Effect.ofFiring, Effect.message?]

@[simp] theorem countP_isTermination_ofFiring (fired : List (Nat × Hook × Firing)) :
    (fired.map Effect.ofFiring).countP Effect.isTermination = 0 := by
  simp [Effect.ofFiring, Effect.isTermination]

theorem follow_hooks (config : Manager.Config) (clock : Clock) (r : Runner) :
    (r.follow config clock).hooks = r.hooks := by
  unfold follow
  split <;> rfl

theorem launch_shows (config : Manager.Config) (clock : Clock) (r : Runner) (l : Launch) :
    let shown := Hook.observeEach r.hooks
      (l.pids.map .pid ++ if l.failure.isSome then [.exit .error] else [])
    (r.launch config clock l).1.hooks = shown.1 ∧
      (r.launch config clock l).2 = .launched :: shown.2.map Effect.ofFiring := by
  simp only [launch]
  rw [foldl_reveal l.pids _ fun _ _ => rfl]
  cases l.failure with
  | none => simp [follow_hooks]
  | some error =>
      simp [Hook.observeEach_append, Hook.observeEach, reveal_fst, reveal_snd, stop]

theorem conclude_shows (config : Manager.Config) (clock : Clock) (r : Runner) (a : Attempt) :
    let shown := Hook.observeAll r.hooks (.exit (a.conclude clock.now).state)
    (r.conclude config clock a).1.hooks = shown.1 ∧
      (r.conclude config clock a).2 = shown.2.map Effect.ofFiring := by
  simp only [conclude, reveal_fst, reveal_snd]
  split
  · exact ⟨rfl, rfl⟩
  · split <;> exact ⟨rfl, rfl⟩

theorem receive_shows (clock : Clock) (r : Runner) (a : Attempt) (m : Message) :
    let stamped := m.stamp (.ofInt clock.nanos)
    let shown := Hook.observeAll r.hooks (.message stamped)
    (r.receive clock a m).1.hooks = shown.1 ∧
      (r.receive clock a m).2 = shown.2.map Effect.ofFiring ++
        if r.command.accepts stamped.level then [.message stamped] else [] :=
  ⟨rfl, rfl⟩

/-! ## What a step shows -/

structure Shows (t : Taken) (next : Runner) (effects : List Effect) : Prop where
  hooks : next.hooks = (Hook.observeEach t.before.hooks t.sights).1
  fired : effects.filterMap Effect.firing? = (Hook.observeEach t.before.hooks t.sights).2
  messages : effects.filterMap Effect.message? =
    t.heard?.toList.filter fun m => t.before.command.accepts m.level
  terminations : effects.countP Effect.isTermination = (t.obeys || t.expires).toNat

theorem Rule.shows (rule : Rule config clock r act next effects) :
    Shows ⟨clock, r, act⟩ next effects := by
  cases rule with
  | kill => exact ⟨rfl, rfl, rfl, rfl⟩
  | collect | flush =>
      refine ⟨rfl, ?_, ?_, ?_⟩
      · simp [Taken.sights, Taken.heard?, Taken.received?, Hook.observeEach, Effect.firing?]
      · simp [Taken.heard?, Taken.received?, Effect.message?]
      · simp [Taken.obeys, Taken.expires, Effect.isTermination]
  | @launch l phase =>
      obtain ⟨hooks, shown⟩ := launch_shows config clock r l
      have seen : (Taken.mk clock r (.launch l)).sights =
          l.pids.map .pid ++ if l.failure.isSome then [.exit .error] else [] := by
        simp only [Taken.sights, phase]
      refine ⟨?_, ?_, ?_, ?_⟩
      · rw [hooks, seen]
      · rw [shown, seen, List.filterMap_cons_none rfl, filterMap_firing?_ofFiring]
      · rw [shown, List.filterMap_cons_none rfl, filterMap_message?_ofFiring]
        rfl
      · rw [shown, List.countP_cons_of_neg (by decide), countP_isTermination_ofFiring]
        rfl
  | obey phase | expire phase =>
      refine ⟨?_, ?_, rfl, rfl⟩ <;> simp [Taken.sights, Taken.heard?, Taken.received?] <;> rfl
  | @tick a phase due =>
      have seen : (Taken.mk clock r .tick).sights = [.tick (clock.now - a.began)] := by
        simp only [Taken.sights, phase]
      refine ⟨?_, ?_, ?_, ?_⟩
      · rw [seen]
        rfl
      · rw [reveal_snd, filterMap_firing?_ofFiring, seen]
        simp [Hook.observeEach]
      · rw [reveal_snd, filterMap_message?_ofFiring]
        rfl
      · rw [reveal_snd, countP_isTermination_ofFiring]
        rfl
  | @receive a m rest phase stream =>
      obtain ⟨hooks, shown⟩ := receive_shows clock r { a with stream := rest } m
      have taken : (Taken.mk clock r .receive).heard? = some (m.stamp (.ofInt clock.nanos)) := by
        simp only [Taken.heard?, Taken.received?, phase, stream]
        rfl
      have seen : (Taken.mk clock r .receive).sights =
          [.message (m.stamp (.ofInt clock.nanos))] := by
        simp only [Taken.sights, taken]
        rfl
      refine ⟨?_, ?_, ?_, ?_⟩
      · rw [hooks, seen]
        rfl
      · rw [shown, List.filterMap_append, filterMap_firing?_ofFiring, seen]
        split <;> simp [Hook.observeEach, Effect.firing?]
      · rw [shown, List.filterMap_append, filterMap_message?_ofFiring, taken]
        split <;> simp_all [Effect.message?]
      · rw [shown, List.countP_append, countP_isTermination_ofFiring]
        split <;> rfl
  | endOfStream phase stream closed =>
      have taken : (Taken.mk clock r .receive).heard? = none := by
        simp [Taken.heard?, Taken.received?, phase, stream]
      refine ⟨?_, ?_, ?_, rfl⟩ <;> simp only [Taken.sights, taken] <;> rfl
  | @conclude a phase stream closed =>
      obtain ⟨hooks, shown⟩ := conclude_shows config clock r a
      have seen : (Taken.mk clock r .conclude).sights =
          [.exit (a.conclude clock.now).state] := by
        simp only [Taken.sights, phase]
      refine ⟨?_, ?_, ?_, ?_⟩
      · rw [hooks, seen]
        rfl
      · rw [shown, filterMap_firing?_ofFiring, seen]
        simp [Hook.observeEach]
      · rw [shown, filterMap_message?_ofFiring]
        rfl
      · rw [shown, countP_isTermination_ofFiring]
        rfl
  | @farewell result k phase =>
      refine ⟨?_, ?_, ?_, ?_⟩ <;> cases k <;> rfl
  | sample phase | emit phase | hangUp phase | discard phase | lateEmit phase | lateHangUp phase
  | resume phase | abandon phase | report phase => exact ⟨rfl, rfl, rfl, rfl⟩

/-! ## What a run shows -/

theorem History.command_eq (history : History config (later ++ t :: past) r) :
    r.command = t.before.command := by
  induction later generalizing r with
  | nil => exact history.last_rule.2.command_eq
  | cons u later ih =>
      obtain ⟨history, rule⟩ := history.last_rule
      rw [rule.command_eq, ih history]

theorem History.reveals (history : History config (later ++ t :: past) r) :
    Hook.observeEach t.before.hooks (sights (later ++ [t])) =
      (r.hooks, (trace config (later ++ [t])).filterMap Effect.firing?) := by
  induction later generalizing r with
  | nil =>
      obtain ⟨-, rule⟩ := history.last_rule
      have shows := rule.shows
      simp [sights, trace, shows.hooks, shows.fired]
  | cons u later ih =>
      obtain ⟨history, rule⟩ := history.last_rule
      have shows := rule.shows
      have before := ih history
      rw [List.cons_append, sights_cons, trace_cons, Hook.observeEach_append, before,
        List.filterMap_append, shows.hooks, shows.fired]

theorem History.messages_eq (history : History config (later ++ past) r) :
    (trace config later).filterMap Effect.message? =
      (heard later).filter fun m => r.command.accepts m.level := by
  induction later generalizing r with
  | nil => rfl
  | cons u later ih =>
      obtain ⟨history, rule⟩ := history.last_rule
      have command := rule.command_eq
      have earlier := command ▸ ih history
      rw [trace_cons, heard_cons, List.filterMap_append, List.filter_append, rule.shows.messages,
        earlier, command]

theorem Taken.sights_message? (t : Taken) :
    t.sights.filterMap Sight.message? = t.heard?.toList := by
  unfold Taken.sights
  split
  · rename_i l act phase
    have silent : t.heard? = none := by simp [Taken.heard?, Taken.received?, act]
    rw [silent]
    cases l.failure <;> simp [Sight.message?]
  · rename_i a act phase
    simp [Taken.heard?, Taken.received?, act, Sight.message?]
  · rename_i a act phase
    simp [Taken.heard?, Taken.received?, act, Sight.message?]
  · cases t.heard? <;> rfl

theorem sights_messages (past : List Taken) :
    (sights past).filterMap Sight.message? = heard past := by
  induction past with
  | nil => rfl
  | cons t past ih =>
      rw [sights_cons, heard_cons, List.filterMap_append, ih, t.sights_message?]

end

end Runner

end Overseer
