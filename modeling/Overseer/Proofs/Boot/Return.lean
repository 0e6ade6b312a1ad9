import Mathlib
import Overseer.Boot.Descent

/-!
# The resolver returns

The steps from the entry of a key to its answer do what `resolve` does, and put the frames and the
chain back. As the steps leave no choice, every run comes to an end, wherever it begins, and the run
of a batch ends with its tree.
-/

namespace Overseer.Boot.Moment

open Relation

def Step (index : List Entry) (m m' : Moment) : Prop := step? index m = some m'

def Reaches (index : List Entry) : Moment → Moment → Prop := ReflTransGen (Step index)

def Inner (index : List Entry) (depth : Nat) (m m' : Moment) : Prop :=
  Step index m m' ∧ depth ≤ m'.pending

/-- The first later moment at which fewer keys are pending: the key that was looked at is
answered. -/
def Returns (index : List Entry) (m r : Moment) : Prop :=
  ∃ u, ReflTransGen (Inner index m.pending) m u ∧ Step index u r ∧ r.pending < m.pending

section
variable {index : List Entry} {m m' u u' r r' : Moment} {depth : Nat}

theorem Step.rightUnique (index : List Entry) : Relator.RightUnique (Step index) := by
  intro m m' m'' one other
  exact Option.some.inj (one.symm.trans other)

theorem Inner.rightUnique (index : List Entry) (depth : Nat) :
    Relator.RightUnique (Inner index depth) := by
  intro m m' m'' one other
  exact Step.rightUnique index one.1 other.1

theorem Inner.reaches (run : ReflTransGen (Inner index depth) m m') : Reaches index m m' :=
  ReflTransGen.mono (fun _ _ inner => inner.1) _ _ run

theorem Inner.shallower {depth' : Nat} (le : depth' ≤ depth)
    (run : ReflTransGen (Inner index depth) m m') : ReflTransGen (Inner index depth') m m' :=
  ReflTransGen.mono (fun _ _ inner => ⟨inner.1, le.trans inner.2⟩) _ _ run

theorem Inner.return_unique (run : ReflTransGen (Inner index depth) u u') (step : Step index u r)
    (less : r.pending < depth) (step' : Step index u' r') : r' = r := by
  cases run.cases_head with
  | inl same =>
      subst same
      exact Step.rightUnique index step' step
  | inr more =>
      obtain ⟨further, inner, -⟩ := more
      have same := Step.rightUnique index inner.1 step
      subst same
      exact absurd inner.2 (Nat.not_le.2 less)

theorem Returns.unique (returns : Returns index m r) (other : Returns index m r') : r' = r := by
  obtain ⟨u, run, step, less⟩ := returns
  obtain ⟨u', run', step', less'⟩ := other
  rcases ReflTransGen.total_of_right_unique (Inner.rightUnique index _) run run' with on | back
  · exact Inner.return_unique on step less step'
  · exact (Inner.return_unique back step' less' step).symm

theorem Returns.of_step (step : Step index m r) (less : r.pending < m.pending) :
    Returns index m r := ⟨m, .refl, step, less⟩

theorem Returns.reaches (returns : Returns index m r) : Reaches index m r := by
  obtain ⟨u, run, step, -⟩ := returns
  exact (Inner.reaches run).tail step

theorem Returns.inner (returns : Returns index m r) (before : depth ≤ m.pending)
    (after : depth ≤ r.pending) : ReflTransGen (Inner index depth) m r := by
  obtain ⟨u, run, step, -⟩ := returns
  exact (Inner.shallower before run).tail ⟨step, after⟩

end

/-! ## The recursion of the resolver -/

theorem cycle_broken (index : List Entry) (roots : List Entry) (found : List (Int × Entry))
    (frames : List Frame) (chain : List String) (key : String) (members : List String)
    (s : Resolution) :
    ReflTransGen (Inner index (frames.length + 1))
      ⟨roots, found, frames, chain, .breaking key members, s⟩
      ⟨roots, found, frames, chain, .breaking key [],
        members.foldl (fun s member => (s.setMark member .broken).report
          (.cyclic member (chain.dropWhile (· != key) ++ [key]))) s⟩ := by
  induction members generalizing s with
  | nil => exact .refl
  | cons member rest ih => exact .head ⟨rfl, Nat.le_refl _⟩ (ih _)

mutual

theorem enter_returns (index : List Entry) (roots : List Entry) (found : List (Int × Entry))
    (frames : List Frame) (chain : List String) (key : String) (s : Resolution) :
    Returns index ⟨roots, found, frames, chain, .enter key, s⟩
      ⟨roots, found, frames, chain, .leave key (resolve index chain key s).1,
        (resolve index chain key s).2⟩ := by
  rw [resolve]
  split
  · rename_i mark known
    exact .of_step (by simp [Step, step?, enter, known]) (Nat.lt_succ_self _)
  · rename_i fresh
    split
    · rename_i onChain
      have turned : Inner index (frames.length + 1)
          ⟨roots, found, frames, chain, .enter key, s⟩
          ⟨roots, found, frames, chain, .breaking key (chain.dropWhile (· != key)), s⟩ := by
        constructor
        · simp only [Step, step?, enter, fresh, if_pos onChain]
        · exact Nat.le_refl _
      have broken := cycle_broken index roots found frames chain key
        (chain.dropWhile (· != key)) s
      exact ⟨_, .head turned broken, rfl, Nat.lt_succ_self _⟩
    · rename_i apart
      split
      · rename_i missing
        have step : step? index ⟨roots, found, frames, chain, .enter key, s⟩ =
            some ⟨roots, found, frames, chain, .leave key none, s⟩ := by
          simp only [step?, enter, fresh, if_neg apart, missing]
        exact .of_step step (Nat.lt_succ_self _)
      · rename_i entry known
        split
        · rename_i free
          have step : step? index ⟨roots, found, frames, chain, .enter key, s⟩ =
              some ⟨roots, found, frames, chain, .leave key (some Phase.boot.weight),
                s.setMark key (.resolved Phase.boot.weight)⟩ := by
            simp only [step?, enter, fresh, if_neg apart, known, if_pos free]
          exact .of_step step (Nat.lt_succ_self _)
        · rename_i bound
          have fewer : offChain index (chain ++ [key]) < offChain index chain :=
            offChain_lt known (by simpa using apart)
          have opened : Inner index (frames.length + 1)
              ⟨roots, found, frames, chain, .enter key, s⟩
              ⟨roots, found, ⟨key, entry.after, 0, false⟩ :: frames, chain ++ [key], .next, s⟩ := by
            constructor
            · simp only [Step, step?, enter, fresh, if_neg apart, known, if_neg bound]
            · exact Nat.le_refl _
          have through := looks_through index roots found frames (chain ++ [key]) key entry.after 0
            false s
          apply Exists.intro _
          apply And.intro (ReflTransGen.head opened through)
          apply And.intro _ (Nat.lt_succ_self _)
          simp only [Step, step?, look, List.dropLast_concat]
termination_by (offChain index chain, 0)

theorem looks_through (index : List Entry) (roots : List Entry) (found : List (Int × Entry))
    (frames : List Frame) (chain : List String) (key : String) (deps : List String) (weight : Int)
    (broken : Bool) (s : Resolution) :
    ReflTransGen (Inner index (frames.length + 1))
      ⟨roots, found, ⟨key, deps, weight, broken⟩ :: frames, chain, .next, s⟩
      ⟨roots, found, ⟨key, [], (resolveAll index chain key deps weight broken s).1,
          (resolveAll index chain key deps weight broken s).2.1⟩ :: frames, chain, .next,
        (resolveAll index chain key deps weight broken s).2.2⟩ := by
  cases deps with
  | nil =>
      rw [resolveAll]
  | cons dep rest =>
      rw [resolveAll]
      split
      · rename_i phase tag
        apply ReflTransGen.head _
          (looks_through index roots found frames chain key rest (weight + phase.weight) broken s)
        constructor
        · simp only [Step, step?, look, tag]
        · exact Nat.le_refl _
      · rename_i untagged
        split
        · rename_i missing
          apply ReflTransGen.head _ (looks_through index roots found frames chain key rest weight
            true (s.report (.unknownDependency key dep)))
          constructor
          · simp only [Step, step?, look, untagged, if_pos missing]
          · exact Nat.le_refl _
        · rename_i listed
          have asked : Inner index (frames.length + 1)
              ⟨roots, found, ⟨key, dep :: rest, weight, broken⟩ :: frames, chain, .next, s⟩
              ⟨roots, found, ⟨key, rest, weight, broken⟩ :: frames, chain, .enter dep, s⟩ := by
            constructor
            · simp only [Step, step?, look, untagged, if_neg listed]
            · exact Nat.le_succ _
          have answered := (enter_returns index roots found (⟨key, rest, weight, broken⟩ :: frames)
            chain dep s).inner (Nat.le_succ _) (Nat.le_refl _)
          apply (ReflTransGen.head asked answered).trans
          split
          · rename_i w s' resolved
            rw [resolved]
            apply ReflTransGen.head _
              (looks_through index roots found frames chain key rest (weight + (w + 1)) broken s')
            constructor
            · simp only [Step, step?, take]
            · exact Nat.le_refl _
          · rename_i s' resolved
            rw [resolved]
            apply ReflTransGen.head _ (looks_through index roots found frames chain key rest weight
              true (if s'.mark? key = some .broken then s'
                else s'.report (.brokenDependency key dep)))
            constructor
            · simp only [Step, step?, take]
            · exact Nat.le_refl _
termination_by (offChain index chain, deps.length + 1)

end

/-! ## The end of a run -/

section
variable {index : List Entry} {m m' last : Moment}

theorem Reaches.last_unique (stuck : step? index last = none) (ends : Reaches index m last)
    (reached : Reaches index m m') : Reaches index m' last := by
  rcases ReflTransGen.total_of_right_unique (Step.rightUnique index) reached ends with on | back
  · exact on
  · cases back.cases_head with
    | inl same => exact same ▸ .refl
    | inr more =>
        obtain ⟨further, step, -⟩ := more
        cases stuck.symm.trans step

theorem Reaches.acc (stuck : step? index last = none) (ends : Reaches index m last) :
    Acc (fun later earlier => Step index earlier later) m := by
  induction ends using ReflTransGen.head_induction_on with
  | refl =>
      constructor
      intro further step
      cases stuck.symm.trans step
  | head step _ ih =>
      constructor
      intro further other
      rwa [Step.rightUnique index other step]

end

theorem frame_closes (index : List Entry) (roots : List Entry) (found : List (Int × Entry))
    (f : Frame) (outer : List Frame) (chain : List String) (s : Resolution) :
    ∃ weight s', Reaches index ⟨roots, found, f :: outer, chain, .next, s⟩
      ⟨roots, found, outer, chain.dropLast, .leave f.key weight, s'⟩ := by
  have through := looks_through index roots found outer chain f.key f.rest f.weight f.broken s
  exact ⟨_, _, (Inner.reaches through).tail rfl⟩

theorem ends (index : List Entry) (roots : List Entry) (found : List (Int × Entry))
    (frames : List Frame) (chain : List String) (focus : Focus) (s : Resolution) :
    ∃ last, Reaches index ⟨roots, found, frames, chain, focus, s⟩ last ∧
      step? index last = none := by
  -- What is left gets less only from frame to frame: so an answer is taken in, and the frame that it
  -- is for is led to its end, in one case.
  match focus, frames, roots with
  | .enter key, frames, roots =>
      have answered := enter_returns index roots found frames chain key s
      obtain ⟨last, run, stuck⟩ := ends index roots found frames chain
        (.leave key (resolve index chain key s).1) (resolve index chain key s).2
      exact ⟨last, answered.reaches.trans run, stuck⟩
  | .breaking key members, frames, roots =>
      have broken := cycle_broken index roots found frames chain key members s
      obtain ⟨last, run, stuck⟩ := ends index roots found frames chain (.leave key none) _
      exact ⟨last, ((Inner.reaches broken).tail rfl).trans run, stuck⟩
  | .next, f :: outer, roots =>
      obtain ⟨weight, s', closed⟩ := frame_closes index roots found f outer chain s
      obtain ⟨last, run, stuck⟩ := ends index roots found outer chain.dropLast
        (.leave f.key weight) s'
      exact ⟨last, closed.trans run, stuck⟩
  | .leave key weight, f :: outer, roots =>
      obtain ⟨g, s', taken⟩ : ∃ g s', Step index
          ⟨roots, found, f :: outer, chain, .leave key weight, s⟩
          ⟨roots, found, g :: outer, chain, .next, s'⟩ := by
        cases weight with
        | none => exact ⟨_, _, rfl⟩
        | some w => exact ⟨_, _, rfl⟩
      obtain ⟨weight', s'', closed⟩ := frame_closes index roots found g outer chain s'
      obtain ⟨last, run, stuck⟩ := ends index roots found outer chain.dropLast
        (.leave g.key weight') s''
      exact ⟨last, (closed.trans run).head taken, stuck⟩
  | .next, [], e :: rest =>
      have asked : Step index ⟨e :: rest, found, [], chain, .next, s⟩
        ⟨e :: rest, found, [], chain, .enter e.key, s⟩ := rfl
      have answered := enter_returns index (e :: rest) found [] chain e.key s
      obtain ⟨last, run, stuck⟩ := ends index rest
        (found ++ ((resolve index chain e.key s).1.map (·, e)).toList) [] chain .next
        (resolve index chain e.key s).2
      exact ⟨last, ((answered.reaches.tail rfl).trans run).head asked, stuck⟩
  | .leave key weight, [], e :: rest =>
      have told : Step index ⟨e :: rest, found, [], chain, .leave key weight, s⟩
        ⟨rest, found ++ (weight.map (·, e)).toList, [], chain, .next, s⟩ := rfl
      obtain ⟨last, run, stuck⟩ := ends index rest (found ++ (weight.map (·, e)).toList) [] chain
        .next s
      exact ⟨last, run.head told, stuck⟩
  | .next, [], [] => exact ⟨_, .refl, rfl⟩
  | .leave key weight, [], [] => exact ⟨_, .refl, rfl⟩
termination_by
  (roots.length, frames.length, match focus with | .enter _ | .breaking _ _ => 1 | _ => 0)

theorem wellFounded_step (index : List Entry) :
    WellFounded fun later earlier => Step index earlier later := by
  constructor
  intro m
  obtain ⟨last, run, stuck⟩ := ends index m.roots m.found m.frames m.chain m.focus m.resolution
  exact Reaches.acc stuck run

theorem roots_resolved (index roots : List Entry) (found : List (Int × Entry)) (s : Resolution) :
    Reaches index ⟨roots, found, [], [], .next, s⟩
      ⟨[], found ++ (resolveEntries index roots s).1, [], [], .next,
        (resolveEntries index roots s).2⟩ := by
  induction roots generalizing found s with
  | nil =>
      rw [resolveEntries, List.append_nil]
      exact .refl
  | cons e rest ih =>
      have asked : Step index ⟨e :: rest, found, [], [], .next, s⟩
        ⟨e :: rest, found, [], [], .enter e.key, s⟩ := rfl
      have answered := enter_returns index (e :: rest) found [] [] e.key s
      rw [resolveEntries]
      generalize resolve index [] e.key s = r at answered ⊢
      obtain ⟨weight, s'⟩ := r
      have told : Step index ⟨e :: rest, found, [], [], .leave e.key weight, s'⟩
        ⟨rest, found ++ (weight.map (·, e)).toList, [], [], .next, s'⟩ := rfl
      have others := ih (found ++ (weight.map (·, e)).toList) s'
      have run := ((answered.reaches.tail told).trans others).head asked
      cases weight with
      | none => simpa [Reaches] using run
      | some w => simpa [Reaches] using run

theorem start_ends (batch : List Entry) :
    ∃ last, Reaches (indexEntries batch).1 (start batch) last ∧
      step? (indexEntries batch).1 last = none ∧ last.outcome = Tree.ofEntries batch :=
  ⟨_, roots_resolved (indexEntries batch).1 (indexEntries batch).1 [] ⟨[], (indexEntries batch).2⟩,
    rfl, rfl⟩

end Overseer.Boot.Moment
