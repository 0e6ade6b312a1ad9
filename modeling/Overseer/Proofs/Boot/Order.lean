import Overseer.Proofs.Boot.Acceptance

/-!
# The order of the start

The tree holds what is accepted by weight, and by place in the batch where weights are equal. A
weight is the sum of what the entry comes after, each dependency counting one more than its own
weight, so that an entry starts after all that it depends on.
-/

namespace Overseer.Boot

/-- The place in a batch of the first entry with a key. -/
def arrival (batch : List Entry) (key : String) : Nat := batch.findIdx fun e => e.key == key

/-- What a dependency adds to the weight of an entry. -/
def Tree.share (t : Tree) (dep : String) : Int :=
  match Phase.ofTag? dep with
  | some phase => phase.weight
  | none => (t.weight? dep).getD 0 + 1

theorem addUp_eq_sum {t : Tree} {deps : List String} {total : Int}
    (sum : addUp t.weight? deps = some total) : total = (deps.map t.share).sum := by
  induction deps generalizing total with
  | nil =>
      cases sum
      rfl
  | cons dep rest ih =>
      rw [List.map_cons, List.sum_cons]
      cases tag : Phase.ofTag? dep with
      | some phase =>
          have share : t.share dep = phase.weight := by simp only [Tree.share, tag]
          simp only [addUp, tag] at sum
          obtain ⟨later, known, rfl⟩ := Option.map_eq_some_iff.1 sum
          rw [share, ih known]
      | none =>
          simp only [addUp, tag] at sum
          obtain ⟨w, weight, sum⟩ := Option.bind_eq_some_iff.1 sum
          obtain ⟨later, known, rfl⟩ := Option.map_eq_some_iff.1 sum
          have share : t.share dep = w + 1 := by
            simp only [Tree.share, tag, weight, Option.getD_some]
          rw [share, ih known]

theorem Entry.eq_of_weightBy {t : Tree} {e : Entry} {w : Int}
    (weight : e.weightBy t.weight? = some w) :
    w = if e.after = [] then Phase.boot.weight else (e.after.map t.share).sum := by
  unfold weightBy at weight
  split at weight
  · rename_i free
    rw [if_pos (List.isEmpty_iff.1 free), Option.some.inj weight]
  · rename_i bound
    rw [if_neg fun free => bound (List.isEmpty_iff.2 free)]
    exact addUp_eq_sum weight

/-! ## The place in the batch -/

theorem arrival_append_of_lt {batch : List Entry} {key : String} (e : Entry)
    (known : arrival batch key < batch.length) :
    arrival (batch ++ [e]) key = arrival batch key := by
  unfold arrival at known ⊢
  rw [List.findIdx_append, if_pos known]

theorem arrival_append_self {batch : List Entry} {e : Entry} (named : e.key ≠ "")
    (missing : firstOf batch e.key = none) : arrival (batch ++ [e]) e.key = batch.length := by
  have absent : arrival batch e.key = batch.length := by
    refine List.findIdx_eq_length.2 fun d member => ?_
    have other := List.find?_eq_none.1 missing d member
    by_cases same : d.key = e.key
    · simp [same, named] at other
    · simpa using same
  unfold arrival at absent ⊢
  rw [List.findIdx_append, absent]
  simp

theorem indexEntries_pairwise (batch : List Entry) :
    (∀ e ∈ (indexEntries batch).1, arrival batch e.key < batch.length) ∧
      (indexEntries batch).1.Pairwise fun d e => arrival batch d.key < arrival batch e.key := by
  induction batch using List.reverseRecOn with
  | nil => exact ⟨nofun, .nil⟩
  | append_singleton batch e ih =>
      obtain ⟨within, ordered⟩ := ih
      have same : ∀ d ∈ (indexEntries batch).1,
          arrival (batch ++ [e]) d.key = arrival batch d.key :=
        fun d member => arrival_append_of_lt e (within d member)
      have within' : ∀ d ∈ (indexEntries batch).1,
          arrival (batch ++ [e]) d.key < (batch ++ [e]).length := by
        intro d member
        rw [same d member, List.length_append]
        exact Nat.lt_add_right _ (within d member)
      have ordered' : (indexEntries batch).1.Pairwise fun d d' =>
          arrival (batch ++ [e]) d.key < arrival (batch ++ [e]) d'.key := by
        refine ordered.imp_of_mem fun {d d'} first second less => ?_
        rwa [same d first, same d' second]
      have found := congrFun (findEntry_indexEntries batch) e.key
      rw [indexEntries_append]
      generalize indexEntries batch = r at *
      obtain ⟨index, errors⟩ := r
      simp only [indexEntries.add] at *
      split
      · exact ⟨within', ordered'⟩
      · rename_i named
        split
        · exact ⟨within', ordered'⟩
        · rename_i missing
          rw [found, Option.not_isSome_iff_eq_none] at missing
          have last := arrival_append_self (by simpa using named) missing
          refine ⟨fun d member => ?_, List.pairwise_append.2
            ⟨ordered', List.pairwise_singleton _ _, ?_⟩⟩
          · rcases List.mem_append.1 member with member | member
            · exact within' d member
            · rw [List.mem_singleton.1 member, last]
              simp
          · intro d first d' second
            rw [List.mem_singleton.1 second, last, same d first]
            exact within d first

/-! ## Sorting -/

section
variable {α : Type*} {l : List (Int × α)}

theorem weight_le_trans (a b c : Int × α) :
    decide (a.1 ≤ b.1) = true → decide (b.1 ≤ c.1) = true → decide (a.1 ≤ c.1) = true := by
  simpa using Int.le_trans

theorem weight_le_total (a b : Int × α) : (decide (a.1 ≤ b.1) || decide (b.1 ≤ a.1)) = true := by
  simpa using Int.le_total a.1 b.1

theorem mergeSort_weights :
    (l.mergeSort fun a b => a.1 ≤ b.1).Pairwise fun a b => a.1 ≤ b.1 := by
  have sorted := List.pairwise_mergeSort weight_le_trans weight_le_total l
  exact sorted.imp fun le => by simpa using le

theorem mergeSort_filter (w : Int) :
    (l.mergeSort fun a b => a.1 ≤ b.1).filter (fun a => a.1 == w) = l.filter fun a => a.1 == w := by
  have level : (l.filter fun a => a.1 == w).Pairwise fun a b => decide (a.1 ≤ b.1) = true := by
    refine List.pairwise_of_forall_mem_list fun a first b second => ?_
    have one : a.1 = w := by simpa using (List.mem_filter.1 first).2
    have other : b.1 = w := by simpa using (List.mem_filter.1 second).2
    simp [one, other]
  have kept :=
    List.sublist_mergeSort weight_le_trans weight_le_total level List.filter_sublist
  have inside := kept.filter fun a => a.1 == w
  simp only [List.filter_filter, Bool.and_self] at inside
  refine (inside.eq_of_length ?_).symm
  exact ((List.mergeSort_perm _ _).filter _).length_eq.symm

theorem mergeSort_pairwise {R : α → α → Prop} (ordered : l.Pairwise fun a b => R a.2 b.2) :
    (l.mergeSort fun a b => a.1 ≤ b.1).Pairwise
      fun a b => a.1 < b.1 ∨ a.1 = b.1 ∧ R a.2 b.2 := by
  rw [List.pairwise_iff_forall_sublist]
  intro a b pair
  have le : a.1 ≤ b.1 := List.pairwise_iff_forall_sublist.1 mergeSort_weights pair
  rcases Int.lt_or_eq_of_le le with less | same
  · exact .inl less
  · have filtered := pair.filter fun x => x.1 == b.1
    rw [mergeSort_filter] at filtered
    have level : [a, b].Sublist (l.filter fun x => x.1 == b.1) := by
      simpa [same] using filtered
    have old : [a, b].Sublist l := level.trans List.filter_sublist
    exact .inr ⟨same, List.pairwise_iff_forall_sublist.1 ordered old⟩

end

/-! ## The tree -/

namespace Tree

variable {batch : List Entry}

theorem entries_pairwise (batch : List Entry) : (ofEntries batch).1.entries.Pairwise fun a b =>
    a.1 < b.1 ∨ a.1 = b.1 ∧ arrival batch a.2.key < arrival batch b.2.key := by
  have found := (indexEntries_pairwise batch).2.sublist
    (resolveEntries_sublist (indexEntries batch).1 (indexEntries batch).1
      ⟨[], (indexEntries batch).2⟩)
  rw [List.pairwise_map] at found
  exact mergeSort_pairwise (R := fun a b : Entry => arrival batch a.key < arrival batch b.key) found

theorem lt_of_weight_lt {i j : Nat} {x y : Int × Entry}
    (first : (ofEntries batch).1.entries[i]? = some x)
    (second : (ofEntries batch).1.entries[j]? = some y) (lighter : x.1 < y.1) : i < j := by
  obtain ⟨boundI, rfl⟩ := List.getElem?_eq_some_iff.1 first
  obtain ⟨boundJ, rfl⟩ := List.getElem?_eq_some_iff.1 second
  by_contra late
  rcases Nat.lt_or_eq_of_le (Nat.le_of_not_lt late) with earlier | rfl
  · have order := List.pairwise_iff_getElem.1 (entries_pairwise batch) j i boundJ boundI earlier
    rcases order with less | ⟨same, -⟩ <;> omega
  · omega

/-- The weight of an entry is that of an ordinary boot job if it comes after nothing, and otherwise
the sum over what it comes after, all of which is accepted with it. The entries start by weight, and
in the order of the batch where weights are equal; so each of them starts after all that it depends
on. -/
theorem weights_and_order (batch : List Entry) :
    (∀ w e, (w, e) ∈ (ofEntries batch).1.entries →
      (ofEntries batch).1.weight? e.key = some w ∧
      w = (if e.after = [] then 1000000 else (e.after.map (ofEntries batch).1.share).sum) ∧
      ∀ dep ∈ e.dependencies, ∃ d ∈ (ofEntries batch).1.services, d.key = dep) ∧
    (ofEntries batch).1.entries.Pairwise (fun a b =>
      a.1 < b.1 ∨ a.1 = b.1 ∧ arrival batch a.2.key < arrival batch b.2.key) ∧
    ∀ (i j : Nat) (d e : Entry), (ofEntries batch).1.services[i]? = some d →
      (ofEntries batch).1.services[j]? = some e → d.key ∈ e.dependencies → i < j := by
  refine ⟨fun w e member => ⟨weight?_of_mem member, ?_, fun dep needed => ?_⟩,
    entries_pairwise batch, fun i j d e first second needed => ?_⟩
  · exact Entry.eq_of_weightBy (weighs member).2
  · obtain ⟨w', weight, -⟩ := dependency_lt member needed
    obtain ⟨d, there, rfl⟩ := weight?_some weight
    exact ⟨d, mem_services.2 ⟨w', there⟩, rfl⟩
  · simp only [services, List.getElem?_map, Option.map_eq_some_iff] at first second
    obtain ⟨⟨v, _⟩, first, rfl⟩ := first
    obtain ⟨⟨w, _⟩, second, rfl⟩ := second
    obtain ⟨v', weight, lighter⟩ := dependency_lt (List.mem_of_getElem? second) needed
    have known := weight?_of_mem (List.mem_of_getElem? first)
    cases known.symm.trans weight
    exact lt_of_weight_lt first second lighter

def layered : List Entry :=
  [{ Entry.new "c" "test" with after := ["a", "b"] },
    { Entry.new "b" "test" with after := ["net", "a"] }, Entry.new "a" "test"]

theorem weights_and_order_layered :
    (ofEntries layered).1.weight? "c" = some 2001003 ∧
    ∀ i j : Nat, (ofEntries layered).1.services[i]? =
        some { Entry.new "b" "test" with after := ["net", "a"] } →
      (ofEntries layered).1.services[j]? = some { Entry.new "c" "test" with after := ["a", "b"] } →
      i < j := by
  obtain ⟨weights, -, order⟩ := weights_and_order layered
  have listed : (2001003, { Entry.new "c" "test" with after := ["a", "b"] }) ∈
      (ofEntries layered).1.entries := by
    have entries : (ofEntries layered).1.entries = [(1000000, Entry.new "a" "test"),
        (1001001, { Entry.new "b" "test" with after := ["net", "a"] }),
        (2001003, { Entry.new "c" "test" with after := ["a", "b"] })] := by cbv
    rw [entries]
    simp
  exact ⟨(weights _ _ listed).1, fun i j first second => order i j _ _ first second (by decide)⟩

end Tree

end Overseer.Boot
