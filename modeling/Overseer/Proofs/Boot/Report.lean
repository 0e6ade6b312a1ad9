import Overseer.Proofs.Boot.Acceptance

/-!
# What the errors of a batch tell

Whatever the resolver reports is so: the chain of a cyclic error is a way through the needs that
comes back to its start, and a broken dependency has an entry that is left out as well. The other
way round, a key is marked as broken only with a report about it. So no entry is left out in
silence, and no error blames an entry of the tree.
-/

namespace Overseer.Boot

def BootError.culprit? : BootError → Option String
  | .missingKey _ | .duplicateKey _ => none
  | .cyclic key _ | .unknownDependency key _ | .brokenDependency key _ => some key

def BootError.Holds (find : String → Option Entry) (out : String → Prop) : BootError → Prop
  | .missingKey _ | .duplicateKey _ => False
  | .cyclic key chain =>
      (2 ≤ chain.length ∧ chain.head? = chain.getLast? ∧ key ∈ chain) ∧ chain.IsChain (Needs find)
  | .unknownDependency key dep => Needs find key dep ∧ find dep = none
  | .brokenDependency key dep => Needs find key dep ∧ (find dep).isSome = true ∧ out dep

theorem BootError.Holds.imp {find : String → Option Entry} {out out' : String → Prop}
    (more : ∀ key, out key → out' key) {error : BootError} (holds : error.Holds find out) :
    error.Holds find out' := by
  cases error with
  | brokenDependency key dep => exact ⟨holds.1, holds.2.1, more dep holds.2.2⟩
  | missingKey | duplicateKey | cyclic | unknownDependency => exact holds

theorem cyclic_holds {find : String → Option Entry} (out : String → Prop) {chain : List String}
    {key m : String} (path : (chain ++ [key]).IsChain (Needs find)) (back : key ∈ chain)
    (member : m ∈ chain.dropWhile (· != key)) :
    (BootError.cyclic m (chain.dropWhile (· != key) ++ [key])).Holds find out := by
  obtain ⟨rest, split⟩ := Resolution.dropWhile_of_mem back
  have suffix : (chain.dropWhile (· != key) ++ [key]) <:+ (chain ++ [key]) := by
    obtain ⟨skipped, whole⟩ := List.dropWhile_suffix (· != key) (l := chain)
    exact ⟨skipped, by rw [← List.append_assoc, whole]⟩
  refine ⟨⟨?_, ?_, List.mem_append_left _ member⟩, path.suffix suffix⟩
  · simp [split]
  · rw [List.getLast?_concat, split]
    rfl

/-! ## The resolver -/

namespace Resolution

def Broken (s : Resolution) (key : String) : Prop := s.mark? key = some .broken

def Told (s : Resolution) (key : String) : Prop := ∃ error ∈ s.errors, error.culprit? = some key

/-- From `s` to `s'` the resolver answers for what it reports: it reports what is so, about keys
that it marks as broken or, where it is not done with them, about those it is `liable` for. -/
structure Accounts (index : List Entry) (liable : String → Prop) (s s' : Resolution) : Prop where
  kept : s.errors ⊆ s'.errors
  truthful : ∀ error ∈ s'.errors, error ∈ s.errors ∨ error.Holds (findEntry index) s'.Broken
  blamed : ∀ error ∈ s'.errors, error ∈ s.errors ∨
    ∃ key, error.culprit? = some key ∧ (s'.Broken key ∨ liable key)
  reported : ∀ key, s'.Broken key → s.Broken key ∨ s'.Told key

variable {index : List Entry} {liable : String → Prop} {chain : List String}
  {s s' s'' : Resolution} {key dep : String}

theorem Told.mono (kept : s.errors ⊆ s'.errors) (told : s.Told key) : s'.Told key := by
  obtain ⟨error, member, about⟩ := told
  exact ⟨error, kept member, about⟩

theorem Accounts.refl (index : List Entry) (liable : String → Prop) (s : Resolution) :
    Accounts index liable s s :=
  ⟨List.Subset.refl _, fun _ member => .inl member, fun _ member => .inl member,
    fun _ broken => .inl broken⟩

theorem Accounts.imp {liable' : String → Prop} (accounts : Accounts index liable s s')
    (more : ∀ key, liable key → s'.Broken key ∨ liable' key) : Accounts index liable' s s' := by
  refine ⟨accounts.kept, accounts.truthful, fun error member => ?_, accounts.reported⟩
  refine (accounts.blamed error member).imp_right fun ⟨key, about, fault⟩ => ⟨key, about, ?_⟩
  exact fault.elim .inl (more key)

theorem Accounts.trans (first : Accounts index liable s s') (second : Accounts index liable s' s'')
    (grows : s'.Grows s'') : Accounts index liable s s'' := by
  have broken : ∀ key, s'.Broken key → s''.Broken key := fun key mark => grows key _ mark
  refine ⟨List.Subset.trans first.kept second.kept, fun error member => ?_,
    fun error member => ?_, fun key mark => ?_⟩
  · rcases second.truthful error member with earlier | holds
    · exact (first.truthful error earlier).imp_right (BootError.Holds.imp broken)
    · exact .inr holds
  · rcases second.blamed error member with earlier | blamed
    · refine (first.blamed error earlier).imp_right fun ⟨key, about, fault⟩ => ⟨key, about, ?_⟩
      exact fault.imp_left (broken key)
    · exact .inr blamed
  · rcases second.reported key mark with earlier | told
    · exact (first.reported key earlier).imp_right (Told.mono second.kept)
    · exact .inr told

theorem Accounts.report {error : BootError} (about : error.culprit? = some key)
    (holds : error.Holds (findEntry index) s.Broken) (charged : liable key) :
    Accounts index liable s (s.report error) := by
  refine ⟨List.subset_append_left _ _, fun other member => ?_, fun other member => ?_,
    fun _ broken => .inl broken⟩
  · rcases List.mem_append.1 member with earlier | new
    · exact .inl earlier
    · exact .inr (List.mem_singleton.1 new ▸ holds)
  · rcases List.mem_append.1 member with earlier | new
    · exact .inl earlier
    · exact .inr ⟨key, List.mem_singleton.1 new ▸ about, .inr charged⟩

theorem told_report {error : BootError} (about : error.culprit? = some key) :
    (s.report error).Told key :=
  ⟨error, List.mem_append_right _ (List.mem_singleton_self _), about⟩

theorem Accounts.setMark {m : Mark} (told : m = .broken → s.Told key) :
    Accounts index liable s (s.setMark key m) := by
  refine ⟨List.Subset.refl _, fun _ member => .inl member, fun _ member => .inl member,
    fun other broken => ?_⟩
  rw [Broken, mark?_setMark] at broken
  split at broken
  · rename_i same
    exact .inr (same ▸ told (Option.some.inj broken))
  · exact .inl broken

theorem Accounts.breakMember {cycle : List String}
    (holds : ∀ out, (BootError.cyclic key cycle).Holds (findEntry index) out) :
    Accounts index liable s ((s.setMark key .broken).report (.cyclic key cycle)) := by
  have broken : (s.setMark key .broken).Broken key := by rw [Broken, mark?_setMark, if_pos rfl]
  refine ⟨List.subset_append_left _ _, fun other member => ?_, fun other member => ?_,
    fun other mark => ?_⟩
  · rcases List.mem_append.1 member with earlier | new
    · exact .inl earlier
    · rw [List.mem_singleton.1 new]
      exact .inr (holds _)
  · rcases List.mem_append.1 member with earlier | new
    · exact .inl earlier
    · exact .inr ⟨key, List.mem_singleton.1 new ▸ rfl, .inl broken⟩
  · rw [Broken, mark?_report, mark?_setMark] at mark
    split at mark
    · rename_i same
      exact .inr (same ▸ told_report rfl)
    · exact .inl mark

theorem Accounts.breakAll {members cycle : List String} (inside : members ⊆ chain)
    (clear : s.Clear chain) (sound : s.Sound index)
    (holds : ∀ m ∈ members, ∀ out, (BootError.cyclic m cycle).Holds (findEntry index) out) :
    Accounts index liable s (members.foldl
      (fun s member => (s.setMark member .broken).report (.cyclic member cycle)) s) := by
  induction members generalizing s with
  | nil => exact .refl index liable s
  | cons first rest ih =>
      have one := (Keeps.breakMember clear sound (inside List.mem_cons_self)).report
        (.cyclic first cycle)
      have within : rest ⊆ chain := List.Subset.trans (List.subset_cons_self first rest) inside
      have later := ih within one.clear one.sound fun m member =>
        holds m (List.mem_cons_of_mem _ member)
      have grows := (Keeps.breakAll rest within one.clear one.sound cycle).1.grows
      exact (Accounts.breakMember (holds first List.mem_cons_self)).trans later grows

theorem Accounts.breakCycle (clear : s.Clear chain) (sound : s.Sound index) (member : key ∈ chain)
    (path : (chain ++ [key]).IsChain (Needs (findEntry index))) :
    Accounts index liable s (s.breakCycle chain key) :=
  Accounts.breakAll (List.dropWhile_sublist _).subset clear sound fun _ inside out =>
    cyclic_holds out path member inside

/-- The entry is marked when all its dependencies were looked at. What it has been liable for is
settled then. -/
theorem Accounts.markOnce {broken : Bool} {weight : Int} (unweighed : s'.weightOf key = none)
    (accounts : Accounts index (fun k => k = key ∧ broken = true) s s')
    (told : broken = true → s'.Broken key ∨ s'.Told key) :
    Accounts index liable s
      (s'.markOnce key (if broken then .broken else .resolved weight)) := by
  unfold Resolution.markOnce
  split
  · rename_i marked
    refine accounts.imp fun k charged => .inl ?_
    rw [charged.1]
    exact mark?_eq_broken marked unweighed
  · rename_i unmarked
    have fresh : s'.mark? key = none := Option.not_isSome_iff_eq_none.1 unmarked
    have grows := Grows.setMark_new (if broken then .broken else .resolved weight) fresh
    refine (accounts.trans (Accounts.setMark fun mark => ?_) grows).imp fun k charged => .inl ?_
    · cases broken with
      | false => cases mark
      | true =>
          refine (told rfl).resolve_left fun marked => ?_
          rw [Broken, fresh] at marked
          cases marked
    · rw [charged.1, charged.2, Broken, mark?_setMark, if_pos rfl]
      rfl

structure Accounts.For (index : List Entry) (key : String) (broken : Bool) (s : Resolution)
    (r : Int × Bool × Resolution) : Prop where
  accounts : Accounts index (fun k => k = key ∧ r.2.1 = true) s r.2.2
  told : r.2.1 = true → broken = true ∨ r.2.2.Broken key ∨ r.2.2.Told key

section
variable {broken : Bool} {r : Int × Bool × Resolution}

theorem Accounts.For.after (first : Accounts index (fun _ => False) s s')
    (later : Accounts.For index key broken s' r) (grows : s'.Grows r.2.2) :
    Accounts.For index key broken s r :=
  ⟨(first.imp fun _ => nofun).trans later.accounts grows, later.told⟩

theorem Accounts.For.fail (first : Accounts index (· = key) s s')
    (told : s'.Broken key ∨ s'.Told key) (later : Accounts.For index key true s' r)
    (grows : s'.Grows r.2.2) (fails : r.2.1 = true) : Accounts.For index key broken s r :=
  ⟨(first.imp fun _ same => .inr ⟨same, fails⟩).trans later.accounts grows,
    fun _ => .inr (told.imp (grows key _) (Told.mono later.accounts.kept))⟩

end

end Resolution

open Resolution

theorem resolveAll_fails {index : List Entry} {chain : List String} {s : Resolution}
    (clear : s.Clear chain) (sound : s.Sound index) (key : String) (deps : List String)
    (weight : Int) : (resolveAll index chain key deps weight true s).2.1 = true := by
  by_contra whole
  have intact := (resolveAll_spec index chain key deps weight true s clear sound).2
    (Bool.eq_false_of_not_eq_true whole)
  cases intact.1

mutual

theorem resolve_accounts (index : List Entry) (chain : List String) (key : String) (s : Resolution)
    (path : (chain ++ [key]).IsChain (Needs (findEntry index))) (clear : s.Clear chain)
    (sound : s.Sound index) :
    Accounts index (fun _ => False) s (resolve index chain key s).2 := by
  rw [resolve]
  split
  · exact .refl _ _ _
  · rename_i fresh
    split
    · rename_i onChain
      exact .breakCycle clear sound (List.contains_iff_mem.1 onChain) path
    · rename_i apart
      split
      · exact .refl _ _ _
      · rename_i entry found
        split
        · exact .setMark nofun
        · have fewer : offChain index (chain ++ [key]) < offChain index chain :=
            offChain_lt found (by simpa using apart)
          have spec := resolveAll_spec index (chain ++ [key]) key entry.after 0 false s
            (clear.append fresh) sound
          have inner := resolveAll_accounts index chain key entry found entry.after
            (fun _ member => member) 0 false s path (clear.append fresh) sound
          generalize resolveAll index (chain ++ [key]) key entry.after 0 false s = r at spec inner ⊢
          obtain ⟨weight, broken, s'⟩ := r
          have unweighed := spec.1.clear key (List.mem_append_right _ (List.mem_singleton_self _))
          exact inner.accounts.markOnce unweighed fun ends =>
            (inner.told ends).resolve_left Bool.false_ne_true
termination_by (offChain index chain, 0)

theorem resolveAll_accounts (index : List Entry) (chain : List String) (key : String)
    (entry : Entry) (found : findEntry index key = some entry) (deps : List String)
    (within : ∀ dep ∈ deps, dep ∈ entry.after) (weight : Int) (broken : Bool) (s : Resolution)
    (path : (chain ++ [key]).IsChain (Needs (findEntry index))) (clear : s.Clear (chain ++ [key]))
    (sound : s.Sound index) :
    Accounts.For index key broken s
      (resolveAll index (chain ++ [key]) key deps weight broken s) := by
  cases deps with
  | nil =>
      rw [resolveAll]
      exact ⟨.refl _ _ _, .inl⟩
  | cons dep rest =>
      have inside : ∀ d ∈ rest, d ∈ entry.after := fun d member =>
        within d (List.mem_cons_of_mem _ member)
      -- Once a dependency is found wanting, the entry is going to be broken.
      have failing : ∀ s', Keeps index (chain ++ [key]) s s' → Accounts index (· = key) s s' →
          s'.Broken key ∨ s'.Told key → Accounts.For index key broken s
            (resolveAll index (chain ++ [key]) key rest weight true s') := by
        intro s' kept first told
        have later := resolveAll_accounts index chain key entry found rest inside weight true s'
          path kept.clear kept.sound
        have spec := resolveAll_spec index (chain ++ [key]) key rest weight true s' kept.clear
          kept.sound
        exact .fail first told later spec.1.grows (resolveAll_fails kept.clear kept.sound key rest _)
      rw [resolveAll]
      split
      · exact resolveAll_accounts index chain key entry found rest inside _ broken s path clear
          sound
      · rename_i tag
        have needs : Needs (findEntry index) key dep := by
          refine ⟨entry, found, List.mem_filter.2 ⟨within dep List.mem_cons_self, ?_⟩⟩
          rw [tag]
          rfl
        split
        · rename_i missing
          exact failing _ ((Keeps.refl clear sound).report _)
            (.report rfl ⟨needs, Option.isNone_iff_eq_none.1 missing⟩ rfl) (.inr (told_report rfl))
        · rename_i present
          have further : (chain ++ [key] ++ [dep]).IsChain (Needs (findEntry index)) := by
            refine List.isChain_append.2 ⟨path, .singleton _, ?_⟩
            simpa using needs
          have one := resolve_accounts index (chain ++ [key]) dep s further clear sound
          have spec := resolve_spec index (chain ++ [key]) dep s clear sound
          split
          · rename_i w s' resolved
            rw [resolved] at one spec
            have later := resolveAll_accounts index chain key entry found rest inside
              (weight + (w + 1)) broken s' path spec.1.clear spec.1.sound
            exact .after one later (resolveAll_spec index (chain ++ [key]) key rest _ broken s'
              spec.1.clear spec.1.sound).1.grows
          · rename_i s' resolved
            rw [resolved] at one spec
            have known : (findEntry index dep).isSome = true :=
              Option.ne_none_iff_isSome.1 fun none => present (by simp [none])
            have dead : s'.Broken dep := mark?_eq_broken (spec.2.2 known) spec.2.1.symm
            have first : Accounts index (· = key) s s' := one.imp fun _ => nofun
            by_cases settled : s'.mark? key = some .broken
            · rw [if_pos settled]
              exact failing s' spec.1 first (.inl settled)
            · rw [if_neg settled]
              exact failing _ (spec.1.report _)
                (first.trans (.report rfl ⟨needs, known, dead⟩ rfl) fun _ _ mark => mark)
                (.inr (told_report rfl))
termination_by (offChain index (chain ++ [key]), deps.length + 1)

end

theorem resolveEntries_accounts {index : List Entry} (distinct : (index.map (·.key)).Nodup)
    {roots : List Entry} (inside : ∀ e ∈ roots, e ∈ index) {s : Resolution}
    (sound : s.Sound index) :
    Accounts index (fun _ => False) s (resolveEntries index roots s).2 := by
  induction roots generalizing s with
  | nil => exact .refl _ _ _
  | cons root rest ih =>
      have spec := resolve_spec index [] root.key s nofun sound
      have one := resolve_accounts index [] root.key s (.singleton _) nofun sound
      have others : ∀ e ∈ rest, e ∈ index := fun e member =>
        inside e (List.mem_cons_of_mem _ member)
      have later := ih others spec.1.sound
      have grows := (resolveEntries_spec distinct others spec.1.sound).1.grows
      rw [resolveEntries]
      exact one.trans later grows

/-! ## The index -/

namespace Tree

def Accepts (batch : List Entry) (key : String) : Prop :=
  ∃ e ∈ (ofEntries batch).1.services, e.key = key

end Tree

/-- What an error says about a batch. -/
def BootError.IsTrue (batch : List Entry) : BootError → Prop
  | .missingKey name => ∃ e ∈ batch, e.key = "" ∧ e.name = name
  | .duplicateKey key => key ≠ "" ∧ 2 ≤ (batch.map (·.key)).count key
  | error => error.Holds (firstOf batch) fun key => ¬Tree.Accepts batch key

theorem indexEntries.mem_add {index : List Entry} {errors : List BootError} {e : Entry}
    {error : BootError} : error ∈ (indexEntries.add (index, errors) e).2 ↔ error ∈ errors ∨
      (e.key = "" ∧ error = .missingKey e.name) ∨
      (e.key ≠ "" ∧ (findEntry index e.key).isSome = true ∧ error = .duplicateKey e.key) := by
  by_cases unnamed : e.key = ""
  · simp [indexEntries.add, unnamed]
  · by_cases known : (findEntry index e.key).isSome = true
    · simp [indexEntries.add, unnamed, known]
    · simp [indexEntries.add, unnamed, known]

theorem isSome_firstOf {batch : List Entry} {key : String} :
    (firstOf batch key).isSome = true ↔ key ≠ "" ∧ 0 < (batch.map (·.key)).count key := by
  simp only [firstOf, List.find?_isSome, List.count_pos_iff, List.mem_map, Bool.and_eq_true,
    Bool.not_eq_true', String.isEmpty_eq_false_iff, beq_iff_eq]
  constructor
  · rintro ⟨e, member, named, rfl⟩
    exact ⟨named, e, member, rfl⟩
  · rintro ⟨named, e, member, rfl⟩
    exact ⟨e, member, named, rfl⟩

theorem mem_indexEntries {batch : List Entry} {error : BootError} :
    error ∈ (indexEntries batch).2 ↔ error.culprit? = none ∧ error.IsTrue batch := by
  induction batch using List.reverseRecOn with
  | nil => cases error <;> simp [indexEntries, BootError.culprit?, BootError.IsTrue]
  | append_singleton batch e ih =>
      have known : (findEntry (indexEntries batch).1 e.key).isSome = true ↔
          e.key ≠ "" ∧ 0 < (batch.map (·.key)).count e.key := by
        rw [findEntry_indexEntries, isSome_firstOf]
      rw [indexEntries_append, ← Prod.mk.eta (p := indexEntries batch), indexEntries.mem_add, known,
        ih]
      cases error with
      | missingKey name =>
          simp [BootError.culprit?, BootError.IsTrue, or_and_right, exists_or, eq_comm (a := name)]
      | duplicateKey key =>
          have counts : ((batch ++ [e]).map (·.key)).count key =
              (batch.map (·.key)).count key + if e.key = key then 1 else 0 := by
            simp [List.count_singleton]
          simp only [BootError.culprit?, BootError.IsTrue, counts, true_and, reduceCtorEq, and_false,
            false_or, BootError.duplicateKey.injEq]
          by_cases same : e.key = key
          · rw [same, if_pos rfl]
            grind
          · rw [if_neg same]
            grind
      | cyclic | unknownDependency | brokenDependency => simp [BootError.culprit?]

/-! ## The tree -/

namespace Tree

variable {batch : List Entry} {key : String} {e : Entry} {error : BootError}

theorem marks_accounts (batch : List Entry) :
    Accounts (indexEntries batch).1 (fun _ => False) ⟨[], (indexEntries batch).2⟩ (marks batch) :=
  resolveEntries_accounts (indexEntries_distinct batch) (fun _ member => member)
    (Sound.empty (indexEntries batch).2)

theorem not_accepts_of_broken (broken : (marks batch).Broken key) : ¬Accepts batch key := by
  rintro ⟨e, listed, rfl⟩
  obtain ⟨w, member⟩ := mem_services.1 listed
  have weight := (mem_entries.1 member).2
  rw [weightOf, broken] at weight
  cases weight

theorem isTrue_of_mem (member : error ∈ (ofEntries batch).2) : error.IsTrue batch := by
  rcases (marks_accounts batch).truthful error member with about_keys | holds
  · exact (mem_indexEntries.1 about_keys).2
  · rw [findEntry_indexEntries] at holds
    have out := holds.imp fun _ => not_accepts_of_broken
    cases error with
    | missingKey | duplicateKey => exact holds.elim
    | cyclic | unknownDependency | brokenDependency => exact out

theorem not_accepts_culprit (member : error ∈ (ofEntries batch).2)
    (culprit : error.culprit? = some key) : ¬Accepts batch key := by
  rcases (marks_accounts batch).blamed error member with about_keys | ⟨k, about, fault⟩
  · cases (mem_indexEntries.1 about_keys).1.symm.trans culprit
  · cases about.symm.trans culprit
    exact not_accepts_of_broken (fault.resolve_right id)

theorem marked_of_first (first : firstOf batch key = some e) :
    ((marks batch).mark? key).isSome = true := by
  rw [← findEntry_indexEntries] at first
  obtain ⟨listed, rfl⟩ := findEntry_some first
  exact (resolveEntries_blames (indexEntries_distinct batch) (fun e member => member)
    (Sound.empty (indexEntries batch).2) (s := ⟨[], (indexEntries batch).2⟩) nofun).2 e listed

theorem exists_error (first : firstOf batch e.key = some e)
    (out : e ∉ (ofEntries batch).1.services) :
    ∃ error ∈ (ofEntries batch).2, error.culprit? = some e.key := by
  have unweighed : (marks batch).weightOf e.key = none := by
    cases weight : (marks batch).weightOf e.key with
    | none => rfl
    | some w => exact absurd (mem_services.2 ⟨w, mem_entries.2 ⟨first, weight⟩⟩) out
  have broken : (marks batch).Broken e.key := mark?_eq_broken (marked_of_first first) unweighed
  exact ((marks_accounts batch).reported e.key broken).resolve_left nofun

/-- An entry without a key is reported by its name. Of those with a key, one that does not come
first is reported as a duplicate, and one that comes first and is left out has an error of the
resolver. All errors are true, and none of the resolver's is about an entry of the tree. -/
theorem errors_account_for_left_out (batch : List Entry) :
    (∀ error ∈ (ofEntries batch).2, error.IsTrue batch ∧
      ∀ key, error.culprit? = some key → ¬Accepts batch key) ∧
    ∀ before e after, batch = before ++ e :: after →
      (e.key = "" → .missingKey e.name ∈ (ofEntries batch).2) ∧
      (e.key ≠ "" → (∃ d ∈ before, d.key = e.key) → .duplicateKey e.key ∈ (ofEntries batch).2) ∧
      (e.key ≠ "" → (∀ d ∈ before, d.key ≠ e.key) → e ∉ (ofEntries batch).1.services →
        ∃ error ∈ (ofEntries batch).2, error.culprit? = some e.key) := by
  refine ⟨fun error member => ⟨isTrue_of_mem member, fun key => not_accepts_culprit member⟩, ?_⟩
  rintro before e after rfl
  have keyed {error : BootError} := (marks_accounts (before ++ e :: after)).kept (a := error)
  refine ⟨fun unnamed => ?_, fun named ⟨d, earlier, same⟩ => ?_, fun named first out => ?_⟩
  · exact keyed (mem_indexEntries.2 ⟨rfl, e, by simp, unnamed, rfl⟩)
  · refine keyed (mem_indexEntries.2 ⟨rfl, named, ?_⟩)
    have once : 0 < (before.map (·.key)).count e.key :=
      List.count_pos_iff.2 (List.mem_map.2 ⟨d, earlier, same⟩)
    rw [List.map_append, List.count_append, List.map_cons, List.count_cons_self]
    omega
  · refine exists_error (firstOf_eq_some.2 ⟨named, ?_⟩) out
    rw [List.find?_append, List.find?_eq_none.2 fun d earlier => by simpa using first d earlier]
    simp

def haunted : List Entry :=
  [{ Entry.new "a" "test" with after := ["a"] },
    { Entry.new "b" "test" with after := ["ghost", "net", "a"] }, Entry.new "" "nameless",
    Entry.new "b" "test", Entry.new "d" "test"]

theorem errors_account_for_left_out_haunted :
    (∃ error ∈ (ofEntries haunted).2, error.culprit? = some "b") ∧
    .missingKey "nameless" ∈ (ofEntries haunted).2 ∧ .duplicateKey "b" ∈ (ofEntries haunted).2 ∧
    ¬Accepts haunted "a" := by
  obtain ⟨truthful, complete⟩ := errors_account_for_left_out haunted
  have only : (ofEntries haunted).1.services = [Entry.new "d" "test"] := by cbv
  have ours : .cyclic "a" ["a", "a"] ∈ (ofEntries haunted).2 := by
    have first : (ofEntries haunted).2[2]? = some (.cyclic "a" ["a", "a"]) := by cbv
    exact List.mem_of_getElem? first
  refine ⟨?_, ?_, ?_, (truthful _ ours).2 "a" rfl⟩
  · refine (complete (haunted.take 1) _ (haunted.drop 2) rfl).2.2 (by decide) (by decide) ?_
    rw [only, List.mem_singleton]
    exact fun same => absurd (congrArg Entry.key same) (by decide)
  · exact (complete (haunted.take 2) _ (haunted.drop 3) rfl).1 rfl
  · exact (complete (haunted.take 3) _ (haunted.drop 4) rfl).2.1 (by decide)
      ⟨_, List.mem_cons_of_mem _ List.mem_cons_self, rfl⟩

end Tree

end Overseer.Boot
