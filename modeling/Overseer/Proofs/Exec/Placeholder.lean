import Overseer.Proofs.Exec.Template

/-!
# Which placeholders are filled in

A placeholder is a name without braces, in braces. Placeholders never overlap, so there is exactly
one text in which all known ones are replaced by their values (`exists_replaced`,
`Replaced.unique`). A template is read from left to right, and whatever an opening brace opens is
closed by the next closing one. So expanding a template replaces those placeholders in front of
which every opening brace was closed. All others are read as the end of a longer name.
-/

namespace Overseer.Exec.Template

def values (fields : List (String × Json.Value)) (key : String) : Option String :=
  (fields.lookup key).map filling

def Bare (name : List Char) : Prop := '\x7b' ∉ name ∧ '\x7d' ∉ name

def braced (name : List Char) : List Char := '\x7b' :: name ++ ['\x7d']

/-- No known placeholder stands in a text. -/
def Plain (known : String → Option String) (text : List Char) : Prop :=
  ∀ before name after, Bare name → text = before ++ braced name ++ after →
    known (String.ofList name) = none

/-- A text, and the text in which each known placeholder is replaced by its value, wherever it
stands, while all else is copied. -/
inductive Replaced (known : String → Option String) : List Char → List Char → Prop where
  | copied {text : List Char} (plain : Plain known text) : Replaced known text text
  | filled {front name after out : List Char} {value : String} (plain : Plain known front)
      (bare : Bare name) (found : known (String.ofList name) = some value)
      (later : Replaced known after out) :
      Replaced known (front ++ braced name ++ after) (front ++ value.toList ++ out)

/-- Every opening brace of a text is closed in it. -/
def Settled (text : List Char) : Prop :=
  ∀ front behind, text = front ++ '\x7b' :: behind → '\x7d' ∈ behind

/-- In front of every placeholder all braces are closed. -/
def Clear (template : List Char) : Prop :=
  ∀ before name after, Bare name → template = before ++ braced name ++ after → Settled before

variable {known : String → Option String} {text template front before after name other : List Char}

theorem braced_append (name after : List Char) :
    braced name ++ after = '\x7b' :: (name ++ '\x7d' :: after) := by
  simp [braced]

/-! ## Replacing all placeholders -/

theorem braced_at_or_behind {gap rest : List Char} (bare : Bare name) (bare' : Bare other)
    (same : braced name ++ after = gap ++ braced other ++ rest) :
    gap = [] ∧ name = other ∧ after = rest ∨
      ∃ mid, gap = braced name ++ mid ∧ after = mid ++ braced other ++ rest := by
  rw [List.append_assoc, braced_append, braced_append] at same
  cases gap with
  | nil =>
      obtain ⟨-, same⟩ := List.cons.inj same
      obtain ⟨rfl, rfl⟩ := Text.append_cons_inj bare.2 bare'.2 same
      exact .inl ⟨rfl, rfl, rfl⟩
  | cons c gap =>
      rw [List.cons_append] at same
      obtain ⟨rfl, behind⟩ := List.cons.inj same
      by_cases closed : '\x7d' ∈ gap
      · obtain ⟨inner, mid, rfl, unclosed⟩ := List.eq_append_cons_of_mem closed
        rw [List.append_assoc] at behind
        obtain ⟨rfl, rfl⟩ := Text.append_cons_inj bare.2 unclosed behind
        refine .inr ⟨mid, ?_, ?_⟩
        · simp [braced]
        · simp [braced]
      · have unclosed : '\x7d' ∉ gap ++ '\x7b' :: other := by
          simp [closed, bare'.2]
        have longer : name ++ '\x7d' :: after = (gap ++ '\x7b' :: other) ++ '\x7d' :: rest := by
          simpa using behind
        obtain ⟨rfl, -⟩ := Text.append_cons_inj bare.2 unclosed longer
        exact absurd bare.1 (by simp)

theorem braced_apart {rest : List Char} (bare : Bare name) (bare' : Bare other)
    (same : front ++ braced name ++ after = before ++ braced other ++ rest) :
    front = before ∧ name = other ∧ after = rest ∨
      (∃ mid, before = front ++ braced name ++ mid ∧ after = mid ++ braced other ++ rest) ∨
      ∃ mid, front = before ++ braced other ++ mid ∧ rest = mid ++ braced name ++ after := by
  rw [List.append_assoc, List.append_assoc, List.append_eq_append_iff] at same
  rcases same with ⟨gap, rfl, same⟩ | ⟨gap, rfl, same⟩
  · rw [← List.append_assoc] at same
    rcases braced_at_or_behind bare bare' same with ⟨rfl, rfl, rfl⟩ | ⟨mid, rfl, rfl⟩
    · exact .inl ⟨by simp, rfl, rfl⟩
    · exact .inr (.inl ⟨mid, by simp, rfl⟩)
  · rw [← List.append_assoc] at same
    rcases braced_at_or_behind bare' bare same with ⟨rfl, rfl, rfl⟩ | ⟨mid, rfl, rfl⟩
    · exact .inl ⟨by simp, rfl, rfl⟩
    · exact .inr (.inr ⟨mid, by simp, rfl⟩)

theorem Replaced.insert {out rest : List Char} {value : String} (first : Replaced known before out)
    (bare : Bare name) (found : known (String.ofList name) = some value)
    (second : Replaced known after rest) :
    Replaced known (before ++ braced name ++ after) (out ++ value.toList ++ rest) := by
  induction first with
  | copied plain => exact .filled plain bare found second
  | filled plain bare' found' _ ih =>
      have joined := Replaced.filled plain bare' found' ih
      simpa only [List.append_assoc] using joined

theorem plain_of_absent (absent : '\x7b' ∉ text ∨ '\x7d' ∉ text) : Plain known text := by
  rintro before name after - rfl
  simp [braced] at absent

theorem exists_known (marked : ¬Plain known text) :
    ∃ before name after value, Bare name ∧ text = before ++ braced name ++ after ∧
      known (String.ofList name) = some value := by
  simp only [Plain, not_forall] at marked
  obtain ⟨before, name, after, bare, split, found⟩ := marked
  obtain ⟨value, found⟩ := Option.ne_none_iff_exists'.1 found
  exact ⟨before, name, after, value, bare, split, found⟩

theorem exists_replaced (known : String → Option String) (text : List Char) :
    ∃ out, Replaced known text out := by
  induction size : text.length using Nat.strong_induction_on generalizing text with
  | _ n ih =>
      subst size
      by_cases plain : Plain known text
      · exact ⟨text, .copied plain⟩
      · obtain ⟨before, name, after, value, bare, rfl, found⟩ := exists_known plain
        obtain ⟨out, first⟩ := ih before.length (by simp [braced]) before rfl
        obtain ⟨rest, second⟩ := ih after.length (by simp [braced]; omega) after rfl
        exact ⟨_, first.insert bare found second⟩

theorem Replaced.unique {out out' : List Char} (one : Replaced known text out)
    (two : Replaced known text out') : out = out' := by
  induction one generalizing out' with
  | @copied text plain =>
      cases two with
      | copied => rfl
      | filled _ bare found =>
          have unknown := plain _ _ _ bare rfl
          rw [unknown] at found
          cases found
  | @filled front name after out value plain bare found later ih =>
      generalize split : front ++ braced name ++ after = text at two
      cases two with
      | copied plain' =>
          have unknown := plain' _ _ _ bare split.symm
          rw [unknown] at found
          cases found
      | filled plain' bare' found' later' =>
          rcases braced_apart bare bare' split with
            ⟨rfl, rfl, rfl⟩ | ⟨mid, rfl, rfl⟩ | ⟨mid, rfl, rfl⟩
          · rw [found] at found'
            cases found'
            rw [ih later']
          · have unknown := plain' _ _ _ bare rfl
            rw [unknown] at found
            cases found
          · have unknown := plain _ _ _ bare' rfl
            rw [unknown] at found'
            cases found'

/-! ## Expanding a template -/

theorem Settled.of_append (settled : Settled (front ++ text)) : Settled text := by
  rintro before behind rfl
  exact settled (front ++ before) behind (by simp)

def shown (known : String → Option String) (name : List Char) : List Char :=
  match known (String.ofList name) with
  | some value => value.toList
  | none => braced name

theorem shown_of_unknown (unknown : known (String.ofList name) = none) :
    shown known name = braced name := by
  rw [shown, unknown]

theorem shown_of_known {value : String} (found : known (String.ofList name) = some value) :
    shown known name = value.toList := by
  rw [shown, found]

theorem unopened_of_slotless (slotless : ∀ (s : Slot) after, text ≠ s.written ++ after)
    (settled : Settled text) : '\x7b' ∉ text := by
  intro opened
  obtain ⟨front, behind, rfl, plain⟩ := List.eq_append_cons_of_mem opened
  obtain ⟨name, after, rfl, unclosed⟩ := List.eq_append_cons_of_mem (settled front behind rfl)
  exact slotless ⟨front, name, plain, unclosed⟩ after (by rw [Slot.written_append])

theorem go_append (known : String → Option String) (settled : Settled before)
    (after : List Char) :
    go known none (before ++ after) = go known none before ++ go known none after := by
  obtain ⟨⟨slots, rest, slotless⟩, rfl⟩ := Reading.exists_written_eq before
  induction slots with
  | nil =>
      rw [Reading.written_nil] at settled ⊢
      have copied := go_rest known ⟨[], rest, slotless⟩
      rw [go_front known (unopened_of_slotless slotless settled), copied]
  | cons s slots ih =>
      rw [Reading.written_cons] at settled ⊢
      rw [List.append_assoc, go_slot, go_slot, ih settled.of_append, List.append_assoc]

theorem go_braced (known : String → Option String) (settled : Settled front)
    (unclosed : '\x7d' ∉ name) (after : List Char) :
    go known none (front ++ braced name ++ after) =
      go known none front ++ shown known name ++ go known none after := by
  have slot : go known none (braced name ++ after) = shown known name ++ go known none after :=
    go_slot known ⟨[], name, List.not_mem_nil, unclosed⟩ after
  rw [List.append_assoc, go_append known settled, slot, List.append_assoc]

theorem exists_opened (unsettled : ¬Settled before) :
    ∃ front behind, before = front ++ '\x7b' :: behind ∧ Settled front ∧ '\x7d' ∉ behind := by
  simp only [Settled, not_forall] at unsettled
  obtain ⟨front, behind, split, unclosed⟩ := unsettled
  induction size : front.length using Nat.strong_induction_on generalizing front behind with
  | _ n ih =>
      subst size
      by_cases settled : Settled front
      · exact ⟨front, behind, split, settled, unclosed⟩
      · simp only [Settled, not_forall] at settled
        obtain ⟨front, inner, rfl, open_⟩ := settled
        refine ih front.length (by simp) front (inner ++ '\x7b' :: behind) ?_ ?_ rfl
        · simpa using split
        · simp [open_, unclosed]

theorem go_covered (known : String → Option String) {behind : List Char} (settled : Settled front)
    (unclosed : '\x7d' ∉ behind) (bare : Bare name) (after : List Char) :
    go known none (front ++ '\x7b' :: behind ++ braced name ++ after) =
      go known none front ++ shown known (behind ++ '\x7b' :: name) ++ go known none after := by
  have longer : front ++ '\x7b' :: behind ++ braced name ++ after =
      front ++ braced (behind ++ '\x7b' :: name) ++ after := by
    simp [braced]
  rw [longer, go_braced known settled (by simp [unclosed, bare.2])]

theorem go_eq_self (unknown : ∀ before name after, '\x7d' ∉ name →
      text = before ++ braced name ++ after → known (String.ofList name) = none) :
    go known none text = text := by
  obtain ⟨r, rfl⟩ := Reading.exists_written_eq text
  rw [go_written, Reading.filled, Reading.written]
  have kept : ∀ s ∈ r.slots, s.filled known = s.written := by
    intro s member
    obtain ⟨earlier, later, split⟩ := List.append_of_mem member
    have absent : known (String.ofList s.name) = none := by
      apply unknown (earlier.flatMap Slot.written ++ s.front) s.name
        (later.flatMap Slot.written ++ r.rest) s.unclosed
      simp [Reading.written, split, Slot.written, braced]
    simp [Slot.filled, Slot.written, absent]
  rw [List.flatMap_congr kept]

/-! ## Where all placeholders are replaced -/

theorem Clear.bare (clear : Clear template) (unclosed : '\x7d' ∉ name)
    (split : template = before ++ braced name ++ after) : Bare name := by
  refine ⟨fun opened => ?_, unclosed⟩
  obtain ⟨last, inner, turned, bare⟩ := List.eq_append_cons_of_mem (List.mem_reverse.2 opened)
  obtain rfl : name = inner.reverse ++ '\x7b' :: last.reverse := by
    rw [← List.reverse_reverse name, turned]
    simp
  have settled := clear (before ++ '\x7b' :: inner.reverse) last.reverse after
    ⟨by simpa using bare, fun member => unclosed (by simp_all)⟩ (by simp [split, braced])
  exact unclosed (List.mem_append_left _ (settled before inner.reverse rfl))

theorem Clear.replaced (clear : Clear template) :
    Replaced known template (go known none template) := by
  induction size : template.length using Nat.strong_induction_on generalizing template with
  | _ n ih =>
      subst size
      by_cases plain : Plain known template
      · rw [go_eq_self fun before name after unclosed split =>
          plain before name after (clear.bare unclosed split) split]
        exact .copied plain
      · obtain ⟨before, name, after, value, bare, rfl, found⟩ := exists_known plain
        have settled := clear before name after bare rfl
        have first : Clear before := by
          rintro b m a bare' rfl
          exact clear b m (a ++ braced name ++ after) bare' (by simp)
        have second : Clear after := by
          rintro b m a bare' rfl
          exact (clear (before ++ braced name ++ b) m a bare' (by simp)).of_append
        rw [go_braced known settled bare.2, shown_of_known found]
        exact (ih before.length (by simp [braced]) first rfl).insert bare found
          (ih after.length (by simp [braced]; omega) second rfl)

/-! ## Where one is not -/

structure Erases (known : String → Option String) : Prop where
  empty : ∀ key value, known key = some value → value = ""
  bare : ∀ key value, known key = some value → Bare key.toList

theorem Erases.unknown (erases : Erases known) {behind : List Char} :
    known (String.ofList (behind ++ '\x7b' :: name)) = none := by
  cases found : known (String.ofList (behind ++ '\x7b' :: name)) with
  | none => rfl
  | some value => exact absurd (erases.bare _ _ found).1 (by simp)

theorem Erases.go_plain (erases : Erases known) (plain : Plain known text) :
    go known none text = text := by
  apply go_eq_self
  intro before name after unclosed split
  by_cases opened : '\x7b' ∈ name
  · obtain ⟨behind, last, rfl⟩ := List.append_of_mem opened
    exact erases.unknown
  · exact plain before name after ⟨opened, unclosed⟩ split

theorem Erases.length_le (erases : Erases known) {out : List Char}
    (replaced : Replaced known text out) : out.length ≤ (go known none text).length := by
  induction replaced with
  | copied plain => rw [erases.go_plain plain]
  | @filled front name after out value plain bare found later ih =>
      obtain rfl := erases.empty _ _ found
      by_cases settled : Settled front
      · rw [go_braced known settled bare.2, shown_of_known found, erases.go_plain plain]
        simpa using ih
      · obtain ⟨before, behind, rfl, settled, unclosed⟩ := exists_opened settled
        have earlier : Plain known before := by
          rintro b m a bare' rfl
          exact plain b m (a ++ '\x7b' :: behind) bare' (by simp)
        rw [go_covered known settled unclosed bare, shown_of_unknown erases.unknown,
          erases.go_plain earlier]
        simp only [braced, List.length_append, List.length_cons, String.toList_empty,
          List.length_nil]
        omega

theorem Erases.not_replaced (erases : Erases known) (unsettled : ¬Settled before)
    (bare : Bare name) (found : known (String.ofList name) = some "") :
    ¬Replaced known (before ++ braced name ++ after)
      (go known none (before ++ braced name ++ after)) := by
  intro replaced
  obtain ⟨out, first⟩ := exists_replaced known before
  obtain ⟨rest, second⟩ := exists_replaced known after
  have same := (first.insert bare found second).unique replaced
  have shorter := erases.length_le first
  have shorter' := erases.length_le second
  obtain ⟨front, behind, rfl, settled, unclosed⟩ := exists_opened unsettled
  have copied : go known none ('\x7b' :: behind) = '\x7b' :: behind := by
    apply go_eq_self
    intro b m a _ split
    have closed : '\x7d' ∈ '\x7b' :: behind := by simp [split, braced]
    exact absurd closed (by simp [unclosed])
  have longer := congrArg List.length same
  rw [go_covered known settled unclosed bare, shown_of_unknown erases.unknown] at longer
  rw [go_append known settled, copied] at shorter
  simp only [braced, List.length_append, List.length_cons, String.toList_empty,
    List.length_nil] at longer shorter shorter'
  omega

theorem values_single (name : List Char) (text key : String) :
    values [(String.ofList name, .str text)] key =
      if key = String.ofList name then some text else none := by
  rw [values, Table.lookup_cons]
  split <;> rfl

theorem erases_single (bare : Bare name) : Erases (values [(String.ofList name, .str "")]) := by
  constructor
  · intro key value found
    rw [values_single] at found
    split at found
    · exact (Option.some.inj found).symm
    · cases found
  · intro key value found
    rw [values_single] at found
    split at found
    · rename_i same
      rwa [same, String.toList_ofList]
    · cases found

theorem toList_expand (template : String) (fields : List (String × Json.Value)) :
    (expand template fields).toList = go (values fields) none template.toList :=
  String.toList_ofList

/-- Expanding a template replaces its known placeholders and copies all else, whatever there is to
fill in, exactly if all braces are closed in front of each placeholder. A placeholder in front of
which they are closed is replaced. Any other is read as a part of a longer name: it begins behind
the first brace that is still open, and is looked up as a whole. -/
theorem replaced_iff_clear (template : String) :
    ((∀ fields, Replaced (values fields) template.toList (expand template fields).toList) ↔
      Clear template.toList) ∧
    ∀ before name after, Bare name → template.toList = before ++ braced name ++ after →
      (Settled before → ∀ fields, (expand template fields).toList =
        (expand (String.ofList before) fields).toList ++ shown (values fields) name ++
          (expand (String.ofList after) fields).toList) ∧
      (¬Settled before → ∃ front behind, before = front ++ '\x7b' :: behind ∧ Settled front ∧
        '\x7d' ∉ behind ∧ ∀ fields, (expand template fields).toList =
          (expand (String.ofList front) fields).toList ++
            shown (values fields) (behind ++ '\x7b' :: name) ++
            (expand (String.ofList after) fields).toList) := by
  simp only [toList_expand, String.toList_ofList]
  refine ⟨⟨fun all => ?_, fun clear fields => clear.replaced⟩, ?_⟩
  · intro before name after bare split
    by_contra unsettled
    have replaced := all [(String.ofList name, .str "")]
    rw [split] at replaced
    exact (erases_single bare).not_replaced unsettled bare (by simp [values_single]) replaced
  · intro before name after bare split
    rw [split]
    constructor
    · intro settled fields
      exact go_braced _ settled bare.2 after
    · intro unsettled
      obtain ⟨front, behind, rfl, settled, unclosed⟩ := exists_opened unsettled
      exact ⟨front, behind, rfl, settled, unclosed, fun fields =>
        go_covered _ settled unclosed bare after⟩

def request : String := "\x7bhost\x7d \x7b\"host\":\"\x7bhost\x7d\"\x7d"

theorem replaced_iff_clear_request :
    Settled [] ∧ ¬Settled " \x7b\"host\":\"".toList ∧
      (expand request [("host", .str "x")]).toList =
        "x".toList ++ (expand " \x7b\"host\":\"\x7bhost\x7d\"\x7d" [("host", .str "x")]).toList ∧
      ¬∀ fields, Replaced (values fields) request.toList (expand request fields).toList := by
  have settled : Settled [] := by simp [Settled]
  have bare : Bare "host".toList := by unfold Bare; decide
  have unsettled : ¬Settled " \x7b\"host\":\"".toList := fun settled =>
    absurd (settled [' '] "\"host\":\"".toList (by decide)) (by decide)
  obtain ⟨all, each⟩ := replaced_iff_clear request
  refine ⟨settled, unsettled, ?_, fun replaced => unsettled ?_⟩
  · have first := (each [] "host".toList " \x7b\"host\":\"\x7bhost\x7d\"\x7d".toList bare
      (by decide)).1 settled [("host", .str "x")]
    rw [first]
    decide +kernel
  · have clear := all.1 replaced ("\x7bhost\x7d".toList ++ " \x7b\"host\":\"".toList)
      "host".toList "\"\x7d".toList bare (by decide)
    exact clear.of_append

/-- The braces of an object keep a placeholder within them from being replaced. -/
theorem placeholder_in_braces_kept :
    ¬∀ (template : String) fields,
      Replaced (values fields) template.toList (expand template fields).toList := by
  intro all
  have replaced := all "\x7b\"host\":\"\x7bhost\x7d\"\x7d" [("host", .str "x")]
  have right : Replaced (values [("host", .str "x")])
      ("\x7b\"host\":\"".toList ++ braced "host".toList ++ "\"\x7d".toList)
      ("\x7b\"host\":\"".toList ++ "x".toList ++ "\"\x7d".toList) := by
    refine .filled (plain_of_absent ?_) ?_ ?_ (.copied (plain_of_absent ?_))
    · decide
    · unfold Bare; decide
    · decide +kernel
    · decide
  have same := right.unique replaced
  exact absurd same (by decide +kernel)

end Overseer.Exec.Template
