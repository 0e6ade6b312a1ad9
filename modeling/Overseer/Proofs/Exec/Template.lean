import Mathlib
import Overseer.Exec.Prepare
import Overseer.Proofs.Table
import Overseer.Proofs.Text.Cutting

/-!
# How a template is filled in

A template is read as slots, each a name in braces with the text in front of it, and a rest without
any. Every template has exactly one such reading (`exists_written_eq`, `written_inj`), whatever
there is to fill in. Expanding the template puts the fillings into the slots of its reading
(`go_written`), so that nothing that is filled in is ever read.
-/

namespace Overseer.Exec

namespace Template

@[ext] structure Slot where
  front : List Char
  name : List Char
  plain : '\x7b' ∉ front
  unclosed : '\x7d' ∉ name

namespace Slot

def written (s : Slot) : List Char := s.front ++ '\x7b' :: s.name ++ ['\x7d']

def filled (known : String → Option String) (s : Slot) : List Char :=
  s.front ++
    match known (String.ofList s.name) with
    | some text => text.toList
    | none => '\x7b' :: s.name ++ ['\x7d']

end Slot

/-- A template as it is read, with no slot in the rest. -/
@[ext] structure Reading where
  slots : List Slot
  rest : List Char
  slotless : ∀ (s : Slot) (after : List Char), rest ≠ s.written ++ after

namespace Reading

def written (r : Reading) : List Char := r.slots.flatMap Slot.written ++ r.rest

def filled (known : String → Option String) (r : Reading) : List Char :=
  r.slots.flatMap (Slot.filled known) ++ r.rest

end Reading

/-! ## The reading of a template -/

variable {s t : Slot} {after later : List Char}

theorem Slot.written_append (s : Slot) (after : List Char) :
    s.written ++ after = s.front ++ '\x7b' :: (s.name ++ '\x7d' :: after) := by
  simp [Slot.written]

theorem Slot.written_inj (same : s.written ++ after = t.written ++ later) :
    s = t ∧ after = later := by
  rw [written_append, written_append] at same
  obtain ⟨front, behind⟩ := Text.append_cons_inj s.plain t.plain same
  obtain ⟨name, rest⟩ := Text.append_cons_inj s.unclosed t.unclosed behind
  exact ⟨Slot.ext front name, rest⟩

namespace Reading

variable {r u : Reading}

theorem written_nil (rest : List Char) (slotless) : written ⟨[], rest, slotless⟩ = rest := rfl

theorem written_cons (s : Slot) (slots : List Slot) (rest : List Char) (slotless) :
    written ⟨s :: slots, rest, slotless⟩ = s.written ++ written ⟨slots, rest, slotless⟩ := by
  simp [written]

theorem written_inj (same : r.written = u.written) : r = u := by
  obtain ⟨slots, rest, slotless⟩ := r
  obtain ⟨slots', rest', slotless'⟩ := u
  induction slots generalizing slots' with
  | nil =>
      cases slots' with
      | nil => exact Reading.ext rfl same
      | cons t slots' =>
          rw [written_nil, written_cons] at same
          exact absurd same (slotless t _)
  | cons s slots ih =>
      cases slots' with
      | nil =>
          rw [written_nil, written_cons] at same
          exact absurd same.symm (slotless' s _)
      | cons t slots' =>
          rw [written_cons, written_cons] at same
          obtain ⟨rfl, behind⟩ := Slot.written_inj same
          cases ih slots' behind
          rfl

theorem exists_written_eq (template : List Char) : ∃ r : Reading, r.written = template := by
  induction size : template.length using Nat.strong_induction_on generalizing template with
  | _ n ih =>
      subst size
      by_cases slot : ∃ (s : Slot) (after : List Char), template = s.written ++ after
      · obtain ⟨s, after, rfl⟩ := slot
        have shorter : after.length < (s.written ++ after).length := by
          simp only [Slot.written_append, List.length_append, List.length_cons]
          omega
        obtain ⟨r, rfl⟩ := ih after.length shorter after rfl
        exact ⟨⟨s :: r.slots, r.rest, r.slotless⟩, written_cons s r.slots r.rest r.slotless⟩
      · simp only [not_exists] at slot
        exact ⟨⟨[], template, slot⟩, rfl⟩

end Reading

/-! ## Filling in -/

variable (known : String → Option String)

theorem go_front {front : List Char} (plain : '\x7b' ∉ front) (after : List Char) :
    go known none (front ++ after) = front ++ go known none after := by
  induction front with
  | nil => rfl
  | cons c front ih =>
      rw [List.mem_cons, not_or] at plain
      rw [List.cons_append, go, if_neg (Ne.symm plain.1), ih plain.2]
      rfl

theorem go_name {name : List Char} (unclosed : '\x7d' ∉ name) (opened after : List Char) :
    go known (some opened) (name ++ after) = go known (some (name.reverse ++ opened)) after := by
  induction name generalizing opened with
  | nil => rfl
  | cons c name ih =>
      rw [List.mem_cons, not_or] at unclosed
      rw [List.cons_append, go, if_neg (Ne.symm unclosed.1), ih unclosed.2, List.reverse_cons,
        List.append_assoc]
      rfl

theorem go_slot (s : Slot) (after : List Char) :
    go known none (s.written ++ after) = s.filled known ++ go known none after := by
  rw [s.written_append, go_front known s.plain, go, if_pos rfl, go_name known s.unclosed, go,
    if_pos rfl]
  simp only [List.append_nil, List.reverse_reverse]
  rw [Slot.filled]
  cases known (String.ofList s.name) <;> simp

theorem go_rest (r : Reading) : go known none r.rest = r.rest := by
  by_cases opened : '\x7b' ∈ r.rest
  · obtain ⟨front, behind, split, plain⟩ := List.eq_append_cons_of_mem opened
    have unclosed : '\x7d' ∉ behind := by
      intro closed
      obtain ⟨name, after, rfl, unclosed⟩ := List.eq_append_cons_of_mem closed
      exact r.slotless ⟨front, name, plain, unclosed⟩ after (by rw [split, Slot.written_append])
    have copied := go_name known unclosed [] []
    rw [List.append_nil, List.append_nil, go, List.reverse_reverse] at copied
    rw [split, go_front known plain, go, if_pos rfl, copied]
  · have copied := go_front known opened []
    rwa [List.append_nil, go, List.append_nil] at copied

theorem go_written (r : Reading) : go known none r.written = r.filled known := by
  obtain ⟨slots, rest, slotless⟩ := r
  induction slots with
  | nil => exact go_rest known ⟨[], rest, slotless⟩
  | cons s slots ih =>
      rw [Reading.written_cons, go_slot, ih]
      simp [Reading.filled]

theorem expand_eq {template : String} {r : Reading} (read : r.written = template.toList)
    (fields : List (String × Json.Value)) :
    expand template fields =
      String.ofList (r.filled fun key => (fields.lookup key).map filling) := by
  rw [expand, ← read, go_written]

end Template

open Template

/-! ## The arguments of a program -/

def argument? (arguments : Json.Value) (key : String) : Option Json.Value :=
  match arguments with
  | .obj fields => fields.lookup key
  | _ => none

/-- What an extension fills in: what the program is to read is not among it. -/
def known (arguments : Json.Value) (key : String) : Option String :=
  if key = stdinKey then none else (argument? arguments key).map filling

theorem systemArgs_args (e : Extension) (arguments : Json.Value) :
    ∃ fields, (e.systemArgs arguments).args = e.args.map (expand · fields) ∧
      (fun key => (fields.lookup key).map filling) = known arguments := by
  refine ⟨_, rfl, funext fun key => ?_⟩
  rw [Table.lookup_filter, known]
  split
  · rfl
  · cases arguments <;> rfl

/-- A template is filled in slot by slot, after a reading that it has whatever there is to fill in,
and a name that is not known stays as it is. An extension does so with each of its templates, of
which it makes one argument each, and what the program is to read makes no difference to them. -/
theorem templates_filled_once (e : Extension) (arguments : Json.Value) :
    (∀ template : String, ∃ r : Reading, r.written = template.toList ∧
      (∀ u : Reading, u.written = template.toList → u = r) ∧
      ∀ fields : List (String × Json.Value),
        (expand template fields).toList =
          r.filled fun key => (fields.lookup key).map filling) ∧
    (e.systemArgs arguments).args.length = e.args.length ∧
    (∀ (i : Nat) (template : String) (r : Reading), e.args[i]? = some template →
      r.written = template.toList →
        (e.systemArgs arguments).args[i]? = some (String.ofList (r.filled (known arguments)))) ∧
    ∀ other : Json.Value,
      (∀ key, key ≠ stdinKey → argument? arguments key = argument? other key) →
        (e.systemArgs arguments).args = (e.systemArgs other).args := by
  refine ⟨fun template => ?_, ?_, fun i template r found read => ?_, fun other same => ?_⟩
  · obtain ⟨r, read⟩ := Reading.exists_written_eq template.toList
    refine ⟨r, read, fun u read' => Reading.written_inj (read'.trans read.symm), fun fields => ?_⟩
    rw [expand_eq read, String.toList_ofList]
  · obtain ⟨fields, args, -⟩ := systemArgs_args e arguments
    rw [args, List.length_map]
  · obtain ⟨fields, args, fillings⟩ := systemArgs_args e arguments
    rw [args, List.getElem?_map, found, Option.map_some, expand_eq read, fillings]
  · obtain ⟨fields, args, fillings⟩ := systemArgs_args e arguments
    obtain ⟨fields', args', fillings'⟩ := systemArgs_args e other
    have agree : known arguments = known other := by
      funext key
      unfold known
      split
      · rfl
      · rw [same key ‹_›]
    rw [args, args']
    refine List.map_congr_left fun template _ => ?_
    obtain ⟨r, read⟩ := Reading.exists_written_eq template.toList
    rw [expand_eq read, expand_eq read, fillings, fillings', agree]

def disguised (input : String) : Json.Value :=
  .obj [("a", .str "\x7bb\x7d"), ("b", .str "x"), (stdinKey, .str input)]

def quoting : Extension := ⟨"echo", "", ["\x7ba\x7d\x7bstdin\x7d", "\x7b\x7ba\x7d\x7bb"], []⟩

theorem templates_filled_once_disguised :
    (∀ key, key ≠ stdinKey → argument? (disguised "1") key = argument? (disguised "2") key) ∧
      (quoting.systemArgs (disguised "1")).args = (quoting.systemArgs (disguised "2")).args ∧
      (quoting.systemArgs (disguised "2")).args =
        ["\x7bb\x7d\x7bstdin\x7d", "\x7b\x7ba\x7d\x7bb"] := by
  have same : ∀ key, key ≠ stdinKey →
      argument? (disguised "1") key = argument? (disguised "2") key := by
    intro key other
    simp [argument?, disguised, Table.lookup_cons, other]
  exact ⟨same, (templates_filled_once quoting (disguised "1")).2.2.2 _ same, by decide +kernel⟩

end Overseer.Exec
