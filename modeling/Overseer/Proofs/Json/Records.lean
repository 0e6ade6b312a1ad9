import Overseer.Proofs.Json.Reading

/-!
# Written records are read

A value read without a type comes back with the fields of its objects in order, if it is nested no
deeper than the origin allows. A record that is written with its fields in the order of its form,
some of the optional ones left out, is read by filling the initial record with those that are there.
-/

namespace Overseer.Json

/-! ## Values of any type -/

namespace Value

mutual

/-- How many arrays and objects stand around the innermost value. -/
def depth : Value → Nat
  | .arr items => depthItems items + 1
  | .obj fields => depthFields fields + 1
  | _ => 0

def depthItems : List Value → Nat
  | [] => 0
  | v :: rest => max (depth v) (depthItems rest)

def depthFields : List (String × Value) → Nat
  | [] => 0
  | (_, v) :: rest => max (depth v) (depthFields rest)

end

/-- A value as it is held in memory: no floats, and the fields of its objects in order. -/
structure Plain (v : Value) : Prop where
  whole : v.isWhole = true
  sorted : v.canonical = v

end Value

def within {α : Type} (fits : Prop) [Decidable fits] (a : α) : Except DecodeError α :=
  if fits then .ok a else .error (.text .malformed)

section
variable {α β : Type} {p q r : Prop} [Decidable p] [Decidable q] [Decidable r]

theorem within_congr (same : p ↔ q) (a : α) : within p a = within q a := by
  simp only [within, same]

theorem within_bind {a : α} {next : α → Except DecodeError β} {b : β} (both : r ↔ p ∧ q)
    (step : p → next a = within q b) : (within p a >>= next) = within r b := by
  by_cases first : p
  · rw [within, if_pos first]
    exact (step first).trans (within_congr (by simp [both, first]) b)
  · have broken : ¬r := by simp [both, first]
    rw [within, if_neg first, within, if_neg broken]
    rfl

theorem enter_text (depth : Nat) :
    Origin.enter (.text (depth + 1)) = within (0 < depth) (.text depth) := by
  cases depth <;> rfl

end

mutual

theorem readAny_toDoc (v : Value) (depth : Nat) :
    readAny (.text (depth + 1)) v.toDoc = within (v.depth ≤ depth) v.canonical := by
  match v with
  | .null => rfl
  | .bool b => rfl
  | .num n => rfl
  | .str s => rfl
  | .arr items =>
      rw [Value.toDoc, readAny, enter_text]
      refine within_bind (q := Value.depthItems items + 1 ≤ depth) ?_ fun room => ?_
      · rw [Value.depth]
        omega
      · obtain ⟨inner, rfl⟩ := Nat.exists_eq_add_of_lt room
        rw [Nat.zero_add, readAnyItems_itemDocs items]
        exact within_bind (q := True) (by simp) fun _ => rfl
  | .obj fields =>
      rw [Value.toDoc, readAny, enter_text]
      refine within_bind (q := Value.depthFields fields + 1 ≤ depth) ?_ fun room => ?_
      · rw [Value.depth]
        omega
      · obtain ⟨inner, rfl⟩ := Nat.exists_eq_add_of_lt room
        rw [Nat.zero_add, readAnyFields_fieldDocs fields]
        exact within_bind (q := True) (by simp) fun _ => rfl

theorem readAnyItems_itemDocs (items : List Value) (depth : Nat) :
    readAnyItems (.text (depth + 1)) (Value.itemDocs items) =
      within (Value.depthItems items ≤ depth) (Value.canonicalItems items) := by
  match items with
  | [] => exact (if_pos (Nat.zero_le _)).symm
  | v :: items =>
      rw [Value.itemDocs, readAnyItems, readAny_toDoc v, readAnyItems_itemDocs items]
      exact within_bind Nat.max_le fun _ => within_bind (q := True) (by simp) fun _ => rfl

theorem readAnyFields_fieldDocs (fields : List (String × Value)) (depth : Nat) :
    readAnyFields (.text (depth + 1)) (Value.fieldDocs fields) =
      within (Value.depthFields fields ≤ depth) (Value.canonicalFields fields) := by
  match fields with
  | [] => exact (if_pos (Nat.zero_le _)).symm
  | (k, v) :: fields =>
      rw [Value.fieldDocs, readAnyFields, readAny_toDoc v, readAnyFields_fieldDocs fields]
      exact within_bind Nat.max_le fun _ => within_bind (q := True) (by simp) fun _ => rfl

end

/-! ## Records -/

variable {σ α : Type}

abbrev Slot (σ : Type) := Field σ × Option Doc

def written (slots : List (Slot σ)) : List (Except Fault String × Doc) :=
  slots.filterMap fun (f, d) => d.map (.ok f.name, ·)

def present (slots : List (Slot σ)) : List String :=
  slots.filterMap fun (f, d) => d.map fun _ => f.name

def complete (slots : List (Slot σ)) : Bool := slots.all fun (f, d) => !f.required || d.isSome

def fill (origin : Origin) : List (Slot σ) → σ → Except DecodeError σ
  | [], s => .ok s
  | (_, none) :: slots, s => fill origin slots s
  | (f, some d) :: slots, s => do fill origin slots (← f.read origin d s)

section
variable {origin : Origin} {name : String} {read : Reader α} {store : σ → α → σ} {d : Doc} {a : α}
  (slots : List (Slot σ)) (s : σ)

theorem fill_of (ok : read origin d = .ok a) :
    fill origin ((.of name read store, some d) :: slots) s = fill origin slots (store s a) := by
  show ((read origin d).map (store s)).bind _ = _
  rw [ok]
  rfl

theorem fill_needed (ok : read origin d = .ok a) :
    fill origin (((Field.of name read store).needed, some d) :: slots) s =
      fill origin slots (store s a) := by
  show fill origin ((Field.of name read store, some d) :: slots) s = _
  exact fill_of slots s ok

theorem fill_within {fits : Prop} [Decidable fits] {t : σ} (reads : read origin d = within fits a)
    (rest : fill origin slots (store s a) = .ok t) :
    fill origin ((.of name read store, some d) :: slots) s = within fits t := by
  show ((read origin d).map (store s)).bind _ = _
  rw [reads]
  by_cases fit : fits
  · simp only [within, fit, if_true]
    exact rest
  · simp only [within, fit, if_false]
    rfl

theorem fill_unless {empty : α} [Decidable (a = empty)] (ok : read origin d = .ok a)
    (default : store s empty = s) :
    fill origin ((.of name read store, if a = empty then none else some d) :: slots) s =
      fill origin slots (store s a) := by
  by_cases left : a = empty
  · rw [if_pos left, fill, left, default]
  · rw [if_neg left, fill_of slots s ok]

theorem fill_option {read : Reader (Option α)} {store : σ → Option α → σ} {doc : α → Doc}
    (o : Option α) (ok : ∀ a, read origin (doc a) = .ok (some a)) (default : store s none = s) :
    fill origin ((.of name read store, o.map doc) :: slots) s =
      fill origin slots (store s o) := by
  cases o with
  | none => rw [Option.map_none, fill, default]
  | some a => exact fill_of slots s (ok a)

end

theorem find?_name {fields : List (Field σ)} (distinct : (fields.map Field.name).Nodup)
    {f : Field σ} (member : f ∈ fields) : fields.find? (·.name == f.name) = some f := by
  induction fields with
  | nil => cases member
  | cons g fields ih =>
      obtain ⟨first, distinct⟩ := List.nodup_cons.1 distinct
      rcases List.mem_cons.1 member with rfl | member
      · simp
      · have other : g.name ≠ f.name := fun same => first (same ▸ List.mem_map_of_mem member)
        simp [other, ih distinct member]

namespace RecordForm

variable (form : RecordForm σ) (origin : Origin)

theorem readObject_field {f : Field σ} {d : Doc} {rest : List (Except Fault String × Doc)}
    {seen : List String} (s : σ) (known : form.fields.find? (·.name == f.name) = some f)
    (unseen : f.name ∉ seen) :
    form.readObject origin ((.ok f.name, d) :: rest) seen s =
      f.read origin d s >>= form.readObject origin rest (f.name :: seen) := by
  have fresh : seen.contains f.name = false := by simpa using unseen
  simp only [readObject, liftFault, bind, Except.bind, known, fresh]
  rfl

theorem readObject_written (slots : List (Slot σ)) (seen : List String) (s : σ)
    (known : ∀ x ∈ slots, form.fields.find? (·.name == x.1.name) = some x.1)
    (distinct : (slots.map (·.1.name)).Nodup) (fresh : ∀ x ∈ slots, x.1.name ∉ seen) :
    form.readObject origin (written slots) seen s =
      (fill origin slots s).map ((present slots).reverse ++ seen, ·) := by
  induction slots generalizing seen s with
  | nil => rfl
  | cons x slots ih =>
      obtain ⟨f, d⟩ := x
      obtain ⟨apart, others⟩ := List.nodup_cons.1 distinct
      have known' := fun x member => known x (List.mem_cons_of_mem _ member)
      have fresh' := fun x member => fresh x (List.mem_cons_of_mem _ member)
      cases d with
      | none => exact ih seen s known' others fresh'
      | some d =>
          refine (form.readObject_field origin s (known _ List.mem_cons_self)
            (fresh _ List.mem_cons_self)).trans ?_
          rw [fill]
          cases f.read origin d s with
          | error e => rfl
          | ok s' =>
              have rest := ih (f.name :: seen) s' known' others fun x member => by
                have other : x.1.name ≠ f.name := fun same =>
                  apart (List.mem_map.2 ⟨x, member, same⟩)
                simp [other, fresh' x member]
              refine rest.trans ?_
              have names : (present ((f, some d) :: slots)).reverse ++ seen =
                  (present slots).reverse ++ f.name :: seen := by
                simp [present]
              rw [names]
              rfl

theorem read_written (slots : List (Slot σ)) (all : slots.map Prod.fst = form.fields)
    (distinct : (form.fields.map Field.name).Nodup) (filled : complete slots = true) :
    form.read origin (.obj (written slots) none) =
      origin.enter >>= fun inner => fill inner slots form.initial := by
  have member (x : Slot σ) (within : x ∈ slots) : x.1 ∈ form.fields :=
    all ▸ List.mem_map_of_mem within
  have apart : (slots.map (·.1.name)).Nodup := by
    rwa [← all, List.map_map] at distinct
  have given : form.fields.find?
      (fun f => f.required && !((present slots).reverse ++ []).contains f.name) = none := by
    rw [List.find?_eq_none]
    intro f within
    rw [← all] at within
    obtain ⟨⟨g, d⟩, place, rfl⟩ := List.mem_map.1 within
    have there := List.all_eq_true.1 filled _ place
    cases d with
    | none =>
        have optional : g.required = false := by simpa using there
        simp [optional]
    | some d =>
        have named : g.name ∈ present slots := List.mem_filterMap.2 ⟨_, place, rfl⟩
        simp [named]
  rw [RecordForm.read]
  cases origin.enter with
  | error e => rfl
  | ok inner =>
      show (form.readObject inner (written slots) [] form.initial).bind _ = _
      rw [form.readObject_written inner slots [] form.initial
        (fun x within => find?_name distinct (member x within)) apart (by simp)]
      show _ = fill inner slots form.initial
      cases fill inner slots form.initial with
      | error e => rfl
      | ok s =>
          simp only [liftClose, bind, Except.bind, Except.map, given]
          rfl

end RecordForm

/-! ## Readers -/

section
variable {origin : Origin}

theorem readText_toDoc (s : String) : readText origin (Value.str s).toDoc = .ok s := rfl

theorem readUnsigned_toDoc {bits n : Nat} (small : n < 2 ^ bits) :
    readUnsigned bits origin (Value.nat n).toDoc = .ok n := by
  have fits : (0 : Int) ≤ n ∧ (n : Int) ≤ Int.pow 2 bits - 1 := by
    have most : (n : Int) < 2 ^ bits := by exact_mod_cast small
    exact ⟨Int.natCast_nonneg n, Int.le_sub_one_of_lt most⟩
  rw [readUnsigned, Value.nat, Value.toDoc, readInt]
  simp only [fits, and_self, if_true]
  rfl

theorem readSigned_toDoc {n : Int} (least : -2 ^ 63 ≤ n) (most : n < 2 ^ 63) :
    readSigned origin (Value.int n).toDoc = .ok n :=
  if_pos ⟨least, Int.le_sub_one_of_lt most⟩

theorem readList_toDoc {read : Reader α} {encode : α → Value} {inner : Origin}
    (enter : origin.enter = .ok inner) (as : List α)
    (ok : ∀ a ∈ as, read inner (encode a).toDoc = .ok a) :
    readList read origin (Value.arr (as.map encode)).toDoc = .ok as := by
  have items : readItems? read inner (Value.itemDocs (as.map encode)) = .ok as := by
    induction as with
    | nil => rfl
    | cons a as ih =>
        rw [List.map_cons, Value.itemDocs, readItems?, ok a List.mem_cons_self,
          ih fun b member => ok b (List.mem_cons_of_mem _ member)]
        rfl
  rw [Value.toDoc, readList, enter]
  show (readItems? read inner _).bind _ = _
  rw [items]
  rfl

theorem readPair_toDoc {read : Reader α} {encode : α → Value} {inner : Origin}
    (enter : origin.enter = .ok inner) (p : α × α)
    (ok : ∀ a, read inner (encode a).toDoc = .ok a) :
    readPair read origin (Value.arr [encode p.1, encode p.2]).toDoc = .ok p := by
  rw [Value.toDoc, readPair, enter]
  show (read inner (encode p.1).toDoc).bind _ = _
  rw [ok]
  show (read inner (encode p.2).toDoc).bind _ = _
  rw [ok]
  rfl

end

end Overseer.Json
