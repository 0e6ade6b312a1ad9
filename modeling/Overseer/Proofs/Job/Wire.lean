import Overseer.Boot.Entry
import Overseer.Job.Result
import Overseer.Proofs.Json.Records

/-!
# Records on the wire

Commands, results, entries of the startup batch and messages are read back from the text they are
written as. The fields that are left out where they are empty are empty by default; the route of a
command and the part of a time below a millisecond do not travel.
-/

namespace Overseer

open Json (Doc Origin Slot Value fill written within)

/-! ## Parts -/

theorem Level.reader_toDoc (origin : Origin) (l : Level) :
    Level.reader origin l.toJson.toDoc = .ok l := by
  rw [Level.reader, Level.toJson, Json.readUnsigned_toDoc (n := l.toNat) l.code.toNat_lt]
  show Except.ok (Level.ofNat l.toNat) = _
  rw [Level.ofNat, Level.toNat, Nat.toUInt16_eq, UInt16.ofNat_toNat]

theorem JobState.reader_toDoc (origin : Origin) (s : JobState) :
    JobState.reader origin s.toJson.toDoc = .ok s := by
  cases s <;> rfl

namespace Json

theorem isWhole_nat {n : Nat} (small : n < 2 ^ 64) : (Value.nat n).isWhole = true := by
  have fits : Fits n := by
    unfold Fits
    omega
  simpa [Value.nat, Value.isWhole] using fits

theorem isWhole_int {n : Int} (least : -2 ^ 63 ≤ n) (most : n < 2 ^ 63) :
    (Value.int n).isWhole = true := by
  have fits : Fits n := by
    unfold Fits
    omega
  simpa [Value.int, Value.isWhole] using fits

theorem areWhole_map {α : Type} {encode : α → Value} (as : List α)
    (whole : ∀ a, (encode a).isWhole = true) : Value.areWhole (as.map encode) = true := by
  induction as with
  | nil => rfl
  | cons a as ih => simp [Value.areWhole, whole, ih]

theorem readAny_plain {v : Value} (plain : v.Plain) :
    readAny (.text 127) v.toDoc = within (v.depth + 1 < depthLimit) v := by
  have room : v.depth ≤ 126 ↔ v.depth + 1 < depthLimit := by
    unfold depthLimit
    omega
  rw [readAny_toDoc, plain.sorted, within_congr room]

end Json

theorem Level.isWhole_toJson (l : Level) : l.toJson.isWhole = true :=
  Json.isWhole_nat (Nat.lt_trans l.code.toNat_lt (by decide))

/-! ## Commands -/

namespace Command

def slots (c : Command) : List (Slot Command) :=
  form.fields.zip [
    some (Value.str c.id).toDoc,
    some (Value.str c.command).toDoc,
    some c.arguments.toDoc,
    if c.queue = "" then none else some (Value.str c.queue).toDoc,
    some (Value.nat c.statsInterval.toNat).toDoc,
    some (Value.nat c.maxTime.toNat).toDoc,
    some (Value.nat c.maxRestart.toNat).toDoc,
    some (Value.nat c.recurringPeriod.toNat).toDoc,
    if c.logLevels = [] then none else some (Value.arr (c.logLevels.map Level.toJson)).toDoc,
    if c.tags = "" then none else some (Value.str c.tags).toDoc]

theorem toDoc_toJson (c : Command) : c.toJson.toDoc = .obj (written c.slots) none := by
  by_cases queue : c.queue = "" <;> by_cases levels : c.logLevels = [] <;>
    by_cases tags : c.tags = "" <;>
    simp [toJson, slots, unlessEmpty, queue, levels, tags, Value.toDoc] <;> rfl

theorem isWhole_toJson (c : Command) (whole : c.arguments.isWhole = true) :
    c.toJson.isWhole = true := by
  have interval := Json.isWhole_nat c.statsInterval.toNat_lt
  have time := Json.isWhole_nat c.maxTime.toNat_lt
  have restart := Json.isWhole_nat (Nat.lt_trans c.maxRestart.toNat_lt (by decide))
  have period := Json.isWhole_nat c.recurringPeriod.toNat_lt
  have levels := Json.areWhole_map c.logLevels Level.isWhole_toJson
  by_cases queue : c.queue = "" <;> by_cases none : c.logLevels = [] <;>
    by_cases tags : c.tags = "" <;>
    simp [toJson, unlessEmpty, Value.isWhole, Value.haveWhole, *]

theorem reader_toDoc (c : Command) (plain : c.arguments.Plain) :
    reader (.text Json.depthLimit) c.toJson.toDoc =
      within (c.arguments.depth + 1 < Json.depthLimit) { c with route := "" } := by
  have levels (l : Level) (_ : l ∈ c.logLevels) : Level.reader (.text 126) l.toJson.toDoc = .ok l :=
    Level.reader_toDoc _ l
  rw [toDoc_toJson, reader, form.read_written _ c.slots rfl (by decide) rfl]
  show fill (.text 127) c.slots form.initial = _
  refine (Json.fill_of _ _ (Json.readText_toDoc c.id)).trans ?_
  refine (Json.fill_needed _ _ (Json.readText_toDoc c.command)).trans ?_
  refine Json.fill_within _ _ (Json.readAny_plain plain) ?_
  refine (Json.fill_unless _ _ (Json.readText_toDoc c.queue) rfl).trans ?_
  refine (Json.fill_of _ _ (Json.readUnsigned_toDoc c.statsInterval.toNat_lt)).trans ?_
  refine (Json.fill_of _ _ (Json.readUnsigned_toDoc c.maxTime.toNat_lt)).trans ?_
  refine (Json.fill_of _ _ (Json.readUnsigned_toDoc c.maxRestart.toNat_lt)).trans ?_
  refine (Json.fill_of _ _ (Json.readUnsigned_toDoc c.recurringPeriod.toNat_lt)).trans ?_
  refine (Json.fill_unless _ _ (Json.readList_toDoc rfl c.logLevels levels) rfl).trans ?_
  refine (Json.fill_unless _ _ (Json.readText_toDoc c.tags) rfl).trans ?_
  show Except.ok { c with
    statsInterval := .ofNat c.statsInterval.toNat
    maxTime := .ofNat c.maxTime.toNat
    maxRestart := .ofNat c.maxRestart.toNat
    recurringPeriod := .ofNat c.recurringPeriod.toNat
    route := "" } = _
  simp only [UInt64.ofNat_toNat, UInt32.ofNat_toNat]

end Command

/-! ## Results -/

namespace JobResult

def slots (r : JobResult) : List (Slot JobResult) :=
  form.fields.zip [
    some (Value.str r.id).toDoc,
    some (Value.str r.command).toDoc,
    some (Value.str r.data).toDoc,
    some r.level.toJson.toDoc,
    some (Value.arr [.str r.streams.1, .str r.streams.2]).toDoc,
    some (Value.str r.critical).toDoc,
    some r.state.toJson.toDoc,
    some (Value.int r.startTime.toInt).toDoc,
    some (Value.nat r.time.toNat).toDoc,
    if r.tags = "" then none else some (Value.str r.tags).toDoc]

theorem toDoc_toJson (r : JobResult) : r.toJson.toDoc = .obj (written r.slots) none := by
  by_cases tags : r.tags = "" <;>
    simp [toJson, slots, Command.unlessEmpty, tags, Value.toDoc] <;> rfl

theorem isWhole_toJson (r : JobResult) : r.toJson.isWhole = true := by
  have level := r.level.isWhole_toJson
  have start := Json.isWhole_int r.startTime.le_toInt r.startTime.toInt_lt
  have time := Json.isWhole_nat r.time.toNat_lt
  by_cases tags : r.tags = "" <;>
    simp [toJson, Command.unlessEmpty, JobState.toJson, Value.isWhole, Value.haveWhole,
      Value.areWhole, *]

theorem reader_toDoc (r : JobResult) :
    reader (.text Json.depthLimit) r.toJson.toDoc = .ok r := by
  have start : Json.readSigned (.text 127) (Value.int r.startTime.toInt).toDoc =
      .ok r.startTime.toInt :=
    Json.readSigned_toDoc r.startTime.le_toInt r.startTime.toInt_lt
  rw [toDoc_toJson, reader, form.read_written _ r.slots rfl (by decide) rfl]
  show fill (.text 127) r.slots form.initial = _
  refine (Json.fill_needed _ _ (Json.readText_toDoc r.id)).trans ?_
  refine (Json.fill_needed _ _ (Json.readText_toDoc r.command)).trans ?_
  refine (Json.fill_needed _ _ (Json.readText_toDoc r.data)).trans ?_
  refine (Json.fill_needed _ _ (Level.reader_toDoc _ r.level)).trans ?_
  refine (Json.fill_needed _ _ (Json.readPair_toDoc rfl r.streams Json.readText_toDoc)).trans ?_
  refine (Json.fill_needed _ _ (Json.readText_toDoc r.critical)).trans ?_
  refine (Json.fill_needed _ _ (JobState.reader_toDoc _ r.state)).trans ?_
  refine (Json.fill_needed _ _ start).trans ?_
  refine (Json.fill_needed _ _ (Json.readUnsigned_toDoc r.time.toNat_lt)).trans ?_
  refine (Json.fill_unless _ _ (Json.readText_toDoc r.tags) rfl).trans ?_
  show Except.ok { r with
    startTime := .ofInt r.startTime.toInt
    time := .ofNat r.time.toNat } = _
  simp only [Int64.ofInt_toInt, UInt64.ofNat_toNat]

end JobResult

/-! ## Entries -/

namespace Boot.Entry

def slots (e : Entry) : List (Slot Entry) :=
  form.fields.zip [
    some (Value.str e.key).toDoc,
    some (Value.str e.name).toDoc,
    some e.args.toDoc,
    some (Value.arr (e.after.map .str)).toDoc,
    some (Value.int e.runningDelay.toInt).toDoc,
    e.runningMatch.map fun p => (Value.str p).toDoc,
    some (Value.nat e.maxRestart.toNat).toDoc,
    some (Value.nat e.recurringPeriod.toNat).toDoc]

theorem toDoc_toJson (e : Entry) : e.toJson.toDoc = .obj (written e.slots) none := by
  cases pattern : e.runningMatch <;> simp [toJson, slots, pattern, Value.toDoc] <;> rfl

theorem isWhole_toJson (e : Entry) (whole : e.args.isWhole = true) : e.toJson.isWhole = true := by
  have delay := Json.isWhole_int e.runningDelay.le_toInt e.runningDelay.toInt_lt
  have restart := Json.isWhole_nat (Nat.lt_trans e.maxRestart.toNat_lt (by decide))
  have period := Json.isWhole_nat e.recurringPeriod.toNat_lt
  have after : Value.areWhole (e.after.map Value.str) = true :=
    Json.areWhole_map e.after fun _ => rfl
  cases pattern : e.runningMatch <;>
    simp [toJson, Value.isWhole, Value.haveWhole, *]

theorem reader_toDoc (e : Entry) (plain : e.args.Plain) :
    reader (.text Json.depthLimit) e.toJson.toDoc =
      within (e.args.depth + 1 < Json.depthLimit) e := by
  have after : Json.readList Json.readText (.text 127) (Value.arr (e.after.map Value.str)).toDoc =
      .ok e.after :=
    Json.readList_toDoc rfl e.after fun s _ => Json.readText_toDoc s
  have delay : Json.readSigned (.text 127) (Value.int e.runningDelay.toInt).toDoc =
      .ok e.runningDelay.toInt :=
    Json.readSigned_toDoc e.runningDelay.le_toInt e.runningDelay.toInt_lt
  rw [toDoc_toJson, reader, form.read_written _ e.slots rfl (by decide) rfl]
  show fill (.text 127) e.slots form.initial = _
  refine (Json.fill_of _ _ (Json.readText_toDoc e.key)).trans ?_
  refine (Json.fill_needed _ _ (Json.readText_toDoc e.name)).trans ?_
  refine Json.fill_within _ _ (Json.readAny_plain plain) ?_
  refine (Json.fill_of _ _ after).trans ?_
  refine (Json.fill_of _ _ delay).trans ?_
  refine (Json.fill_option _ _ e.runningMatch (fun p => rfl) rfl).trans ?_
  refine (Json.fill_of _ _ (Json.readUnsigned_toDoc e.maxRestart.toNat_lt)).trans ?_
  refine (Json.fill_of _ _ (Json.readUnsigned_toDoc e.recurringPeriod.toNat_lt)).trans ?_
  show Except.ok { e with
    runningDelay := .ofInt e.runningDelay.toInt
    maxRestart := .ofNat e.maxRestart.toNat
    recurringPeriod := .ofNat e.recurringPeriod.toNat } = _
  simp only [Int64.ofInt_toInt, UInt32.ofNat_toNat, UInt64.ofNat_toNat]

end Boot.Entry

/-! ## Messages -/

namespace Message

def whole (m : Message) : Message :=
  { m with epoch := .ofInt (m.epoch.toInt.tdiv nanosPerMilli * nanosPerMilli) }

theorem tdiv_bounds (n : Int64) :
    -2 ^ 63 ≤ n.toInt.tdiv nanosPerMilli * nanosPerMilli ∧
      n.toInt.tdiv nanosPerMilli * nanosPerMilli < 2 ^ 63 := by
  have least := n.le_toInt
  have most := n.toInt_lt
  unfold nanosPerMilli
  rcases Int.le_total 0 n.toInt with after | before
  · rw [Int.tdiv_eq_ediv_of_nonneg after]
    omega
  · rw [← Int.neg_neg n.toInt, Int.neg_tdiv, Int.tdiv_eq_ediv_of_nonneg (by omega)]
    omega

theorem whole_epoch (m : Message) :
    m.whole.epoch.toInt = m.epoch.toInt.tdiv nanosPerMilli * nanosPerMilli := by
  obtain ⟨least, most⟩ := tdiv_bounds m.epoch
  exact Int64.toInt_ofInt_of_le least most

theorem toJson_whole (m : Message) : m.whole.toJson = m.toJson := by
  have same : m.whole.epoch.toInt.tdiv nanosPerMilli = m.epoch.toInt.tdiv nanosPerMilli := by
    rw [whole_epoch, Int.mul_tdiv_cancel _ (by decide)]
  rw [toJson, toJson, same]
  rfl

def slots (m : Message) : List (Slot Message) :=
  form.fields.zip [
    some (Value.int (m.epoch.toInt.tdiv nanosPerMilli)).toDoc,
    some m.level.toJson.toDoc,
    some (Value.str m.content).toDoc]

theorem isWhole_toJson (m : Message) : m.toJson.isWhole = true := by
  have level := m.level.isWhole_toJson
  have epoch : (Value.int (m.epoch.toInt.tdiv nanosPerMilli)).isWhole = true := by
    obtain ⟨least, most⟩ := tdiv_bounds m.epoch
    refine Json.isWhole_int ?_ ?_ <;> unfold nanosPerMilli at * <;> omega
  simp [toJson, Value.isWhole, Value.haveWhole, *]

theorem reader_toDoc (m : Message) :
    reader (.text Json.depthLimit) m.toJson.toDoc = .ok m.whole := by
  have epoch : Json.readSigned (.text 127)
      (Value.int (m.epoch.toInt.tdiv nanosPerMilli)).toDoc =
        .ok (m.epoch.toInt.tdiv nanosPerMilli) := by
    obtain ⟨least, most⟩ := tdiv_bounds m.epoch
    refine Json.readSigned_toDoc ?_ ?_ <;> unfold nanosPerMilli at * <;> omega
  show reader _ (.obj (written m.slots) none) = _
  rw [reader, form.read_written _ m.slots rfl (by decide) rfl]
  show fill (.text 127) m.slots form.initial = _
  refine (Json.fill_of _ _ epoch).trans ?_
  refine (Json.fill_needed _ _ (Level.reader_toDoc _ m.level)).trans ?_
  refine (Json.fill_of _ _ (Json.readText_toDoc m.content)).trans ?_
  rfl

end Message

/-! ## The statement -/

/-- What is written is read back: a command without its route, a result and an entry as they are,
a message with its time in whole milliseconds, so that it is written as the same text again. The
arguments of a command or of an entry may be nested one level less than a text. -/
theorem wire_round_trip :
    (∀ (fresh : String) (c : Command), c.id ≠ "" → c.arguments.Plain →
      Command.load fresh c.toJson.wire =
        if c.arguments.depth + 1 < Json.depthLimit then .ok { c with route := "" }
        else .error (.text .malformed)) ∧
      (∀ r : JobResult, Json.decode JobResult.reader r.toJson.wire = .ok r) ∧
      (∀ e : Boot.Entry, e.args.Plain →
        Json.decode Boot.Entry.reader e.toJson.wire =
          if e.args.depth + 1 < Json.depthLimit then .ok e else .error (.text .malformed)) ∧
      ∀ m : Message, ∃ n : Message, Json.decode Message.reader m.toJson.wire = .ok n ∧
        n.level = m.level ∧ n.content = m.content ∧
        n.epoch.toInt = m.epoch.toInt.tdiv 1000000 * 1000000 ∧ n.toJson.text = m.toJson.text := by
  refine ⟨fun fresh c named plain => ?_, fun r => ?_, fun e plain => ?_, fun m => ?_⟩
  · rw [Command.load, Json.decode_wire _ _ (c.isWhole_toJson plain.whole), c.reader_toDoc plain]
    by_cases shallow : c.arguments.depth + 1 < Json.depthLimit
    · rw [Json.within, if_pos shallow]
      show Except.ok (if c.id.isEmpty then _ else _) = _
      rw [if_neg (by simpa using named)]
    · rw [Json.within, if_neg shallow]
      rfl
  · rw [Json.decode_wire _ _ r.isWhole_toJson, r.reader_toDoc]
  · rw [Json.decode_wire _ _ (e.isWhole_toJson plain.whole), e.reader_toDoc plain]
    rfl
  · refine ⟨m.whole, ?_, rfl, rfl, m.whole_epoch, by rw [m.toJson_whole]⟩
    rw [Json.decode_wire _ _ m.isWhole_toJson, m.reader_toDoc]

def nightlyArguments : Value :=
  .obj [("\x01", .arr [.str "say \"ï\"", .obj []]), ("size", .int 18446744073709551615)]

def nightly : Command :=
  { Command.new "nightly" "ARGS" with
    arguments := nightlyArguments, logLevels := [.stderr], route := "/run/reply" }

theorem wire_round_trip_nightly :
    nightly.id ≠ "" ∧ nightly.arguments.Plain ∧
      Command.load "fresh" nightly.toJson.wire = .ok { nightly with route := "" } ∧
      Json.decode Boot.Entry.reader
        ({ Boot.Entry.new "web" "ARGS" with args := nightlyArguments } : Boot.Entry).toJson.wire =
          .ok { Boot.Entry.new "web" "ARGS" with args := nightlyArguments } := by
  have plain : nightlyArguments.Plain := ⟨by decide, rfl⟩
  have named : nightly.id ≠ "" := by decide
  exact ⟨named, plain, wire_round_trip.1 "fresh" nightly named plain,
    wire_round_trip.2.2.1 _ plain⟩

end Overseer
