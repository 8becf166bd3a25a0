import SysadminAssistant.Monitor.MessageBackfill
import SysadminAssistant.Python.JsonReload

namespace SysadminAssistant.Monitor.Backfill

open Python Library

/-! The repair over a table that the journal reader filled.  Each row was read under some
declaration of its source and cut at the caps of its day; the repair compares it with the
declarations of now. -/

/-- One stored journal record, and how it was read. -/
structure Reading (interpreter : Interpreter) where
  id : Nat
  source : JournalSource
  line : Text
  now : Int
  fields : List (Text × Json)
  entry : Entry
  messageCap : Nat
  rawCap : Nat
  decoded : Json.loads interpreter.decodeDepth line = .ok (.obj fields)
  stored : recordEntry interpreter source line now fields = .ok (some entry)

namespace Reading

variable {interpreter : Interpreter} (reading : Reading interpreter)

/-- The record's own `MESSAGE`. -/
def whole : Text := messageText (Json.field (text "MESSAGE") reading.fields)

def rawLine : Text := reading.line.take reading.rawCap

/-- The row of an entry made of this record, cut at the caps. -/
def rowOf (entry : Entry) : LogRow where
  id := reading.id
  source := entry.source
  severity := entry.severity
  message := entry.message.take reading.messageCap
  loggedAt := entry.loggedAt
  rawLine := some reading.rawLine
  metadata := entry.metadata

def row : LogRow := reading.rowOf reading.entry

/-- The row of this record, with this much unwrapped from its message. -/
def rowWith (message : Text) (envelope : List (Text × Json)) : LogRow where
  id := reading.id
  source := reading.source.unit
  severity := reading.entry.severity
  message := message.take reading.messageCap
  loggedAt := reading.entry.loggedAt
  rawLine := some reading.rawLine
  metadata := recordMetadata reading.fields envelope

/-- The source of the record, once it is declared json. -/
def redeclared : JournalSource := { reading.source with jsonFormat := true }

/-- The raw line was not cut short of the record. -/
def Legible : Prop := ∃ record, Json.loads interpreter.decodeDepth reading.rawLine = .ok record

/-- The row waits for the repair: read as text, declared json by now, an envelope, and stored whole. -/
structure Frozen (composed : List Sources.LogSource) : Prop where
  readAsText : reading.source.jsonFormat = false
  declared : DeclaredJson composed reading.source.unit
  unwraps : Unwraps interpreter reading.whole
  uncut : reading.whole.length ≤ reading.messageCap
  legible : reading.Legible

/-- What the repair leaves of a row. -/
structure Repaired (composed : List Sources.LogSource) (repaired : LogRow) : Prop where
  asDeclared : reading.Frozen composed → ∃ message envelope,
    composeMessage interpreter reading.redeclared reading.fields = .ok (message, envelope) ∧
      repaired = reading.rowWith message envelope
  asReread : reading.Frozen composed → ∀ entry,
    recordEntry interpreter reading.redeclared reading.line reading.now reading.fields =
      .ok (some entry) → repaired = reading.rowOf entry
  untouched : ¬reading.Frozen composed → repaired = reading.row

end Reading

theorem recordEntry_some {interpreter : Interpreter} {source : JournalSource} {line : Text}
    {now : Int} {fields : List (Text × Json)} {entry : Entry}
    (stored : recordEntry interpreter source line now fields = .ok (some entry)) :
    entry.source = source.unit ∧ recordSeverity interpreter fields = .ok entry.severity ∧
      stamp interpreter now (Json.field (text "__REALTIME_TIMESTAMP") fields) = .ok entry.loggedAt ∧
      ∃ envelope, composeMessage interpreter source fields = .ok (entry.message, envelope) ∧
        entry.metadata = recordMetadata fields envelope := by
  simp only [recordEntry, bind, Except.bind] at stored
  split at stored
  · cases stored
  · rename_i severity ranked
    split at stored
    · cases stored
    · rename_i composed made
      split at stored
      · split at stored
        · cases stored
        · rename_i loggedAt stamped
          cases stored
          exact ⟨rfl, ranked, stamped, composed.2, made, rfl⟩
      · cases stored

namespace Reading

variable {interpreter : Interpreter} (reading : Reading interpreter)

@[simp] theorem row_id : reading.row.id = reading.id := rfl

@[simp] theorem row_source : reading.row.source = reading.source.unit :=
  (recordEntry_some reading.stored).1

theorem row_message : reading.row.message = reading.entry.message.take reading.messageCap := rfl

theorem rowOf_eq {source : JournalSource} {entry : Entry} {message : Text}
    {envelope : List (Text × Json)}
    (stored : recordEntry interpreter source reading.line reading.now reading.fields =
    .ok (some entry))
    (composed : composeMessage interpreter source reading.fields = .ok (message, envelope))
    (unit : source.unit = reading.source.unit) :
    reading.rowOf entry = reading.rowWith message envelope := by
  obtain ⟨named, ranked, stamped, given, made, kept⟩ := recordEntry_some stored
  obtain ⟨_, ownRank, ownStamp, _⟩ := recordEntry_some reading.stored
  have severity : entry.severity = reading.entry.severity := Except.ok.inj (ranked.symm.trans ownRank)
  have loggedAt : entry.loggedAt = reading.entry.loggedAt :=
    Except.ok.inj (stamped.symm.trans ownStamp)
  rw [made] at composed
  cases composed
  rw [rowOf, rowWith, named, unit, severity, loggedAt, kept]

theorem row_asText (asText : reading.source.jsonFormat = false) :
    reading.row = reading.rowWith reading.whole [] := by
  refine reading.rowOf_eq reading.stored ?_ rfl
  simp only [composeMessage, asText, Bool.false_eq_true, if_false, whole]

theorem compose_redeclared : composeMessage interpreter reading.redeclared reading.fields =
    unwrapJsonMessage interpreter reading.whole := rfl

theorem entry_asJson (asJson : reading.source.jsonFormat = true) : ∃ envelope,
    unwrapJsonMessage interpreter reading.whole = .ok (reading.entry.message, envelope) := by
  obtain ⟨_, _, _, envelope, made, _⟩ := recordEntry_some reading.stored
  simp only [composeMessage, asJson, if_true] at made
  exact ⟨envelope, made⟩

/-! The witness. -/

theorem rawLine_loads :
    Json.loads interpreter.decodeDepth reading.rawLine = .ok (.obj reading.fields) ∨
    Json.loads interpreter.decodeDepth reading.rawLine = .error .valueError := by
  have spliced : reading.rawLine ++ reading.line.drop reading.rawCap = reading.line :=
    List.take_append_drop _ _
  have decoded := reading.decoded
  rw [← spliced] at decoded
  exact Json.loads_front decoded

theorem recordMessage_legible (legible : reading.Legible) :
    recordMessage interpreter (some reading.rawLine) = .ok (some reading.whole) := by
  obtain ⟨record, loaded⟩ := legible
  rw [recordMessage_eq]
  rcases reading.rawLine_loads with entire | cut
  · rw [entire]
    rfl
  · rw [cut] at loaded
    cases loaded

theorem recordMessage_illegible (illegible : ¬reading.Legible) :
    recordMessage interpreter (some reading.rawLine) = .ok none := by
  rw [recordMessage_eq]
  rcases reading.rawLine_loads with entire | cut
  · exact absurd ⟨_, entire⟩ illegible
  · rw [cut]

theorem recordMessage_ok : ∃ witness, recordMessage interpreter (some reading.rawLine) = .ok witness ∧
    (witness = none ↔ ¬reading.Legible) ∧ ∀ whole, witness = some whole → whole = reading.whole := by
  by_cases legible : reading.Legible
  · refine ⟨_, reading.recordMessage_legible legible, ?_, ?_⟩
    · simp [legible]
    · intro whole same
      exact (Option.some.inj same).symm
  · exact ⟨_, reading.recordMessage_illegible legible, by simp [legible], nofun⟩

theorem legible_of_witness
    (witnessed : recordMessage interpreter reading.row.rawLine = .ok (some reading.row.message)) :
    reading.Legible ∧ reading.row.message = reading.whole := by
  obtain ⟨witness, answered, unknown, known⟩ := reading.recordMessage_ok
  cases answered.symm.trans witnessed
  refine ⟨?_, known _ rfl⟩
  by_contra illegible
  cases unknown.mpr illegible

/-! The verdict on a row. -/

theorem judged_iff : (∃ verdict, judgeRow interpreter reading.row = .ok verdict) ↔
    ∃ result, unwrapJsonMessage interpreter reading.row.message = .ok result := by
  cases unwrapped : unwrapJsonMessage interpreter reading.row.message with
  | error raised => simp [judgeRow_error unwrapped]
  | ok result =>
    obtain ⟨witness, witnessed, _⟩ := reading.recordMessage_ok
    simp [judgeRow_eq unwrapped witnessed]

theorem readAsText_of_unwraps (same : reading.row.message = reading.whole)
    (unwraps : Unwraps interpreter reading.whole) : reading.source.jsonFormat = false := by
  by_contra asJson
  obtain ⟨envelope, made⟩ := reading.entry_asJson (Bool.not_eq_false _ ▸ asJson)
  obtain ⟨message, other, unwrapped, changed⟩ := unwraps
  rw [unwrapped] at made
  cases made
  have shorter := unwrapJsonMessage_shorter unwrapped changed
  have length := congrArg List.length same
  rw [row_message, List.length_take] at length
  omega

theorem uncut_of_text (asText : reading.source.jsonFormat = false) :
    reading.row.message = reading.whole ↔ reading.whole.length ≤ reading.messageCap := by
  rw [reading.row_asText asText]
  exact List.take_eq_self_iff _

variable {reading}

theorem judgeRow_frozen {composed : List Sources.LogSource} {planned : FrozenRow} :
    (DeclaredJson composed reading.source.unit ∧
      judgeRow interpreter reading.row = .ok (.frozen planned)) ↔
      reading.Frozen composed ∧ ∃ message envelope,
        unwrapJsonMessage interpreter reading.whole = .ok (message, envelope) ∧
          planned = ⟨reading.id, reading.source.unit, reading.whole, message, envelope⟩ := by
  constructor
  · intro found
    obtain ⟨declared, judged⟩ := found
    obtain ⟨message, envelope, unwrapped, changed, witnessed, rfl⟩ := judgeRow_ok_frozen judged
    obtain ⟨legible, stored⟩ := reading.legible_of_witness witnessed
    have unwraps : Unwraps interpreter reading.whole :=
      stored ▸ ⟨message, envelope, unwrapped, changed⟩
    have asText := reading.readAsText_of_unwraps stored unwraps
    refine ⟨⟨asText, declared, unwraps, (reading.uncut_of_text asText).mp stored, legible⟩,
      message, envelope, stored ▸ unwrapped, ?_⟩
    rw [row_source, row_id, stored]
  · intro held
    obtain ⟨frozen, message, envelope, unwrapped, rfl⟩ := held
    have stored := (reading.uncut_of_text frozen.readAsText).mpr frozen.uncut
    obtain ⟨other, lifted, again, changed⟩ := frozen.unwraps
    rw [unwrapped] at again
    cases again
    have answer := reading.recordMessage_legible frozen.legible
    refine ⟨frozen.declared, ?_⟩
    rw [← stored] at unwrapped changed answer
    rw [judgeRow_eq unwrapped answer, if_pos changed, if_neg (Option.some_ne_none _), if_pos rfl,
      row_source, row_id, stored]

theorem judgeRow_unwitnessed {entryId : Nat} :
    judgeRow interpreter reading.row = .ok (.unwitnessed entryId) ↔
    Unwraps interpreter reading.row.message ∧ ¬reading.Legible ∧ entryId = reading.id := by
  obtain ⟨witness, witnessed, unknown, _⟩ := reading.recordMessage_ok
  cases unwrapped : unwrapJsonMessage interpreter reading.row.message with
  | error raised => simp [judgeRow_error unwrapped, Unwraps, unwrapped]
  | ok result =>
    obtain ⟨message, envelope⟩ := result
    rw [judgeRow_eq unwrapped witnessed, Except.ok.injEq, ← unknown]
    by_cases changed : message = reading.row.message
    · simp only [changed, Unwraps, unwrapped, ne_eq, not_true, if_false]
      split <;> simp
    · by_cases unanswered : witness = none
      · simp [changed, unanswered, Unwraps, unwrapped, eq_comm]
      · simp only [unanswered, ne_eq, changed, not_false_eq_true, if_true, if_false, false_and,
          and_false, iff_false]
        split <;> simp

theorem judgeRow_unrecoverable {entryId : Nat}
    (judged : judgeRow interpreter reading.row = .ok (.unrecoverable entryId)) :
    reading.row.message.head? = some 0x7B ∧ ¬Unwraps interpreter reading.row.message ∧
      entryId = reading.id := by
  obtain ⟨after, envelope, unwrapped, ⟨same, quiet⟩ | ⟨_, witness, _, verdict⟩⟩ := judgeRow_ok judged
  · rcases quiet with alone | braced
    · cases alone
    · refine ⟨braced.2.1, ?_, Verdict.unrecoverable.inj braced.1⟩
      intro unwraps
      obtain ⟨other, lifted, again, changed⟩ := unwraps
      rw [unwrapped] at again
      cases again
      exact changed same
  · split at verdict
    · cases verdict
    · split at verdict <;> cases verdict

theorem judgeRow_unparsed (same : reading.row.message = reading.whole) (legible : reading.Legible)
    (braced : reading.row.message.head? = some 0x7B) (parsed : ∃ result,
      unwrapJsonMessage interpreter reading.row.message = .ok result)
    (plain : ¬Unwraps interpreter reading.row.message) :
    judgeRow interpreter reading.row = .ok (.unrecoverable reading.id) := by
  obtain ⟨⟨message, envelope⟩, unwrapped⟩ := parsed
  have unchanged : message = reading.row.message := by
    by_contra changed
    exact plain ⟨message, envelope, unwrapped, changed⟩
  have answer := reading.recordMessage_legible legible
  rw [← same] at answer
  rw [judgeRow_eq unwrapped answer, if_neg (not_not.mpr unchanged), if_pos ⟨braced, rfl⟩, row_id]

theorem judgeRow_rowWith {message : Text} {envelope : List (Text × Json)}
    (legible : reading.Legible) (shorter : message.length < reading.whole.length)
    (planned : FrozenRow) :
    judgeRow interpreter (reading.rowWith message envelope) ≠ .ok (.frozen planned) := by
  intro judged
  obtain ⟨after, lifted, _, _, witnessed, _⟩ := judgeRow_ok_frozen judged
  have answer := (reading.recordMessage_legible legible).symm.trans witnessed
  have length := congrArg List.length (Option.some.inj (Except.ok.inj answer))
  rw [rowWith, List.length_take] at length
  omega

theorem rewrite_row {composed : List Sources.LogSource} {message : Text}
    {envelope : List (Text × Json)} (frozen : reading.Frozen composed)
    (unwrapped : unwrapJsonMessage interpreter reading.whole = .ok (message, envelope)) :
    rewrite ⟨reading.id, reading.source.unit, reading.whole, message, envelope⟩ reading.row =
      reading.rowWith message envelope := by
  have stored := (reading.uncut_of_text frozen.readAsText).mpr frozen.uncut
  have kept : message.take reading.messageCap = message := by
    refine List.take_of_length_le ?_
    have uncut := frozen.uncut
    rcases unwrapJsonMessage_cases unwrapped with unchanged | shorter
    · rw [unchanged.1]
      exact uncut
    · omega
  have merged : mergeFields (recordMetadata reading.fields []) envelope =
      recordMetadata reading.fields envelope := by
    rcases unwrapJsonMessage_cases unwrapped with unchanged | shorter
    · rw [unchanged.2]
      rfl
    · rcases shorter.2 with rfl | named
      · rfl
      · obtain ⟨logger, rfl⟩ := named
        have fresh : text "logger" ∉ [text "pid", text "hostname", text "syslog_identifier"] := by
          decide
        exact Json.setField_fresh logger fresh
  rw [rewrite, if_neg (not_not.mpr stored), reading.row_asText frozen.readAsText]
  simp only [rowWith, merged, kept]

end Reading

/-! ## The table -/

section

variable {interpreter : Interpreter} {history : List (Reading interpreter)}
  {composed : List Sources.LogSource} {report : BackfillReport}

/-- The table that the readings left. -/
def storedRows (history : List (Reading interpreter)) : List LogRow := history.map Reading.row

/-- What the report says of one record. -/
structure Reported (composed : List Sources.LogSource) (report : BackfillReport)
    (reading : Reading interpreter) : Prop where
  frozen : reading.id ∈ report.frozen.map FrozenRow.entryId ↔ reading.Frozen composed
  unwitnessed : reading.id ∈ report.unwitnessed ↔ DeclaredJson composed reading.source.unit ∧
    Unwraps interpreter reading.row.message ∧ ¬reading.Legible
  unrecoverable : reading.id ∈ report.unrecoverable → DeclaredJson composed reading.source.unit ∧
    reading.row.message.head? = some 0x7B ∧ ¬Unwraps interpreter reading.row.message
  unparsed : DeclaredJson composed reading.source.unit → reading.row.message = reading.whole →
    reading.Legible →
    reading.row.message.head? = some 0x7B → ¬Unwraps interpreter reading.row.message →
      reading.id ∈ report.unrecoverable

theorem exists_stored {judged : LogRow → Prop} :
    (∃ row ∈ storedRows history, row.source ∈ jsonDeclaredSources composed ∧ judged row) ↔
      ∃ reading ∈ history, DeclaredJson composed reading.source.unit ∧ judged reading.row := by
  simp only [storedRows, List.mem_map, exists_exists_and_eq_and, Reading.row_source,
    mem_jsonDeclaredSources]

theorem mem_frozen_stored
    (planned : planBackfill interpreter (storedRows history) (jsonDeclaredSources composed) =
      .ok report)
    {row : FrozenRow} :
    row ∈ report.frozen ↔ ∃ reading ∈ history, reading.Frozen composed ∧ ∃ message envelope,
      unwrapJsonMessage interpreter reading.whole = .ok (message, envelope) ∧
        row = ⟨reading.id, reading.source.unit, reading.whole, message, envelope⟩ := by
  rw [mem_frozen planned, exists_stored]
  exact exists_congr fun reading => and_congr_right fun _ => Reading.judgeRow_frozen

theorem plan_returns :
    (∃ report, planBackfill interpreter (storedRows history) (jsonDeclaredSources composed) =
    .ok report) ↔ ∀ reading ∈ history, DeclaredJson composed reading.source.unit →
      ∃ result, unwrapJsonMessage interpreter reading.row.message = .ok result := by
  rw [planBackfill_returns]
  simp only [storedRows, List.forall_mem_map, Reading.row_source, mem_jsonDeclaredSources,
    Reading.judged_iff]

variable (distinct : (history.map Reading.id).Nodup)
include distinct

theorem reading_of_id {reading other : Reading interpreter} (member : reading ∈ history)
    (inside : other ∈ history) (same : reading.id = other.id) : reading = other :=
  List.inj_on_of_nodup_map distinct member inside same

theorem reported
    (planned : planBackfill interpreter (storedRows history) (jsonDeclaredSources composed) =
      .ok report)
    {reading : Reading interpreter} (member : reading ∈ history) :
    Reported composed report reading := by
  constructor
  · rw [List.mem_map]
    constructor
    · intro held
      obtain ⟨row, found, same⟩ := held
      obtain ⟨other, inside, frozen, message, envelope, _, rfl⟩ := (mem_frozen_stored planned).mp found
      rw [reading_of_id distinct member inside same.symm]
      exact frozen
    · intro frozen
      obtain ⟨message, envelope, unwrapped, _⟩ := frozen.unwraps
      exact ⟨_, (mem_frozen_stored planned).mpr ⟨reading, member, frozen, message, envelope,
        unwrapped, rfl⟩, rfl⟩
  · rw [mem_unwitnessed planned, exists_stored]
    constructor
    · intro held
      obtain ⟨other, inside, declared, judged⟩ := held
      obtain ⟨unwraps, illegible, same⟩ := Reading.judgeRow_unwitnessed.mp judged
      rw [reading_of_id distinct member inside same]
      exact ⟨declared, unwraps, illegible⟩
    · intro held
      obtain ⟨declared, unwraps, illegible⟩ := held
      exact ⟨reading, member, declared, Reading.judgeRow_unwitnessed.mpr ⟨unwraps, illegible, rfl⟩⟩
  · rw [mem_unrecoverable planned, exists_stored]
    intro held
    obtain ⟨other, inside, declared, judged⟩ := held
    obtain ⟨braced, plain, same⟩ := Reading.judgeRow_unrecoverable judged
    rw [reading_of_id distinct member inside same]
    exact ⟨declared, braced, plain⟩
  · intro declared same legible braced plain
    rw [mem_unrecoverable planned, exists_stored]
    have parsed := plan_returns.mp ⟨report, planned⟩ reading member declared
    exact ⟨reading, member, declared, Reading.judgeRow_unparsed same legible braced parsed plain⟩

theorem repaired
    (planned : planBackfill interpreter (storedRows history) (jsonDeclaredSources composed) =
      .ok report)
    {reading : Reading interpreter} (member : reading ∈ history) :
    reading.Repaired composed (
      match (Dict.ofEntries (report.frozen.map fun row => (row.entryId, row))).get? reading.row.id with
      | some planned => rewrite planned reading.row
      | none => reading.row) := by
  cases found : (Dict.ofEntries (report.frozen.map fun row => (row.entryId, row))).get?
    reading.row.id with
  | none =>
    have fresh : ¬reading.Frozen composed := by
      intro frozen
      obtain ⟨row, listed, same⟩ :=
        List.mem_map.mp ((reported distinct planned member).frozen.mpr frozen)
      have entered : (reading.row.id, row) ∈ report.frozen.map fun row => (row.entryId, row) :=
        List.mem_map.mpr ⟨row, listed, by rw [same, Reading.row_id]⟩
      obtain ⟨kept, present⟩ := Dict.exists_get?_ofEntries entered
      rw [found] at present
      cases present
    exact ⟨fun frozen => absurd frozen fresh, fun frozen => absurd frozen fresh, fun _ => rfl⟩
  | some row =>
    obtain ⟨listedRow, listed, same⟩ := List.mem_map.mp (Dict.get?_ofEntries_mem found)
    obtain ⟨sameId, rfl⟩ := Prod.mk.inj same
    obtain ⟨other, inside, frozen, message, envelope, unwrapped, shape⟩ :=
      (mem_frozen_stored planned).mp listed
    have here : reading = other := by
      refine reading_of_id distinct member inside ?_
      rw [← Reading.row_id, ← sameId, shape]
    subst here
    have rewritten : rewrite listedRow reading.row = reading.rowWith message envelope := by
      rw [shape]
      exact reading.rewrite_row frozen unwrapped
    refine ⟨fun _ => ⟨message, envelope, unwrapped, rewritten⟩, ?_, fun fresh => absurd frozen fresh⟩
    intro _ entry reread
    exact rewritten.trans (reading.rowOf_eq reread unwrapped rfl).symm

theorem applied_rows
    (planned : planBackfill interpreter (storedRows history) (jsonDeclaredSources composed) =
      .ok report) :
    List.Forall₂ (fun reading row => reading.Repaired composed row) history
      (applyBackfill (storedRows history) report).1 := by
  rw [applyBackfill_rows, storedRows, List.map_map, List.forall₂_map_right_iff, List.forall₂_same]
  exact fun reading member => repaired distinct planned member

theorem planned_again {later : BackfillReport}
    (planned : planBackfill interpreter (storedRows history) (jsonDeclaredSources composed) =
      .ok report)
    (again : planBackfill interpreter (applyBackfill (storedRows history) report).1
    (jsonDeclaredSources composed) =
      .ok later) : later.frozen = [] := by
  rw [List.eq_nil_iff_forall_not_mem]
  intro found listed
  obtain ⟨row, member, declared, judged⟩ := (mem_frozen again).mp listed
  rw [applyBackfill_rows, storedRows, List.map_map, List.mem_map] at member
  obtain ⟨reading, inside, same⟩ := member
  have left : reading.Repaired composed row := same ▸ repaired distinct planned inside
  by_cases frozen : reading.Frozen composed
  · obtain ⟨message, envelope, unwrapped, rfl⟩ := left.asDeclared frozen
    obtain ⟨other, lifted, once, changed⟩ := frozen.unwraps
    rw [reading.compose_redeclared, once] at unwrapped
    cases unwrapped
    exact Reading.judgeRow_rowWith frozen.legible (unwrapJsonMessage_shorter once changed) found judged
  · rw [left.untouched frozen] at declared judged
    rw [Reading.row_source, mem_jsonDeclaredSources] at declared
    exact frozen (Reading.judgeRow_frozen.mp ⟨declared, judged⟩).1

theorem backfill_repairs (composed : List Sources.LogSource) :
    ((∃ report, planBackfill interpreter (storedRows history) (jsonDeclaredSources composed) =
      .ok report) ↔ ∀ reading ∈ history, DeclaredJson composed reading.source.unit →
        ∃ result, unwrapJsonMessage interpreter reading.row.message = .ok result) ∧
    ∀ report, planBackfill interpreter (storedRows history) (jsonDeclaredSources composed) =
      .ok report → (∀ reading ∈ history, Reported composed report reading) ∧
      List.Forall₂ (fun reading row => reading.Repaired composed row) history
        (applyBackfill (storedRows history) report).1 ∧
      ∀ later, planBackfill interpreter (applyBackfill (storedRows history) report).1
        (jsonDeclaredSources composed) = .ok later → later.frozen = [] := by
  refine ⟨plan_returns, fun report planned => ⟨?_, applied_rows distinct planned, ?_⟩⟩
  · exact fun reading member => reported distinct planned member
  · exact fun later again => planned_again distinct planned again

end

/-! ## One record, its raw line stored whole or cut -/

def appEnvelope : Text := text "\x7b\"message\":\"x\"\x7d"

/-- A record of app.service, read as text with raw lines of at most this length. -/
def appReading (rawCap : Nat) : Reading plainInterpreter where
  id := 7
  source := ⟨text "app", text "app.service", false, text "info", false, .empty⟩
  line := text "\x7b\"MESSAGE\":\"\x7b\\\"message\\\":\\\"x\\\"\x7d\"\x7d"
  now := 0
  fields := [(text "MESSAGE", .str appEnvelope)]
  entry := {
    source := text "app.service"
    severity := .info
    message := appEnvelope
    loggedAt := 0
    rawLine := text "\x7b\"MESSAGE\":\"\x7b\\\"message\\\":\\\"x\\\"\x7d\"\x7d"
    metadata := recordMetadata [(text "MESSAGE", .str appEnvelope)] [] }
  messageCap := 5000
  rawCap := rawCap
  decoded := rfl
  stored := rfl

/-- app.service is declared json by now. -/
def appDeclared : List Sources.LogSource :=
  [{ name := text "app", type := text "journalctl", unit := some (text "app.service"), jsonFormat := true }]

theorem app_declared : DeclaredJson appDeclared (text "app.service") :=
  ⟨_, List.mem_singleton_self _, rfl, by decide⟩

theorem app_unwraps : Unwraps plainInterpreter appEnvelope := ⟨text "x", [], rfl, by decide⟩

theorem wholeLine_frozen : ∃ report,
    planBackfill plainInterpreter (storedRows [appReading 32000])
      (jsonDeclaredSources appDeclared) = .ok report ∧ 7 ∈ report.frozen.map FrozenRow.entryId := by
  have repairs :=
    @backfill_repairs plainInterpreter [appReading 32000] (List.nodup_singleton _) appDeclared
  have here : appReading 32000 ∈ [appReading 32000] := List.mem_singleton_self _
  obtain ⟨report, planned⟩ := repairs.1.mpr fun reading member _ => by
    rw [List.mem_singleton.mp member]
    exact ⟨(text "x", []), rfl⟩
  have frozen : (appReading 32000).Frozen appDeclared :=
    ⟨rfl, app_declared, app_unwraps, by decide, _, rfl⟩
  exact ⟨report, planned, ((repairs.2 report planned).1 _ here).frozen.mpr frozen⟩

/-- Its raw line cut, the row is refused. -/
theorem cutLine_not_frozen : (appReading 10).source.jsonFormat = false ∧
    DeclaredJson appDeclared (appReading 10).source.unit ∧ Unwraps plainInterpreter
      (appReading 10).whole ∧
      (planBackfill plainInterpreter (storedRows [appReading 10])
        (jsonDeclaredSources appDeclared)).map
        (fun report => (report.frozen.map FrozenRow.entryId, report.unwitnessed)) = .ok ([], [7]) :=
  ⟨rfl, app_declared, app_unwraps, rfl⟩

end SysadminAssistant.Monitor.Backfill
