import Mathlib.Data.List.Dedup
import Mathlib.Data.List.Sort
import SysadminAssistant.Library.RaisingLoops
import SysadminAssistant.Monitor.Journal
import SysadminAssistant.Monitor.LogSources
import SysadminAssistant.Python.JsonPrefixes

namespace SysadminAssistant.Monitor.Backfill

open Python Library

/-! The repair of stored messages (`sysadmin/monitor/message_backfill.py`). -/

structure FrozenRow where
  entryId : Nat
  source : Text
  before : Text
  after : Text
  envelope : List (Text × Json)

structure BackfillReport where
  sources : List Text
  scanned : Nat
  frozen : List FrozenRow
  unwitnessed : List Nat
  unrecoverable : List Nat
  applied : Bool

def jsonDeclaredSources (composed : List Sources.LogSource) : List Text :=
  ((composed.filter Sources.LogSource.jsonFormat).filterMap
    Sources.storedSourceName).dedup.insertionSort (· ≤ ·)

/-- `record_message`: `none` where the raw line no longer says. -/
def recordMessage (interpreter : Interpreter) : Option Text → Except PyError (Option Text)
  | none | some [] => .ok none
  | some rawLine =>
    match Json.loads interpreter.decodeDepth rawLine with
    | .error .valueError => .ok none
    | .error raised => .error raised
    | .ok (.obj fields) => .ok (some (messageText (Json.field (text "MESSAGE") fields)))
    | .ok _ => .ok none

def neverUnwrapped (interpreter : Interpreter) (message : Text) (rawLine : Option Text) :
    Except PyError (Option Bool) := do
  let stored ← recordMessage interpreter rawLine
  return stored.map fun whole => whole = message

/-- Which of the lists of the report a row goes to. -/
inductive Verdict where
  | leftAlone
  | frozen (row : FrozenRow)
  | unwitnessed (entryId : Nat)
  | unrecoverable (entryId : Nat)

def Verdict.frozen? : Verdict → Option FrozenRow
  | .frozen row => some row
  | _ => none

def Verdict.unwitnessed? : Verdict → Option Nat
  | .unwitnessed entryId => some entryId
  | _ => none

def Verdict.unrecoverable? : Verdict → Option Nat
  | .unrecoverable entryId => some entryId
  | _ => none

/-- One round of the loop of `plan_backfill`. -/
def judgeRow (interpreter : Interpreter) (row : LogRow) : Except PyError Verdict := do
  let (after, envelope) ← unwrapJsonMessage interpreter row.message
  if after ≠ row.message then
    match ← neverUnwrapped interpreter row.message row.rawLine with
    | none => return .unwitnessed row.id
    | some true => return .frozen ⟨row.id, row.source, row.message, after, envelope⟩
    | some false => return .leftAlone
  else if row.message.head? = some 0x7B then
    match ← neverUnwrapped interpreter row.message row.rawLine with
    | some true => return .unrecoverable row.id
    | _ => return .leftAlone
  else return .leftAlone

def planBackfill (interpreter : Interpreter) (rows : List LogRow) (sources : List Text) :
    Except PyError BackfillReport := do
  if sources.isEmpty then return ⟨[], 0, [], [], [], false⟩
  else
    let scanned := rows.filter fun row => row.source ∈ sources
    let verdicts ← scanned.mapM (judgeRow interpreter)
    return {
      sources := sources
      scanned := scanned.length
      frozen := verdicts.filterMap Verdict.frozen?
      unwitnessed := verdicts.filterMap Verdict.unwitnessed?
      unrecoverable := verdicts.filterMap Verdict.unrecoverable?
      applied := false }

/-- `{**metadata, **envelope}`. -/
def mergeFields (metadata envelope : List (Text × Json)) : List (Text × Json) :=
  envelope.foldl (fun merged field => Json.setField field.1 field.2 merged) metadata

/-- A row that moved since it was planned is left as it is. -/
def rewrite (planned : FrozenRow) (entry : LogRow) : LogRow :=
  if entry.message ≠ planned.before then entry
  else { entry with message := planned.after, metadata := mergeFields entry.metadata planned.envelope }

/-- The table and the report after `apply_backfill`. -/
def applyBackfill (rows : List LogRow) (report : BackfillReport) : List LogRow × BackfillReport :=
  if report.frozen.isEmpty then (rows, report)
  else
    let byId := Dict.ofEntries (report.frozen.map fun row => (row.entryId, row))
    let entries := rows.map fun entry =>
      match byId.get? entry.id with
      | some planned => rewrite planned entry
      | none => entry
    (entries, { report with applied := true })

/-! ## What each step comes to -/

section

variable {interpreter : Interpreter} {rows : List LogRow} {sources : List Text}
  {report : BackfillReport}

/-- Some composed source that is declared json stores its rows under this name. -/
def DeclaredJson (composed : List Sources.LogSource) (stored : Text) : Prop :=
  ∃ source ∈ composed, source.jsonFormat = true ∧ Sources.storedSourceName source = some stored

theorem mem_jsonDeclaredSources {composed : List Sources.LogSource} {stored : Text} :
    stored ∈ jsonDeclaredSources composed ↔ DeclaredJson composed stored := by
  simp only [jsonDeclaredSources, List.mem_insertionSort, List.mem_dedup, List.mem_filterMap,
    List.mem_filter, DeclaredJson, and_assoc]

/-- The envelope of this text gives up another message. -/
def Unwraps (interpreter : Interpreter) (value : Text) : Prop :=
  ∃ message envelope, unwrapJsonMessage interpreter value = .ok (message, envelope) ∧ message ≠ value

theorem unwrapJsonMessage_cases {value message : Text} {envelope : List (Text × Json)}
    (unwrapped : unwrapJsonMessage interpreter value = .ok (message, envelope)) :
    (message = value ∧ envelope = []) ∨ (message.length < value.length ∧
      (envelope = [] ∨ ∃ logger, envelope = [(text "logger", logger)])) := by
  unfold unwrapJsonMessage at unwrapped
  split at unwrapped
  · cases unwrapped
    exact Or.inl ⟨rfl, rfl⟩
  · split at unwrapped
    · cases unwrapped
      exact Or.inl ⟨rfl, rfl⟩
    · cases unwrapped
    · rename_i payload loaded
      have short := Json.length_lt_of_loads loaded
      split at unwrapped
      · cases unwrapped
        exact Or.inl ⟨rfl, rfl⟩
      · rename_i content _ found
        have shorter : content.length < value.length := Json.field_short short found
        split at unwrapped
        · cases unwrapped
          exact Or.inr ⟨shorter, Or.inr ⟨_, rfl⟩⟩
        · cases unwrapped
          exact Or.inr ⟨shorter, Or.inl rfl⟩
      · cases unwrapped
        exact Or.inl ⟨rfl, rfl⟩
    · cases unwrapped
      exact Or.inl ⟨rfl, rfl⟩

theorem unwrapJsonMessage_shorter {value message : Text} {envelope : List (Text × Json)}
    (unwrapped : unwrapJsonMessage interpreter value = .ok (message, envelope))
    (changed : message ≠ value) :
    message.length < value.length := by
  rcases unwrapJsonMessage_cases unwrapped with unchanged | shorter
  · exact absurd unchanged.1 changed
  · exact shorter.1

theorem recordMessage_eq (rawLine : Text) : recordMessage interpreter (some rawLine) =
    match Json.loads interpreter.decodeDepth rawLine with
    | .error .valueError => .ok none
    | .error raised => .error raised
    | .ok (.obj fields) => .ok (some (messageText (Json.field (text "MESSAGE") fields)))
    | .ok _ => .ok none := by
  cases rawLine <;> rfl

theorem judgeRow_error {row : LogRow} {raised : PyError}
    (failed : unwrapJsonMessage interpreter row.message = .error raised) :
    judgeRow interpreter row = .error raised := by
  simp only [judgeRow, failed, bind, Except.bind]

theorem judgeRow_eq {row : LogRow} {after : Text} {envelope : List (Text × Json)}
    {witness : Option Text}
    (unwrapped : unwrapJsonMessage interpreter row.message = .ok (after, envelope))
    (witnessed : recordMessage interpreter row.rawLine = .ok witness) :
    judgeRow interpreter row = .ok (
      if after ≠ row.message then
        if witness = none then .unwitnessed row.id
        else if witness = some row.message
          then .frozen ⟨row.id, row.source, row.message, after, envelope⟩
        else .leftAlone
      else if row.message.head? = some 0x7B ∧ witness = some row.message then .unrecoverable row.id
      else .leftAlone) := by
  simp only [judgeRow, neverUnwrapped, unwrapped, witnessed, bind, Except.bind, pure, Except.pure]
  cases witness with
  | none => by_cases changed : after = row.message <;> simp [changed]
  | some whole =>
    by_cases changed : after = row.message <;> by_cases same : whole = row.message <;>
      by_cases braced : row.message.head? = some 0x7B <;> simp [changed, same, braced]

theorem judgeRow_ok {row : LogRow} {verdict : Verdict}
    (judged : judgeRow interpreter row = .ok verdict) :
    ∃ after envelope, unwrapJsonMessage interpreter row.message = .ok (after, envelope) ∧
      ((after = row.message ∧ (verdict = .leftAlone ∨ verdict = .unrecoverable row.id ∧
          row.message.head? = some 0x7B ∧ recordMessage interpreter row.rawLine = .ok
            (some row.message))) ∨
        (after ≠ row.message ∧ ∃ witness, recordMessage interpreter row.rawLine = .ok witness ∧
          verdict = if witness = none then .unwitnessed row.id
            else if witness = some row.message
              then .frozen ⟨row.id, row.source, row.message, after, envelope⟩
            else .leftAlone)) := by
  cases unwrapped : unwrapJsonMessage interpreter row.message with
  | error raised =>
    rw [judgeRow_error unwrapped] at judged
    cases judged
  | ok result =>
    obtain ⟨after, envelope⟩ := result
    refine ⟨after, envelope, rfl, ?_⟩
    cases witnessed : recordMessage interpreter row.rawLine with
    | error raised =>
      simp only [judgeRow, neverUnwrapped, unwrapped, witnessed, bind, Except.bind, pure,
        Except.pure] at judged
      split at judged
      · cases judged
      · rename_i same
        split at judged
        · cases judged
        · cases judged
          exact Or.inl ⟨not_not.mp same, Or.inl rfl⟩
    | ok witness =>
      rw [judgeRow_eq unwrapped witnessed, Except.ok.injEq] at judged
      split at judged
      · rename_i changed
        exact Or.inr ⟨changed, witness, rfl, judged.symm⟩
      · rename_i same
        refine Or.inl ⟨not_not.mp same, ?_⟩
        split at judged
        · rename_i braced
          exact Or.inr ⟨judged.symm, braced.1, congrArg Except.ok braced.2⟩
        · exact Or.inl judged.symm

theorem judgeRow_ok_frozen {row : LogRow} {planned : FrozenRow}
    (judged : judgeRow interpreter row = .ok (.frozen planned)) : ∃ after envelope,
      unwrapJsonMessage interpreter row.message = .ok (after, envelope) ∧ after ≠ row.message ∧
        recordMessage interpreter row.rawLine = .ok (some row.message) ∧
          planned = ⟨row.id, row.source, row.message, after, envelope⟩ := by
  obtain ⟨after, envelope, unwrapped, ⟨_, quiet⟩ | ⟨changed, witness, witnessed, verdict⟩⟩ :=
    judgeRow_ok judged
  · rcases quiet with alone | braced
    · cases alone
    · cases braced.1
  · split at verdict
    · cases verdict
    · split at verdict
      · rename_i same
        exact ⟨after, envelope, unwrapped, changed, same ▸ witnessed, Verdict.frozen.inj verdict⟩
      · cases verdict

theorem planBackfill_ok (planned : planBackfill interpreter rows sources = .ok report) :
    ∃ verdicts, (rows.filter fun row => row.source ∈ sources).mapM
      (judgeRow interpreter) = .ok verdicts ∧ report.frozen = verdicts.filterMap Verdict.frozen? ∧
      report.unwitnessed = verdicts.filterMap Verdict.unwitnessed? ∧
      report.unrecoverable = verdicts.filterMap Verdict.unrecoverable? := by
  unfold planBackfill at planned
  split at planned
  · rename_i undeclared
    cases planned
    rw [List.isEmpty_iff.mp undeclared]
    exact ⟨[], by simp [pure, Except.pure], rfl, rfl, rfl⟩
  · simp only [bind, Except.bind] at planned
    split at planned
    · cases planned
    · rename_i verdicts ran
      cases planned
      exact ⟨verdicts, ran, rfl, rfl, rfl⟩

theorem planBackfill_returns : (∃ report, planBackfill interpreter rows sources = .ok report) ↔
    ∀ row ∈ rows, row.source ∈ sources → ∃ verdict, judgeRow interpreter row = .ok verdict := by
  have each : (∃ verdicts, (rows.filter fun row => row.source ∈ sources).mapM
      (judgeRow interpreter) = .ok verdicts) ↔
      ∀ row ∈ rows, row.source ∈ sources → ∃ verdict, judgeRow interpreter row = .ok verdict := by
    rw [exceptM_ok]
    simp only [List.mem_filter, decide_eq_true_eq, and_imp]
  rw [← each]
  constructor
  · intro returns
    obtain ⟨report, planned⟩ := returns
    obtain ⟨verdicts, ran, _⟩ := planBackfill_ok planned
    exact ⟨verdicts, ran⟩
  · intro returns
    obtain ⟨verdicts, ran⟩ := returns
    unfold planBackfill
    split
    · exact ⟨_, rfl⟩
    · simp only [ran, bind, Except.bind]
      exact ⟨_, rfl⟩

theorem Verdict.frozen?_eq_some {verdict : Verdict} {row : FrozenRow} :
    verdict.frozen? = some row ↔ verdict = .frozen row := by cases verdict <;> simp [frozen?]

theorem Verdict.unwitnessed?_eq_some {verdict : Verdict} {entryId : Nat} :
    verdict.unwitnessed? = some entryId ↔ verdict = .unwitnessed entryId := by
  cases verdict <;> simp [unwitnessed?]

theorem Verdict.unrecoverable?_eq_some {verdict : Verdict} {entryId : Nat} :
    verdict.unrecoverable? = some entryId ↔ verdict = .unrecoverable entryId := by
  cases verdict <;> simp [unrecoverable?]

theorem mem_picked {β : Type} {verdicts : List Verdict} {pick : Verdict → Option β}
    {wrap : β → Verdict} {found : β} (wraps : ∀ {verdict found}, pick verdict = some found ↔
      verdict = wrap found)
    (ran : (rows.filter fun row => row.source ∈ sources).mapM (judgeRow interpreter) = .ok verdicts) :
    found ∈ verdicts.filterMap pick ↔
      ∃ row ∈ rows, row.source ∈ sources ∧ judgeRow interpreter row = .ok (wrap found) := by
  rw [List.mem_filterMap]
  constructor
  · intro held
    obtain ⟨verdict, member, picked⟩ := held
    obtain ⟨row, scanned, judged⟩ := (exceptM_mem ran).mp member
    rw [List.mem_filter, decide_eq_true_eq] at scanned
    exact ⟨row, scanned.1, scanned.2, wraps.mp picked ▸ judged⟩
  · intro held
    obtain ⟨row, member, declared, judged⟩ := held
    refine ⟨wrap found, (exceptM_mem ran).mpr ⟨row, ?_, judged⟩, wraps.mpr rfl⟩
    exact List.mem_filter.mpr ⟨member, decide_eq_true declared⟩

theorem mem_frozen (planned : planBackfill interpreter rows sources = .ok report) {found : FrozenRow} :
    found ∈ report.frozen ↔ ∃ row ∈ rows, row.source ∈ sources ∧ judgeRow interpreter row = .ok
      (.frozen found) := by
  obtain ⟨verdicts, ran, frozen, _, _⟩ := planBackfill_ok planned
  rw [frozen, mem_picked Verdict.frozen?_eq_some ran]

theorem mem_unwitnessed (planned : planBackfill interpreter rows sources = .ok report)
    {entryId : Nat} :
    entryId ∈ report.unwitnessed ↔
      ∃ row ∈ rows, row.source ∈ sources ∧ judgeRow interpreter row = .ok (.unwitnessed entryId) := by
  obtain ⟨verdicts, ran, _, unwitnessed, _⟩ := planBackfill_ok planned
  rw [unwitnessed, mem_picked Verdict.unwitnessed?_eq_some ran]

theorem mem_unrecoverable (planned : planBackfill interpreter rows sources = .ok report)
    {entryId : Nat} :
    entryId ∈ report.unrecoverable ↔
      ∃ row ∈ rows, row.source ∈ sources ∧ judgeRow interpreter row = .ok
        (.unrecoverable entryId) := by
  obtain ⟨verdicts, ran, _, _, unrecoverable⟩ := planBackfill_ok planned
  rw [unrecoverable, mem_picked Verdict.unrecoverable?_eq_some ran]

theorem applyBackfill_rows : (applyBackfill rows report).1 = rows.map fun entry =>
    match (Dict.ofEntries (report.frozen.map fun row => (row.entryId, row))).get? entry.id with
    | some planned => rewrite planned entry
    | none => entry := by
  unfold applyBackfill
  split
  · rename_i idle
    rw [List.isEmpty_iff.mp idle]
    exact (List.map_id rows).symm
  · rfl

end

end SysadminAssistant.Monitor.Backfill
