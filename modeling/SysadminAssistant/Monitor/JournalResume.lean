import SysadminAssistant.Library.ResumedLog
import SysadminAssistant.Monitor.IngestSurvival
import SysadminAssistant.Monitor.LogAggregator

namespace SysadminAssistant.Monitor

open Python Library

/-! What journalctl promises about one journal, and what a read of such a journal does. -/

/-- A record as `-o json` prints it: one object that names its cursor.  What else it holds
is the record's own. -/
structure JournalRecord (interpreter : Interpreter) where
  line : Text
  cursor : Text
  named : cursor ≠ []
  launched : launchArgument (.str cursor) = .ok cursor
  loaded : ∀ raised, Json.loads interpreter.decodeDepth line = .error raised → raised = .recursionError
  carried : ∀ json, Json.loads interpreter.decodeDepth line = .ok json →
    ∃ fields, json = .obj fields ∧ Json.field (text "__CURSOR") fields = .str cursor

/-- The journal of one source during one poll.  `--after-cursor` is exclusive, `--since`
opens somewhere, and a stale cursor is a failure. -/
structure JournalFeed (interpreter : Interpreter) (source : JournalSource)
    (run : JournalCommand → Process) where
  records : List (JournalRecord interpreter)
  distinct : (records.map JournalRecord.cursor).Nodup
  windowStart : Window → Nat
  stale : Bool
  opens : ∀ limit window, ∃ stdout,
    runJournalctl (run (journalCommand source limit (.since window))) = .ok (some stdout) ∧
      journalLines stdout = (records.drop (windowStart window)).map JournalRecord.line
  fails : stale = true → ∀ limit cursor,
    runJournalctl (run (journalCommand source limit (.afterCursor cursor))) = .ok none
  resumes : stale = false → ∀ limit cursor, ∃ stdout,
    runJournalctl (run (journalCommand source limit (.afterCursor cursor))) = .ok (some stdout) ∧
      journalLines stdout =
        (records.drop (indexAfter JournalRecord.cursor cursor records)).map JournalRecord.line

namespace JournalFeed

variable {interpreter : Interpreter} {source : JournalSource} {run : JournalCommand → Process}

/-- Where a read begins. -/
def start (feed : JournalFeed interpreter source run) (window : Window) : Option Text → Nat
  | some cursor =>
    if feed.stale then feed.windowStart window
    else indexAfter JournalRecord.cursor cursor feed.records
  | none => feed.windowStart window

def served (feed : JournalFeed interpreter source run) (window : Window) (cursor : Option Text) :
    List (JournalRecord interpreter) := feed.records.drop (feed.start window cursor)

/-- A cursor that a record of some journal names. -/
def Usable (cursor : Option Text) : Prop :=
  ∀ name, cursor = some name → name ≠ [] ∧ launchArgument (.str name) = .ok name

theorem journalOutput_served (feed : JournalFeed interpreter source run) (limit : Nat)
    (window : Window) {cursor : Option Text} (usable : Usable cursor) :
    ∃ stdout, journalOutput run source limit window (cursor.map .str) = .ok (some stdout) ∧
      journalLines stdout = (feed.served window cursor).map JournalRecord.line := by
  cases cursor with
  | none =>
    obtain ⟨stdout, ran, lines⟩ := feed.opens limit window
    refine ⟨stdout, ?_, lines⟩
    simpa only [journalOutput, Option.map_none, Option.filter_none, bind, Except.bind, pure,
      Except.pure] using ran
  | some name =>
    obtain ⟨nonempty, launched⟩ := usable name rfl
    have saved : (some (Json.str name)).filter Json.truthy = some (Json.str name) := by
      simp [Json.truthy, nonempty]
    cases stale : feed.stale with
    | true =>
      obtain ⟨stdout, ran, lines⟩ := feed.opens limit window
      refine ⟨stdout, ?_, by simpa [served, start, stale] using lines⟩
      simpa only [journalOutput, Option.map_some, saved, launched,
        feed.fails stale limit name, bind, Except.bind] using ran
    | false =>
      obtain ⟨stdout, ran, lines⟩ := feed.resumes stale limit name
      refine ⟨stdout, ?_, by simpa [served, start, stale] using lines⟩
      simp only [journalOutput, Option.map_some, saved, launched, ran, bind, Except.bind, pure,
        Except.pure]

theorem lineCursor_record {record : JournalRecord interpreter} {now : Int} {ingested : Ingested}
    (read : ingestLine interpreter source record.line now = .ok ingested) :
    lineCursor interpreter record.line = some (.str record.cursor) := by
  cases loading : Json.loads interpreter.decodeDepth record.line with
  | error raised =>
    rw [record.loaded raised loading] at loading
    simp [ingestLine, loading] at read
  | ok json =>
    obtain ⟨fields, shape, carried⟩ := record.carried json loading
    subst shape
    simp [lineCursor, loading, recordCursor, carried, Json.truthy, record.named]

theorem newestCursor_records {records : List (JournalRecord interpreter)}
    (carried : ∀ record ∈ records, lineCursor interpreter record.line = some (.str record.cursor)) :
    newestCursor interpreter (records.map JournalRecord.line) =
      records.getLast?.map fun record => .str record.cursor := by
  have folded : ∀ saved : Option Json,
      (records.map JournalRecord.line).foldl (fun cursor line =>
        (lineCursor interpreter line).or cursor)
        saved = (records.getLast?.map fun record => .str record.cursor).or saved := by
    induction records with
    | nil => exact fun saved => rfl
    | cons first rest ih =>
      intro saved
      rw [List.map_cons, List.foldl_cons, ih fun record member =>
        carried record (List.mem_cons_of_mem _ member), carried first List.mem_cons_self,
        List.getLast?_cons]
      cases rest.getLast? <;> rfl
  rw [newestCursor, folded none, Option.or_none]

/-- What a read that returns has done: its entries are those of the served records, and
it stopped at the last of them. -/
theorem readJournal_served (feed : JournalFeed interpreter source run) {clock : Nat → Int}
    {limit : Nat} {window : Window} {cursor : Option Text} {read : JournalRead}
    (usable : Usable cursor)
    (returned : readJournal interpreter run clock source limit window (cursor.map .str) = .ok read) :
    read.entries = (timed clock ((feed.served window cursor).map JournalRecord.line)).filterMap
      (fun line =>
        wellFormedEntry interpreter source line.1 line.2) ∧
      read.cursor = (feed.served window cursor).getLast?.map fun record => .str record.cursor := by
  obtain ⟨stdout, output, lines⟩ := feed.journalOutput_served limit window usable
  cases ran : ingestLines interpreter source (timed clock (journalLines stdout)) with
  | error raised => simp [readJournal, output, bind, Except.bind, ran] at returned
  | ok ingested =>
    rw [readJournal_some output ran] at returned
    cases returned
    obtain ⟨each, shape⟩ := ingestLines_ok ran
    rw [lines] at each shape
    subst shape
    refine ⟨by rw [List.filterMap_map]; rfl, ?_⟩
    rw [lastCursor_map, timed_fst]
    refine newestCursor_records fun record member => ?_
    have line : record.line ∈
        (timed clock ((feed.served window cursor).map JournalRecord.line)).map Prod.fst := by
      rw [timed_fst]
      exact List.mem_map_of_mem member
    obtain ⟨pair, inside, same⟩ := List.mem_map.mp line
    obtain ⟨result, ingest⟩ := each pair inside
    rw [same] at ingest
    exact lineCursor_record ingest

end JournalFeed

/-! One journal whose records are in order of time, polled again and again: the cursor, the
stored floor and the time window hand over to each other. -/

/-- A record that carries its moment and that a read gets past. -/
structure DatedRecord (interpreter : Interpreter) (source : JournalSource) extends
    JournalRecord interpreter where
  time : Int
  stamped : ∀ fields, Json.loads interpreter.decodeDepth line = .ok (.obj fields) →
    (Json.field (text "__REALTIME_TIMESTAMP") fields).truthy = true
  reads : (ingestLine interpreter source line 0).isOk = true
  dated : ∀ entry, wellFormedEntry interpreter source line 0 = some entry → entry.loggedAt = time

structure DatedJournal (interpreter : Interpreter) (source : JournalSource) where
  records : List (DatedRecord interpreter source)
  ordered : records.Pairwise fun earlier later => earlier.time ≤ later.time

/-- The moment a window opens at; `@second` is inclusive. -/
def opening (recent : Int) : Window → Int
  | .recent => recent
  | .fromSecond second => second * 1000000

theorem opening_since_le {moment : Int} (recent : Int) (positive : 0 ≤ moment)
    (bound : moment < 2 ^ 33 * 1000000) : opening recent (sinceTimestamp moment) ≤ moment := by
  have below : ((moment : ℚ) / 1000000) < 2 ^ 33 := by
    rw [div_lt_iff₀ (by norm_num)]
    exact_mod_cast bound
  have near := @roundToDouble_lt ((moment : ℚ) / 1000000) (by positivity) below
  have whole : (truncate (totalSeconds moment) : ℚ) ≤ totalSeconds moment := by
    rw [truncate, if_pos (totalSeconds_nonneg positive)]
    exact Rat.floor_le _
  rw [totalSeconds] at whole
  by_contra late
  simp only [not_le, opening, sinceTimestamp, totalSeconds] at late
  have next : (moment : ℚ) + 1 ≤ truncate (roundToDouble (moment / 1000000)) * 1000000 := by
    exact_mod_cast late
  linarith
section

variable {interpreter : Interpreter} {source : JournalSource}

/-- The entry of a record that the rung gate admits. -/
def DatedRecord.entry (record : DatedRecord interpreter source) : Option Entry :=
  wellFormedEntry interpreter source record.line 0

/-- One poll: it may come after a restart, and finds the first `length` records.  `recent`
is what `5m ago` means to it. -/
structure JournalPoll (journal : DatedJournal interpreter source) where
  restart : Bool
  length : Nat
  inside : length ≤ journal.records.length
  recent : Int
  limit : Nat
  clock : Nat → Int
  run : JournalCommand → Process
  feed : JournalFeed interpreter source run
  shown : feed.records = (journal.records.take length).map DatedRecord.toJournalRecord
  opens : ∀ window, feed.windowStart window =
    indexSince DatedRecord.time (opening recent window) (journal.records.take length)

/-- `inserted` and `opened` are kept for the statements: the record of every row, and the
moment the first read opened at. -/
structure ResumedState where
  cursors : Dict Text Json
  rows : List Entry
  inserted : List (Nat × Entry)
  opened : Option Int

variable {journal : DatedJournal interpreter source}

namespace JournalPoll

/-- A restart loses the cursors. -/
def cursors (poll : JournalPoll journal) (state : ResumedState) : Dict Text Json :=
  if poll.restart then .empty else state.cursors

def window (poll : JournalPoll journal) (state : ResumedState) : Window :=
  (sourceFloor state.rows source (poll.cursors state)).elim .recent fun floor => sinceTimestamp floor.1

def cursor (poll : JournalPoll journal) (state : ResumedState) : Option Text :=
  match (poll.cursors state).get? source.name with
  | some (.str cursor) => some cursor
  | _ => none

/-- Where the read begins. -/
def first (poll : JournalPoll journal) (state : ResumedState) : Nat :=
  poll.feed.start (poll.window state) (poll.cursor state)

/-- The admitted records of the read, less what the floor holds back. -/
def taken (poll : JournalPoll journal) (state : ResumedState) : List (Nat × Entry) :=
  ((((journal.records.take poll.length).drop (poll.first state)).zipIdx (poll.first state)).filterMap
    fun record => record.1.entry.map fun entry => (record.2, entry)).filter fun row =>
      (sourceFloor state.rows source (poll.cursors state)).all fun floor => isUnstored row.2 floor

end JournalPoll

def resumePoll (state : ResumedState) (poll : JournalPoll journal) : ResumedState :=
  match readJournalSource interpreter poll.run poll.clock poll.limit state.rows source
    (poll.cursors state) with
  | .error _ => state
  | .ok (read, cursors) =>
    { cursors := cursors
      rows := state.rows ++ read.entries.map storedRow
      inserted := state.inserted ++ poll.taken state
      opened := state.opened.or (some poll.recent) }

def resumeStart : ResumedState := ⟨.empty, [], [], none⟩

theorem recordEntry_stamped {line : Text} {fields : List (Text × Json)} (now : Int)
    (stamped : (Json.field (text "__REALTIME_TIMESTAMP") fields).truthy = true) :
    recordEntry interpreter source line now fields = recordEntry interpreter source line 0 fields := by
  simp only [recordEntry, stamp, stamped, if_true]

theorem DatedRecord.ingestLine_now (record : DatedRecord interpreter source) (now : Int) :
    ingestLine interpreter source record.line now = ingestLine interpreter source record.line 0 := by
  unfold ingestLine
  cases loading : Json.loads interpreter.decodeDepth record.line with
  | error raised => cases raised <;> rfl
  | ok json =>
    cases json with
    | obj fields => simp only [recordEntry_stamped now (record.stamped fields loading)]
    | _ => rfl

theorem DatedRecord.ingests (record : DatedRecord interpreter source) (now : Int) :
    ingestLine interpreter source record.line now = .ok ⟨some (.str record.cursor), record.entry⟩ := by
  rw [record.ingestLine_now]
  cases read : ingestLine interpreter source record.line 0 with
  | error raised =>
    have returns := record.reads
    rw [read] at returns
    cases returns
  | ok ingested =>
    have cursor := @JournalFeed.lineCursor_record _ _ record.toJournalRecord _ _ read
    rw [ingestLine_ok read, cursor]
    rfl

theorem DatedRecord.entry_now (record : DatedRecord interpreter source) (now : Int) :
    wellFormedEntry interpreter source record.line now = record.entry := by
  have same := ingestLine_ok (record.ingests now)
  simpa using (congrArg Ingested.entry same).symm

theorem DatedRecord.entry_source {record : DatedRecord interpreter source} {entry : Entry}
    (present : record.entry = some entry) : entry.source = source.unit := by
  simp only [DatedRecord.entry, wellFormedEntry] at present
  split at present
  · simp only [Option.bind_eq_bind, Option.bind_eq_some_iff] at present
    obtain ⟨severity, _, composed, _, guarded⟩ := present
    split at guarded
    · simp only [Option.bind_eq_some_iff] at guarded
      obtain ⟨loggedAt, _, shape⟩ := guarded
      cases shape
      rfl
    · cases guarded
  · cases present

theorem wellFormed_timed (records : List (DatedRecord interpreter source)) (clock : Nat → Int) :
    (timed clock (records.map fun record => record.line)).filterMap
      (fun line => wellFormedEntry interpreter source line.1 line.2) =
        records.filterMap DatedRecord.entry := by
  have zipped : ∀ moments : List Int, records.length ≤ moments.length →
      ((records.map fun record => record.line).zip moments).filterMap
        (fun line => wellFormedEntry interpreter source line.1 line.2) =
          records.filterMap DatedRecord.entry := by
    induction records with
    | nil => simp
    | cons record rest ih =>
      intro moments enough
      cases moments with
      | nil => simp at enough
      | cons moment later =>
        simp only [List.map_cons, List.zip_cons_cons, List.filterMap_cons, record.entry_now,
          ih later (by simpa using enough)]
  exact zipped _ (by simp)

namespace JournalPoll

variable (poll : JournalPoll journal) (state : ResumedState)

def shownFrom : List (DatedRecord interpreter source) :=
  (journal.records.take poll.length).drop (poll.first state)

theorem served_eq : poll.feed.served (poll.window state) (poll.cursor state) =
    (poll.shownFrom state).map DatedRecord.toJournalRecord := by
  rw [JournalFeed.served, poll.shown, ← List.map_drop]
  rfl

theorem taken_map_snd : (poll.taken state).map Prod.snd =
    ((poll.shownFrom state).filterMap DatedRecord.entry).filter fun entry =>
      (sourceFloor state.rows source (poll.cursors state)).all fun floor =>
        isUnstored entry floor := by
  have entries : (((poll.shownFrom state).zipIdx (poll.first state)).filterMap fun record =>
      record.1.entry.map fun entry => (record.2, entry)).map Prod.snd =
        (poll.shownFrom state).filterMap DatedRecord.entry := by
    rw [List.map_filterMap]
    simp only [Option.map_map, Function.comp_def, Option.map_id']
    rw [← List.zipIdx_map_fst (poll.first state) (poll.shownFrom state), List.filterMap_map]
    simp [List.zipIdx_map_fst]
  rw [← entries, List.filter_map]
  rfl

theorem ingests_shown {stdout : Text}
    (lines : journalLines stdout = (poll.shownFrom state).map fun record => record.line) :
    ∃ ingested, ingestLines interpreter source (timed poll.clock (journalLines stdout)) =
      .ok ingested := by
  refine ingestLines_isOk fun line member => ?_
  have shown := mem_timed member
  rw [lines] at shown
  obtain ⟨record, _, same⟩ := List.mem_map.mp shown
  exact ⟨_, same ▸ record.ingests line.2⟩

/-- A poll that reads such a journal returns; it keeps the records of `taken` and stops at
the last record it was shown. -/
theorem readJournalSource_eq (usable : JournalFeed.Usable (poll.cursor state))
    (saved : (poll.cursors state).get? source.name = (poll.cursor state).map .str) :
    ∃ read, readJournalSource interpreter poll.run poll.clock poll.limit state.rows source
        (poll.cursors state) = .ok (read, moveCursor (poll.cursors state) source.name
          ((poll.shownFrom state).getLast?.map fun record => .str record.cursor)) ∧
      read.entries = (poll.taken state).map Prod.snd := by
  obtain ⟨stdout, output, lines⟩ :=
    poll.feed.journalOutput_served poll.limit (poll.window state) usable
  have shown : journalLines stdout = (poll.shownFrom state).map fun record => record.line := by
    rw [lines, poll.served_eq, List.map_map]
    rfl
  obtain ⟨ingested, ran⟩ := poll.ingests_shown state shown
  have returned := @readJournal_some _ _ _ poll.clock poll.limit _ _ _ _ output ran
  obtain ⟨entries, cursor⟩ := poll.feed.readJournal_served usable returned
  rw [poll.served_eq, List.map_map] at entries
  rw [poll.served_eq, List.getLast?_map, Option.map_map] at cursor
  simp only at entries cursor
  rw [← saved, JournalPoll.window] at returned
  refine ⟨_, by simp only [readJournalSource, bind, Except.bind, returned, cursor]; rfl, ?_⟩
  have kept : ingested.filterMap Ingested.entry = (poll.shownFrom state).filterMap DatedRecord.entry :=
    entries.trans (wellFormed_timed _ _)
  rw [kept, unstoredEntries_eq, poll.taken_map_snd]

end JournalPoll

end

end SysadminAssistant.Monitor
