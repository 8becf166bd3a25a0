import SysadminAssistant.Monitor.LogEntry
import SysadminAssistant.Python.DecimalText

namespace SysadminAssistant.Monitor

open Python

/-! Reading one journal (`sysadmin/monitor/journal.py`): from the two commands it may run
to the entries, the resume position and the truncation flag it hands back. -/

/-- What the interpreter fixes: its Unicode database, and how deep a value may nest that
`json.loads` reads, that `str` spells, and that a document carries into a `jsonb` column. -/
structure Interpreter where
  database : CharDatabase
  decodeDepth : Nat
  reprDepth : Nat
  storeDepth : Nat

def plainInterpreter : Interpreter := ⟨.ascii, 100, 100, 100⟩

/-- A `LogSource` of type `journalctl`, with the rungs `declared_rungs_for` gives it. -/
structure JournalSource where
  name : Text
  unit : Text
  user : Bool
  severityFilter : Text
  jsonFormat : Bool
  declared : Dict Text LogSeverity

/-- `since`: the default `5m ago`, or `@second`. -/
inductive Window where
  | recent
  | fromSecond (second : Int)

inductive Position where
  | afterCursor (cursor : Text)
  | since (window : Window)

/-- What of the command line varies. -/
structure JournalCommand where
  unit : Text
  user : Bool
  limit : Nat
  ceiling : Nat
  position : Position

/-- How a command ended. -/
inductive Process where
  | timedOut
  | notFound
  | exited (returncode : Int) (stdout stderr : Bytes)

structure JournalRead where
  entries : List Entry
  cursor : Option Json
  truncated : Bool

def defaultReadLimit : Nat := 500

def storedRawLineChars : Nat := 32000

def priorityMap : List (Nat × LogSeverity) :=
  [(0, .critical), (1, .critical), (2, .critical), (3, .error), (4, .warning), (5, .info),
    (6, .info), (7, .debug)]

/-- `PRIORITY_MAP.get(code, "info")`. -/
def priorityOf (code : Text) : LogSeverity :=
  ((priorityMap.find? fun entry => intText entry.1 = code).map Prod.snd).getD .info

def maxPriorityFor (severityFilter : Text) : Nat :=
  let floor := severityOrder severityFilter
  let admitted := (priorityMap.filter fun entry => floor ≤ entry.2.order).map Prod.fst
  admitted.max?.getD ((priorityMap.map Prod.fst).foldl max 0)

def readCeiling (severityFilter : Text) (declared : Dict Text LogSeverity) : Nat :=
  declared.values.foldl (fun ceiling rung => max ceiling (maxPriorityFor rung.name))
    (maxPriorityFor severityFilter)

/-- `PRIORITY_MAP.get(str(priority), "info")`; only a string or an integer can spell a
code, and `str` of a container walks it to the bottom. -/
def prioritySeverity (interpreter : Interpreter) : Json → Except PyError LogSeverity
  | .str code => .ok (priorityOf code)
  | .int code => .ok (priorityOf (intText code))
  | .null | .bool _ | .float _ => .ok .info
  | priority =>
    if priority.nesting ≤ interpreter.reprDepth then .ok .info else .error .recursionError

/-- One item of `bytes(value)`. -/
def byteOf : Json → Option UInt8
  | .bool value => some (if value then 1 else 0)
  | .int value => if 0 ≤ value ∧ value < 256 then some (UInt8.ofNat value.toNat) else none
  | _ => none

/-- `MESSAGE` as text, whatever shape journald handed it back in. -/
def messageText : Json → Text
  | .str value => value
  | .arr items => ((items.mapM byteOf).map decodeReplace).getD []
  | _ => []

/-- Of a record declared `format: json`, the message and the logger.  Text that does not
decode is returned unchanged. -/
def unwrapJsonMessage (interpreter : Interpreter) (value : Text) :
    Except PyError (Text × List (Text × Json)) :=
  if value.head? ≠ some 0x7B then .ok (value, [])
  else match Json.loads interpreter.decodeDepth value with
    | .error .valueError => .ok (value, [])
    | .error raised => .error raised
    | .ok (.obj payload) =>
      match Json.field (text "message") payload with
      | .str [] => .ok (value, [])
      | .str message =>
        match Json.field (text "logger") payload with
        | .str logger => .ok (message, [(text "logger", .str logger)])
        | _ => .ok (message, [])
      | _ => .ok (value, [])
    | .ok _ => .ok (value, [])

/-- `logged_at`; a record without a timestamp is dated now. -/
def stamp (interpreter : Interpreter) (now : Int) (usec : Json) : Except PyError Int :=
  if usec.truthy then do
    let microseconds ← intOfJson interpreter.database usec
    fromTimestamp (← secondsOf microseconds)
  else .ok now

/-- The message of a record and what its envelope gave up. -/
def composeMessage (interpreter : Interpreter) (source : JournalSource)
    (fields : List (Text × Json)) : Except PyError (Text × List (Text × Json)) :=
  let message := messageText (Json.field (text "MESSAGE") fields)
  if source.jsonFormat then unwrapJsonMessage interpreter message else .ok (message, [])

def recordSeverity (interpreter : Interpreter) (fields : List (Text × Json)) :
    Except PyError LogSeverity :=
  prioritySeverity interpreter ((Json.field? (text "PRIORITY") fields).getD (.str (text "6")))

/-- The `metadata` of an entry. -/
def recordMetadata (fields envelope : List (Text × Json)) : List (Text × Json) :=
  [(text "pid", Json.field (text "_PID") fields),
    (text "hostname", Json.field (text "_HOSTNAME") fields),
    (text "syslog_identifier", Json.field (text "SYSLOG_IDENTIFIER") fields)] ++ envelope

/-- The second `try` of the loop: the entry of a record, if the rung gate admits it. -/
def recordEntry (interpreter : Interpreter) (source : JournalSource) (line : Text) (now : Int)
    (fields : List (Text × Json)) : Except PyError (Option Entry) := do
  let severity ← recordSeverity interpreter fields
  let (message, envelope) ← composeMessage interpreter source fields
  if admits interpreter.database severity source.severityFilter message source.declared then
    let loggedAt ← stamp interpreter now (Json.field (text "__REALTIME_TIMESTAMP") fields)
    return some {
      source := source.unit
      severity := severity
      message := message
      loggedAt := loggedAt
      rawLine := line.take storedRawLineChars
      metadata := recordMetadata fields envelope }
  else return none

/-- What one line of the output contributes. -/
structure Ingested where
  cursor : Option Json
  entry : Option Entry

def recordCursor (fields : List (Text × Json)) : Option Json :=
  let cursor := Json.field (text "__CURSOR") fields
  if cursor.truthy then some cursor else none

/-- One round of the loop.  `data.get` is outside the second `try`. -/
def ingestLine (interpreter : Interpreter) (source : JournalSource) (line : Text) (now : Int) :
    Except PyError Ingested :=
  match Json.loads interpreter.decodeDepth line with
  | .error .valueError => .ok ⟨none, none⟩
  | .error raised => .error raised
  | .ok (.obj fields) =>
    match recordEntry interpreter source line now fields with
    | .error .valueError => .ok ⟨recordCursor fields, none⟩
    | .error raised => .error raised
    | .ok entry => .ok ⟨recordCursor fields, entry⟩
  | .ok _ => .error .attributeError

/-- The loop over the lines, each with the time at which it is reached. -/
def ingestLines (interpreter : Interpreter) (source : JournalSource) :
    List (Text × Int) → Except PyError (List Ingested)
  | [] => .ok []
  | (line, now) :: rest => do
    let ingested ← ingestLine interpreter source line now
    return ingested :: (← ingestLines interpreter source rest)

def lastCursor (ingested : List Ingested) : Option Json :=
  ingested.foldl (fun cursor line => line.cursor.or cursor) none

/-- `stdout.strip().split("\n")`, less the empty lines. -/
def journalLines (stdout : Text) : List Text :=
  (Text.splitOn 0x0A stdout.strip).filter (· ≠ [])

/-- A command argument: anything but a string that the file system encoding holds and
that is free of NUL is refused before the command starts. -/
def launchArgument : Json → Except PyError Text
  | .str value =>
    if value.all fun c => c ≠ 0 && (!c.isSurrogate || (0xDC80 ≤ c.val && c.val ≤ 0xDCFF)) then
      .ok value
    else .error .valueError
  | _ => .error .typeError

/-- Lines, each with the time at which the loop reaches it. -/
def timed (clock : Nat → Int) (lines : List Text) : List (Text × Int) :=
  lines.zip ((List.range lines.length).map clock)

/-- `_run`.  Return code 1 means "no entries", which is not a failure. -/
def runJournalctl : Process → Except PyError (Option Text)
  | .timedOut | .notFound => .ok none
  | .exited returncode stdout stderr =>
    if returncode = 0 ∨ returncode = 1 then do return some (← decode stdout)
    else do
      let _ ← decode stderr
      return none

def journalCommand (source : JournalSource) (limit : Nat) (position : Position) : JournalCommand where
  unit := source.unit
  user := source.user
  limit := limit
  ceiling := readCeiling source.severityFilter source.declared
  position := position

/-- The output to read: that of the resumed command, else that of the window. -/
def journalOutput (run : JournalCommand → Process) (source : JournalSource) (limit : Nat)
    (window : Window) (afterCursor : Option Json) : Except PyError (Option Text) := do
  let resumed ← match afterCursor.filter Json.truthy with
    | none => pure none
    | some cursor => do
      let argument ← launchArgument cursor
      runJournalctl (run (journalCommand source limit (.afterCursor argument)))
  match resumed with
  | some stdout => return some stdout
  | none => runJournalctl (run (journalCommand source limit (.since window)))

def readJournal (interpreter : Interpreter) (run : JournalCommand → Process) (clock : Nat → Int)
    (source : JournalSource) (limit : Nat) (window : Window) (afterCursor : Option Json) :
    Except PyError JournalRead := do
  match ← journalOutput run source limit window afterCursor with
  | none => return ⟨[], none, false⟩
  | some stdout =>
    let lines := journalLines stdout
    let ingested ← ingestLines interpreter source (timed clock lines)
    return ⟨ingested.filterMap Ingested.entry, lastCursor ingested, limit ≤ lines.length⟩

/-! Reading one log file from a byte offset
(`LogAggregatorAgent._read_log_file`, `_parse_log_line`). -/

/-- A `LogSource` of type `file`. -/
structure FileSource where
  name : Text
  severityFilter : Text
  declared : Dict Text LogSeverity

/-- `unsearchable`: a directory on the way may not be searched, and `Path.exists` raises. -/
inductive FileState where
  | missing
  | unsearchable
  | unreadable
  | readable (bytes : Bytes)

def storedMessageChars : Nat := 5000

/-- The lines of a file opened in text mode.  Every newline convention ends a line; the
empty piece inside `\r\n` goes the way of a blank line. -/
def fileLines (content : Text) : List Text :=
  (Text.splitOn 0x0A content).flatMap (Text.splitOn 0x0D)

def lineSeverity (interpreter : Interpreter) (line : Text) : LogSeverity :=
  let lineUpper := interpreter.database.upperText line
  if Text.contains (text "CRITICAL") lineUpper || Text.contains (text "FATAL") lineUpper then .critical
  else if Text.contains (text "ERROR") lineUpper then .error
  else if Text.contains (text "WARNING") lineUpper || Text.contains (text "WARN") lineUpper
    then .warning
  else if Text.contains (text "DEBUG") lineUpper then .debug
  else .info

/-- `_parse_log_line` of a line that is already stripped. -/
def parseLogLine (interpreter : Interpreter) (source : Text) (line : Text) (now : Int) :
    Option Entry :=
  if line = [] then none
  else some {
    source := source
    severity := lineSeverity interpreter line
    message := line.take storedMessageChars
    loggedAt := now
    rawLine := line.take storedRawLineChars
    metadata := [] }

/-- The entry of one line, if the rung gate admits it. -/
def admittedLine (interpreter : Interpreter) (source : FileSource) (line : Text) (now : Int) :
    Option Entry :=
  (parseLogLine interpreter source.name line.strip now).filter fun parsed =>
    admits interpreter.database parsed.severity source.severityFilter parsed.message source.declared

/-- The offset a read starts at: a file smaller than its offset was rotated. -/
def resumeOffset (bytes : Bytes) (offset : Nat) : Nat := if bytes.length < offset then 0 else offset

def fileEntries (interpreter : Interpreter) (source : FileSource) (clock : Nat → Int)
    (content : Text) : List Entry :=
  (timed clock (fileLines content)).filterMap fun (line, now) =>
    admittedLine interpreter source line now

/-- The read, and the offset it leaves when it got to the end of the file. -/
def readLogFile (interpreter : Interpreter) (file : FileState) (clock : Nat → Int)
    (source : FileSource) (limit offset : Nat) : Except PyError (JournalRead × Option Nat) :=
  match file with
  | .missing | .unreadable => .ok (⟨[], none, false⟩, none)
  | .unsearchable => .error .osError
  | .readable bytes => do
    let content ← decode (bytes.drop (resumeOffset bytes offset))
    let entries := fileEntries interpreter source clock content
    return (⟨entries.take limit, none, limit < entries.length⟩, some bytes.length)

/-! The two gates of a journal read: the `-p` ceiling on priorities, of which a smaller one is
louder, and the gate on rungs. -/

theorem severityOrder_le (name : Text) : severityOrder name ≤ 4 := by
  rw [severityOrder]
  cases found : ([.debug, .info, .warning, .error, .critical] : List LogSeverity).find?
      (fun severity => severity.name = name) with
  | none => exact Nat.zero_le 4
  | some severity => cases severity <;> decide

theorem severityOrder_name (severity : LogSeverity) :
    severityOrder severity.name = severity.order := by
  cases severity <;> decide

theorem le_maxPriorityFor_iff {severityFilter : Text} {priority : Nat} {severity : LogSeverity}
    (coded : (priority, severity) ∈ priorityMap) :
    priority ≤ maxPriorityFor severityFilter ↔ severityOrder severityFilter ≤ severity.order := by
  have floors : ∀ floor ≤ 4, ∀ entry ∈ priorityMap,
      entry.1 ≤ (((priorityMap.filter fun entry => floor ≤ entry.2.order).map Prod.fst).max?.getD
        ((priorityMap.map Prod.fst).foldl max 0)) ↔ floor ≤ entry.2.order := by decide
  exact floors _ (severityOrder_le severityFilter) _ coded

theorem le_foldl_max {α : Type*} {measure : α → Nat} {items : List α} {start bound : Nat} :
    bound ≤ items.foldl (fun most item => max most (measure item)) start ↔
      bound ≤ start ∨ ∃ item ∈ items, bound ≤ measure item := by
  induction items generalizing start with
  | nil => simp
  | cons item rest ih => rw [List.foldl_cons, ih, le_max_iff, List.exists_mem_cons_iff, or_assoc]

theorem le_readCeiling_iff {severityFilter : Text} {declared : Dict Text LogSeverity}
    {priority : Nat} {severity : LogSeverity} (coded : (priority, severity) ∈ priorityMap) :
    priority ≤ readCeiling severityFilter declared ↔
      severityOrder severityFilter ≤ severity.order ∨ ∃ rung ∈ declared.values,
        rung.order ≤ severity.order := by
  simp only [readCeiling, le_foldl_max, le_maxPriorityFor_iff coded, severityOrder_name]

theorem admits_iff {database : CharDatabase} {severity : LogSeverity}
    {severityFilter message : Text} {declared : Dict Text LogSeverity} :
    admits database severity severityFilter message declared = true ↔
      severityOrder severityFilter ≤ severity.order ∨ ∃ rung, declared.get?
        (signature database message) = some rung := by
  rw [admits]
  split
  · rename_i loud
    exact iff_of_true rfl (Or.inl loud)
  · rename_i quiet
    split
    · rename_i none
      refine iff_of_false Bool.false_ne_true ?_
      intro either
      obtain ⟨rung, found⟩ := either.resolve_left quiet
      have entry := Dict.get?_eq_some.mp found
      rw [List.isEmpty_iff.mp none] at entry
      cases entry
    · rw [Option.isSome_iff_exists, or_iff_right quiet]

theorem priorityOf_coded {priority : Nat} (code : priority ≤ 7) :
    (priority, priorityOf (intText priority)) ∈ priorityMap := by
  have all : ∀ priority ≤ 7, (priority, priorityOf (intText (priority : Nat))) ∈
      priorityMap := by decide
  exact all priority code

/-- What the rung gate stores, the ceiling lets through; and with nothing declared, the other way
round too. -/
theorem gates_agree (database : CharDatabase) (severityFilter message : Text)
    (declared : Dict Text LogSeverity) (priority : Nat) (code : priority ≤ 7) :
    (admits database (priorityOf (intText priority)) severityFilter message declared = true →
      (admits database (priorityOf (intText priority)) severityFilter message .empty = false →
        ∀ rung, declared.get? (signature database message) = some rung →
          rung.order ≤ (priorityOf (intText priority)).order) →
      priority ≤ readCeiling severityFilter declared) ∧
    (priority ≤ readCeiling severityFilter .empty →
      admits database (priorityOf (intText priority)) severityFilter message .empty = true) := by
  have coded := priorityOf_coded code
  constructor
  · intro stored declaredRung
    rw [le_readCeiling_iff coded]
    by_cases loud : severityOrder severityFilter ≤ (priorityOf (intText priority)).order
    · exact Or.inl loud
    · obtain ⟨rung, found⟩ := (admits_iff.mp stored).resolve_left loud
      refine Or.inr ⟨rung, Dict.mem_values.mpr ⟨_, found⟩, declaredRung ?_ rung found⟩
      rw [Bool.eq_false_iff, ne_eq, admits_iff]
      exact not_or.mpr ⟨loud, by simp⟩
  · intro admitted
    rcases (le_readCeiling_iff coded).mp admitted with loud | declaredRung
    · exact admits_iff.mpr (Or.inl loud)
    · obtain ⟨rung, member, _⟩ := declaredRung
      cases member

/-- A line that is declared below the floor of its source. -/
def resetLine : Text := text "VRAM is lost due to GPU reset!"

def declaredReset : Dict Text LogSeverity := Dict.empty.set (signature .ascii resetLine) .info

theorem gates_agree_reset : 6 ≤ readCeiling (text "error") declaredReset :=
  (gates_agree .ascii (text "error") resetLine declaredReset 6 (by decide)).1 (by decide)
    (fun _ rung found => by
      rw [declaredReset, Dict.get?_set_self, Option.some.injEq] at found
      rw [← found]
      decide)

end SysadminAssistant.Monitor
