import SysadminAssistant.Core.Agent
import SysadminAssistant.Monitor.Journal

namespace SysadminAssistant.Monitor

open Python SysadminAssistant.Core

/-! `LogAggregatorAgent`: what it reads in one poll, and what it keeps between polls.  The
rows go into the poll's transaction; the resume positions are plain attributes. -/

inductive LogSource where
  | journal (source : JournalSource)
  | file (source : FileSource)

def LogSource.name : LogSource → Text
  | .journal source => source.name
  | .file source => source.name

/-- `_cursors` and `_file_offsets`. -/
structure ResumeState where
  cursors : Dict Text Json
  fileOffsets : Dict Text Nat

/-- The row an entry becomes. -/
def storedRow (entry : Entry) : Entry :=
  { entry with
    message := entry.message.take storedMessageChars
    rawLine := entry.rawLine.take storedRawLineChars }

@[simp] theorem storedRow_source (entry : Entry) : (storedRow entry).source = entry.source := rfl

@[simp] theorem storedRow_loggedAt (entry : Entry) : (storedRow entry).loggedAt = entry.loggedAt := rfl

@[simp] theorem storedRow_message (entry : Entry) :
    (storedRow entry).message = entry.message.take storedMessageChars := rfl

/-- `since_timestamp` of a stored moment, which is always an aware one. -/
def sinceTimestamp (moment : Int) : Window := .fromSecond (truncate (totalSeconds moment))

/-- `_resume_floor`: the newest stored moment of a unit, and the messages stored at it. -/
def resumeFloor (rows : List Entry) (unit : Text) : Option (Int × List Text) :=
  let stored := rows.filter fun row => row.source = unit
  (stored.map Entry.loggedAt).max?.map fun floor =>
    (floor, (stored.filter fun row => row.loggedAt = floor).map Entry.message)

def isUnstored (entry : Entry) (floor : Int × List Text) : Bool :=
  if entry.loggedAt > floor.1 then true
  else if entry.loggedAt < floor.1 then false
  else entry.message.take storedMessageChars ∉ floor.2

/-- The saved cursor of a source, if it is one. -/
def savedCursor (cursors : Dict Text Json) (name : Text) : Option Json :=
  (cursors.get? name).filter Json.truthy

/-- The stored floor counts only where there is no cursor. -/
def sourceFloor (rows : List Entry) (source : JournalSource) (cursors : Dict Text Json) :
    Option (Int × List Text) :=
  if (savedCursor cursors source.name).isSome then none else resumeFloor rows source.unit

/-- The entries that a window opened at the floor did not store before. -/
def unstoredEntries (floor : Option (Int × List Text)) (entries : List Entry) : List Entry :=
  match floor with
  | none => entries
  | some floor => entries.filter fun entry => isUnstored entry floor

def moveCursor (cursors : Dict Text Json) (name : Text) (cursor : Option Json) : Dict Text Json :=
  match cursor.filter Json.truthy with
  | some cursor => cursors.set name cursor
  | none => cursors

/-- `_read_journal_source`: the read, and the cursors it leaves. -/
def readJournalSource (interpreter : Interpreter) (run : JournalCommand → Process)
    (clock : Nat → Int) (limit : Nat) (rows : List Entry) (source : JournalSource)
    (cursors : Dict Text Json) : Except PyError (JournalRead × Dict Text Json) := do
  let floor := sourceFloor rows source cursors
  let window := floor.elim .recent fun floor => sinceTimestamp floor.1
  let read ← readJournal interpreter run clock source limit window (cursors.get? source.name)
  return ({ read with entries := unstoredEntries floor read.entries },
    moveCursor cursors source.name read.cursor)

/-- What a poll finds.  `raises` is what stops it before it reads a source: a query or the
flush of the rows so far; `raising` stops it after the last one. -/
structure Poll where
  interpreter : Interpreter
  sources : List LogSource
  limit : Nat
  run : JournalCommand → Process
  file : Text → FileState
  clock : Text → Nat → Int
  raises : Text → Option Escape
  raising : Option Escape
  queued : List Text

/-- The state of the loop over the sources; `reads` holds what each one read handed over. -/
structure Ingestion where
  resume : ResumeState
  rows : List Entry
  reads : List (LogSource × List Entry)

/-- The rows of one read join the transaction. -/
def ingestRead (ingestion : Ingestion) (source : LogSource) (resume : ResumeState)
    (read : JournalRead) : Ingestion where
  resume := resume
  rows := ingestion.rows ++ read.entries.map storedRow
  reads := ingestion.reads ++ [(source, read.entries)]

/-- One round of the loop over the sources.  The rows of the transaction so far are visible
to the queries of the next source. -/
def readSource (poll : Poll) (stored : List Entry) (ingestion : Ingestion) (source : LogSource) :
    Except Escape Ingestion :=
  match poll.raises source.name with
  | some escape => .error escape
  | none =>
    match source with
    | .journal journal =>
      match readJournalSource poll.interpreter poll.run (poll.clock journal.name) poll.limit
          (stored ++ ingestion.rows) journal ingestion.resume.cursors with
      | .error _ => .error .exception
      | .ok (read, cursors) =>
        .ok (ingestRead ingestion source { ingestion.resume with cursors := cursors } read)
    | .file log =>
      let offset := (ingestion.resume.fileOffsets.get? log.name).getD 0
      match readLogFile poll.interpreter (poll.file log.name) (poll.clock log.name) log poll.limit
          offset with
      | .error _ => .error .exception
      | .ok (read, left) =>
        let offsets := match left with
          | some left => ingestion.resume.fileOffsets.set log.name left
          | none => ingestion.resume.fileOffsets
        .ok (ingestRead ingestion source { ingestion.resume with fileOffsets := offsets } read)

/-- The loop: what it did before it ended, and what ended it early. -/
def readSources (poll : Poll) (stored : List Entry) :
    Ingestion → List LogSource → Ingestion × Option Escape
  | ingestion, [] => (ingestion, none)
  | ingestion, source :: rest =>
    match readSource poll stored ingestion source with
    | .error escape => (ingestion, some escape)
    | .ok next => readSources poll stored next rest

/-- The reads of a poll that starts from these positions and finds these rows. -/
def pollReads (resume : ResumeState) (poll : Poll) (stored : List Entry) :
    Ingestion × Option Escape :=
  readSources poll stored ⟨resume, [], []⟩ poll.sources

/-- `forget_unknown`. -/
def forgetSources (resume : ResumeState) (declared : List Text) : ResumeState :=
  let dropped := (resume.cursors.keys ++ resume.fileOffsets.keys).filter fun name => name ∉ declared
  { cursors := dropped.foldl Dict.erase resume.cursors
    fileOffsets := dropped.foldl Dict.erase resume.fileOffsets }

/-- The agent; it keeps `BaseAgent._work_committed`, which does nothing. -/
def logAggregator : Agent ResumeState (Poll × List Entry) (List Text) Text where
  execute resume input :=
    let (ingestion, escape) := pollReads resume input.1 input.2
    { memory := ingestion.resume
      queued := if escape.isNone then input.1.queued else []
      escape := escape.or input.1.raising }
  workCommitted resume := resume
  reload resume declared := forgetSources resume declared

/-- The agent beside the table it fills. -/
structure IngestState where
  agent : AgentState ResumeState Text
  rows : List Entry

/-- The run of a poll over the rows it finds. -/
def pollRun (rows : List Entry) (run : Run Poll) : Run (Poll × List Entry) where
  startRaises := run.startRaises
  input := (run.input, rows)
  commitEscape := run.commitEscape
  outcomeRaises := run.outcomeRaises
  publishRaisesAt := run.publishRaisesAt

/-- Whether the transaction of the poll commits. -/
def pollCommits (state : IngestState) (run : Run Poll) : Bool :=
  committed logAggregator state.agent.memory (pollRun state.rows run)

/-- The reads of a run, none if its `_record_start` raised. -/
def runReads (state : IngestState) (run : Run Poll) : Ingestion :=
  if run.startRaises then ⟨state.agent.memory, [], []⟩
  else (pollReads state.agent.memory run.input state.rows).1

/-- One run: the rows stay only if the transaction commits. -/
def poll (state : IngestState) (run : Run Poll) : IngestState where
  agent := (runLocked logAggregator state.agent (pollRun state.rows run)).1
  rows := if pollCommits state run then state.rows ++ (runReads state run).rows else state.rows

theorem unstoredEntries_eq (floor : Option (Int × List Text)) (entries : List Entry) :
    unstoredEntries floor entries = entries.filter fun entry => floor.all (isUnstored entry) := by
  cases floor <;> simp [unstoredEntries]

theorem poll_memory (state : IngestState) (run : Run Poll) :
    (poll state run).agent.memory = (runReads state run).resume := by
  have moved := runLocked_memory logAggregator state.agent (pollRun state.rows run)
  rw [poll, moved, runReads]
  cases started : run.startRaises with
  | true => simp [pollRun, committed, started]
  | false =>
    cases committed logAggregator state.agent.memory (pollRun state.rows run) <;>
      simp [pollRun, logAggregator, started]

end SysadminAssistant.Monitor
