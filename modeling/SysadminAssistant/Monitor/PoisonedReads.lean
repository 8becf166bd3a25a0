import SysadminAssistant.Monitor.StoredWrites

namespace SysadminAssistant.Monitor

open Python

/-! What one line can do to a read.  Whatever no `except` clause of the readers catches
leaves the poll, and so does an entry whose row or alert the store refuses. -/

/-- The entry of a line that is a well-formed record and that the rung gate accepts. -/
def wellFormedEntry (interpreter : Interpreter) (source : JournalSource) (line : Text) (now : Int) :
    Option Entry :=
  match Json.loads interpreter.decodeDepth line with
  | .ok (.obj fields) => do
    let severity ← (recordSeverity interpreter fields).toOption
    let (message, envelope) ← (composeMessage interpreter source fields).toOption
    if admits interpreter.database severity source.severityFilter message source.declared then
      let loggedAt ← (stamp interpreter now (Json.field (text "__REALTIME_TIMESTAMP") fields)).toOption
      return {
        source := source.unit
        severity := severity
        message := message
        loggedAt := loggedAt
        rawLine := line.take storedRawLineChars
        metadata := recordMetadata fields envelope }
    else none
  | _ => none

/-- The cursor a line moves the resume position to. -/
def lineCursor (interpreter : Interpreter) (line : Text) : Option Json :=
  match Json.loads interpreter.decodeDepth line with
  | .ok (.obj fields) => recordCursor fields
  | _ => none

def newestCursor (interpreter : Interpreter) (lines : List Text) : Option Json :=
  lines.foldl (fun cursor line => (lineCursor interpreter line).or cursor) none

def Process.succeeded : Process → Bool
  | .exited returncode _ _ => returncode = 0 ∨ returncode = 1
  | _ => false

theorem recordEntry_ok {interpreter : Interpreter} {source : JournalSource} {line : Text}
    {now : Int} {fields : List (Text × Json)}
    (loaded : Json.loads interpreter.decodeDepth line = .ok (.obj fields)) :
    (recordEntry interpreter source line now fields).toOption.join =
      wellFormedEntry interpreter source line now := by
  simp only [wellFormedEntry, loaded, recordEntry]
  cases recordSeverity interpreter fields with
  | error raised => rfl
  | ok severity =>
    cases composeMessage interpreter source fields with
    | error raised => rfl
    | ok composed =>
      obtain ⟨message, envelope⟩ := composed
      simp only [bind, Except.bind, Except.toOption, Option.bind]
      cases admits interpreter.database severity source.severityFilter message source.declared with
      | false => rfl
      | true =>
        cases stamp interpreter now (Json.field (text "__REALTIME_TIMESTAMP") fields) <;> rfl

/-- A line that does not end the read contributes its cursor and, if it is a well-formed
record that the gate accepts, one entry. -/
theorem ingestLine_ok {interpreter : Interpreter} {source : JournalSource} {line : Text} {now : Int}
    {ingested : Ingested} (read : ingestLine interpreter source line now = .ok ingested) :
    ingested = ⟨lineCursor interpreter line, wellFormedEntry interpreter source line now⟩ := by
  unfold ingestLine at read
  split at read
  · rename_i failed
    cases read
    simp only [lineCursor, wellFormedEntry, failed]
  · cases read
  · rename_i fields loaded
    have joined := @recordEntry_ok interpreter source line now fields loaded
    have cursor : lineCursor interpreter line = recordCursor fields := by
      simp only [lineCursor, loaded]
    rw [cursor, ← joined]
    split at read
    · rename_i failed
      cases read
      simp [failed, Except.toOption]
    · cases read
    · rename_i entry recorded
      cases read
      simp [recorded, Except.toOption]
  · cases read

section

variable {interpreter : Interpreter} {alerts : AlertPoll} {source : JournalSource} {line : Text}

end

end SysadminAssistant.Monitor
