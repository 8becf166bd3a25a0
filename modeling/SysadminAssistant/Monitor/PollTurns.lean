import SysadminAssistant.Monitor.JournalResume

namespace SysadminAssistant.Monitor

open Python SysadminAssistant.Core Library

/-! One poll over sources whose contents are known: from where each read starts, what it
hands over, and where it leaves the resume position. -/

section

variable {interpreter : Interpreter} {run : JournalCommand → Process}

/-- A source during one poll: a journal whose cursors resolve, or a file. -/
inductive Turn (interpreter : Interpreter) (run : JournalCommand → Process) where
  | journal (source : JournalSource) (feed : JournalFeed interpreter source run)
      (resolves : feed.stale = false)
  | file (source : FileSource) (bytes : Bytes) (accessible : Bool)

namespace Turn

def source : Turn interpreter run → LogSource
  | .journal source _ _ => .journal source
  | .file source _ _ => .file source

def name (turn : Turn interpreter run) : Text := turn.source.name

/-- How much there is to read. -/
def size : Turn interpreter run → Nat
  | .journal _ feed _ => feed.records.length
  | .file _ bytes _ => bytes.length

end Turn

/-- What one poll finds. -/
structure Surroundings (interpreter : Interpreter) where
  limit : Nat
  run : JournalCommand → Process
  clock : Text → Nat → Int
  file : Text → FileState
  turns : List (Turn interpreter run)
  distinct : (turns.map Turn.name).Nodup
  opens : ∀ source bytes accessible, Turn.file source bytes accessible ∈ turns →
    file source.name = if accessible then .readable bytes else .unreadable
  raises : Text → Option Escape
  raising : Option Escape
  queued : List Text

def Surroundings.poll (around : Surroundings interpreter) : Poll where
  interpreter := interpreter
  sources := around.turns.map Turn.source
  limit := around.limit
  run := around.run
  file := around.file
  clock := around.clock
  raises := around.raises
  raising := around.raising
  queued := around.queued

/-- The saved cursor as text. -/
def cursorText (cursors : Dict Text Json) (name : Text) : Option Text :=
  match cursors.get? name with
  | some (.str cursor) => some cursor
  | _ => none

/-- Every saved cursor can be resumed from. -/
def Savable (resume : ResumeState) : Prop :=
  ∀ name cursor, resume.cursors.get? name = some cursor →
    ∃ value, cursor = .str value ∧ value ≠ [] ∧ launchArgument (.str value) = .ok value

section

variable (around : Surroundings interpreter) (stored : List Entry) (ingestion : Ingestion)

/-- The window a journal read opens if it has no cursor. -/
def turnWindow (source : JournalSource) : Window :=
  (sourceFloor (stored ++ ingestion.rows) source ingestion.resume.cursors).elim .recent fun floor =>
    sinceTimestamp floor.1

/-- Where a read starts: a record of the journal, a byte of the file. -/
def turnStart : Turn interpreter around.run → Nat
  | .journal source feed _ =>
    feed.start (turnWindow stored ingestion source) (cursorText ingestion.resume.cursors source.name)
  | .file source bytes _ => resumeOffset bytes ((ingestion.resume.fileOffsets.get? source.name).getD 0)

/-- The admitted entries that lie ahead of the resume position and are not stored yet. -/
def turnAhead : Turn interpreter around.run → List Entry
  | .journal source feed _ =>
    let served := feed.served (turnWindow stored ingestion source)
      (cursorText ingestion.resume.cursors source.name)
    unstoredEntries (sourceFloor (stored ++ ingestion.rows) source ingestion.resume.cursors)
      ((timed (around.clock source.name) (served.map JournalRecord.line)).filterMap fun line =>
        wellFormedEntry interpreter source line.1 line.2)
  | .file source bytes accessible =>
    match accessible,
      decode (bytes.drop (turnStart around stored ingestion (.file source bytes accessible))) with
    | true, .ok content =>
      (fileEntries interpreter source (around.clock source.name) content).take around.limit
    | _, _ => []

end

namespace Turn

/-- The resume position of this source is `place`, counted in what there is to read. -/
def Resumed (resume : ResumeState) (place : Nat) : Turn interpreter run → Prop
  | .journal source feed _ => ∃ record, feed.records[place - 1]? = some record ∧ 0 < place ∧
      resume.cursors.get? source.name = some (.str record.cursor)
  | .file source bytes _ => place ≤ bytes.length ∧ resume.fileOffsets.get? source.name = some place

end Turn

variable {around : Surroundings interpreter} {stored : List Entry} {ingestion next : Ingestion}
  {turn : Turn interpreter around.run} {place : Nat}

theorem cursorText_savable (savable : Savable ingestion.resume) (name : Text) :
    ingestion.resume.cursors.get? name = (cursorText ingestion.resume.cursors name).map .str ∧
      JournalFeed.Usable (cursorText ingestion.resume.cursors name) := by
  cases found : ingestion.resume.cursors.get? name with
  | none => simp [cursorText, found, JournalFeed.Usable]
  | some cursor =>
    obtain ⟨value, same, nonempty, launched⟩ := savable name cursor found
    subst same
    refine ⟨by simp [cursorText, found], fun other named => ?_⟩
    simp only [cursorText, found, Option.some.injEq] at named
    subst named
    exact ⟨nonempty, launched⟩

theorem readSource_journal {source : JournalSource}
    {feed : JournalFeed interpreter source around.run} (resolves : feed.stale = false)
    (savable : Savable ingestion.resume)
    (read : readSource around.poll stored ingestion (.journal source) = .ok next) :
    next.reads = ingestion.reads ++
        [(.journal source, turnAhead around stored ingestion (.journal source feed resolves))] ∧
      next.resume = { ingestion.resume with
        cursors := moveCursor ingestion.resume.cursors source.name
          (((feed.served (turnWindow stored ingestion source)
            (cursorText ingestion.resume.cursors source.name)).getLast?).map fun record =>
              .str record.cursor) } := by
  obtain ⟨saved, usable⟩ := cursorText_savable savable source.name
  simp only [readSource, Surroundings.poll] at read
  split at read
  · cases read
  · simp only [readJournalSource, bind, Except.bind, pure, Except.pure] at read
    rw [saved] at read
    cases returned : readJournal interpreter around.run (around.clock source.name) source around.limit
        (turnWindow stored ingestion source)
        ((cursorText ingestion.resume.cursors source.name).map .str) with
    | error raised =>
      rw [turnWindow] at returned
      simp [returned] at read
    | ok journal =>
      obtain ⟨entries, cursor⟩ := feed.readJournal_served usable returned
      rw [turnWindow] at returned
      simp only [returned, Except.ok.injEq] at read
      subst read
      simp only [ingestRead, cursor, entries, turnAhead]
      exact ⟨trivial, trivial⟩

theorem readSource_file {source : FileSource} {bytes : Bytes} {accessible : Bool}
    (member : Turn.file source bytes accessible ∈ around.turns)
    (read : readSource around.poll stored ingestion (.file source) = .ok next) :
    next.reads = ingestion.reads ++
        [(.file source, turnAhead around stored ingestion (.file source bytes accessible))] ∧
      next.resume = { ingestion.resume with
        fileOffsets := if accessible then ingestion.resume.fileOffsets.set source.name bytes.length
          else ingestion.resume.fileOffsets } := by
  have state := around.opens source bytes accessible member
  simp only [readSource, Surroundings.poll] at read
  split at read
  · cases read
  · rw [state] at read
    cases accessible with
    | false =>
      simp only [Bool.false_eq_true, if_false, readLogFile, Except.ok.injEq] at read
      subst read
      exact ⟨rfl, rfl⟩
    | true =>
      simp only [if_true, readLogFile, bind, Except.bind] at read
      cases decoded : decode (bytes.drop
          (resumeOffset bytes ((ingestion.resume.fileOffsets.get? source.name).getD 0))) with
      | error raised => simp [decoded] at read
      | ok content =>
        simp only [decoded, pure, Except.pure, Except.ok.injEq] at read
        subst read
        simp only [ingestRead, turnAhead, turnStart, decoded]
        exact ⟨trivial, rfl⟩

theorem readSource_ahead (member : turn ∈ around.turns) (savable : Savable ingestion.resume)
    (read : readSource around.poll stored ingestion turn.source = .ok next) :
    next.reads = ingestion.reads ++ [(turn.source, turnAhead around stored ingestion turn)] := by
  cases turn with
  | journal source feed resolves => exact (readSource_journal resolves savable read).1
  | file source bytes accessible => exact (readSource_file member read).1

theorem moveCursor_get? (cursors : Dict Text Json) (name other : Text)
    (record : Option (JournalRecord interpreter)) :
    (moveCursor cursors name (record.map fun record => .str record.cursor)).get? other =
      if name = other then (record.map fun record => .str record.cursor).or (cursors.get? other)
      else cursors.get? other := by
  cases record with
  | none => simp [moveCursor]
  | some record =>
    have kept : (some (Json.str record.cursor)).filter Json.truthy =
        some (Json.str record.cursor) := by
      simp [Json.truthy, record.named]
    simp only [moveCursor, Option.map_some, kept, Option.some_or, Dict.get?_set]

theorem readSource_savable (member : turn ∈ around.turns) (savable : Savable ingestion.resume)
    (read : readSource around.poll stored ingestion turn.source = .ok next) : Savable next.resume := by
  cases turn with
  | file source bytes accessible =>
    rw [(readSource_file member read).2]
    exact savable
  | journal source feed resolves =>
    rw [(readSource_journal resolves savable read).2]
    intro name cursor found
    rw [moveCursor_get?] at found
    split at found
    · cases last : (feed.served (turnWindow stored ingestion source)
          (cursorText ingestion.resume.cursors source.name)).getLast? with
      | none =>
        rw [last, Option.map_none, Option.none_or] at found
        exact savable name cursor found
      | some record =>
        rw [last, Option.map_some, Option.some_or, Option.some.injEq] at found
        exact ⟨record.cursor, found.symm, record.named, record.launched⟩
    · exact savable name cursor found

theorem served_getLast? {source : JournalSource} {feed : JournalFeed interpreter source run}
    {window : Window} {cursor : Option Text} (some : feed.start window cursor < feed.records.length) :
    ∃ record, (feed.served window cursor).getLast? = Option.some record ∧
      feed.records[feed.records.length - 1]? = Option.some record := by
  have inside : feed.records.length - 1 < feed.records.length := by omega
  refine ⟨feed.records[feed.records.length - 1], ?_, List.getElem?_eq_getElem inside⟩
  have place : feed.start window cursor + (feed.records.length - feed.start window cursor - 1) =
      feed.records.length - 1 := by omega
  rw [JournalFeed.served, List.getLast?_eq_getElem?, List.length_drop, List.getElem?_drop, place,
    List.getElem?_eq_getElem inside]

theorem readSource_moves (member : turn ∈ around.turns) (savable : Savable ingestion.resume)
    (read : readSource around.poll stored ingestion turn.source = .ok next)
    (something : turnAhead around stored ingestion turn ≠ []) :
    turnStart around stored ingestion turn < turn.size ∧ turn.Resumed next.resume turn.size := by
  cases turn with
  | journal source feed resolves =>
    have moved := (readSource_journal resolves savable read).2
    have inside : feed.start (turnWindow stored ingestion source)
        (cursorText ingestion.resume.cursors source.name) < feed.records.length := by
      by_contra beyond
      have nothing : feed.served (turnWindow stored ingestion source)
          (cursorText ingestion.resume.cursors source.name) = [] :=
        List.drop_of_length_le (Nat.le_of_not_lt beyond)
      apply something
      simp only [turnAhead, nothing, unstoredEntries_eq]
      rfl
    obtain ⟨record, last, place⟩ := served_getLast? inside
    refine ⟨inside, record, place, Nat.zero_lt_of_lt inside, ?_⟩
    rw [moved, moveCursor_get?, if_pos rfl, last]
    rfl
  | file source bytes accessible =>
    have moved := (readSource_file member read).2
    cases accessible with
    | false => simp [turnAhead] at something
    | true =>
      have inside : turnStart around stored ingestion (.file source bytes true) < bytes.length := by
        by_contra beyond
        apply something
        have nothing : bytes.drop (turnStart around stored ingestion (.file source bytes true)) = [] :=
          List.drop_of_length_le (Nat.le_of_not_lt beyond)
        have blank : fileEntries interpreter source (around.clock source.name) [] = [] := rfl
        simp only [turnAhead, nothing]
        simp [decode, decodeFrom, blank]
      refine ⟨inside, Nat.le_refl _, ?_⟩
      rw [moved]
      simp [Turn.size]

/-- A source that has been read up to `place` is read from there on, and stays behind it. -/
theorem readSource_resumed (member : turn ∈ around.turns) (savable : Savable ingestion.resume)
    (resumed : turn.Resumed ingestion.resume place)
    (read : readSource around.poll stored ingestion turn.source = .ok next) :
    turnStart around stored ingestion turn = place ∧
      ∃ later, place ≤ later ∧ turn.Resumed next.resume later := by
  cases turn with
  | journal source feed resolves =>
    obtain ⟨record, there, positive, saved⟩ := resumed
    have moved := (readSource_journal resolves savable read).2
    have start : feed.start (turnWindow stored ingestion source)
        (cursorText ingestion.resume.cursors source.name) = place := by
      simp only [cursorText, saved, JournalFeed.start, resolves, Bool.false_eq_true, if_false]
      rw [indexAfter_of_getElem? feed.distinct there]
      omega
    refine ⟨start, ?_⟩
    rcases Nat.lt_or_ge place feed.records.length with more | done
    · obtain ⟨newest, last, end_⟩ := served_getLast? (start ▸ more)
      refine ⟨feed.records.length, Nat.le_of_lt more, newest, end_, Nat.zero_lt_of_lt more, ?_⟩
      rw [moved, moveCursor_get?, if_pos rfl, last]
      rfl
    · have nothing : feed.served (turnWindow stored ingestion source)
          (cursorText ingestion.resume.cursors source.name) = [] :=
        List.drop_of_length_le (start.symm ▸ done)
      refine ⟨place, Nat.le_refl _, record, there, positive, ?_⟩
      rw [moved, moveCursor_get?, if_pos rfl, nothing]
      exact saved
  | file source bytes accessible =>
    obtain ⟨inside, saved⟩ := resumed
    have moved := (readSource_file member read).2
    have start : turnStart around stored ingestion (.file source bytes accessible) = place := by
      simp [turnStart, saved, resumeOffset, inside]
    refine ⟨start, ?_⟩
    cases accessible with
    | false => exact ⟨place, Nat.le_refl _, inside, by rw [moved]; simpa using saved⟩
    | true => exact ⟨bytes.length, inside, Nat.le_refl _, by rw [moved]; simp⟩

theorem readSource_other {other : Turn interpreter around.run} (member : other ∈ around.turns)
    (savable : Savable ingestion.resume) (apart : other.name ≠ turn.name)
    (resumed : turn.Resumed ingestion.resume place)
    (read : readSource around.poll stored ingestion other.source = .ok next) :
    turn.Resumed next.resume place := by
  cases other with
  | journal source feed resolves =>
    rw [(readSource_journal resolves savable read).2]
    cases turn with
    | journal mine own _ =>
      obtain ⟨record, there, positive, saved⟩ := resumed
      refine ⟨record, there, positive, ?_⟩
      have different : source.name ≠ mine.name := apart
      rw [moveCursor_get?, if_neg different]
      exact saved
    | file mine bytes accessible => exact resumed
  | file source bytes accessible =>
    rw [(readSource_file member read).2]
    cases turn with
    | journal mine own _ => exact resumed
    | file mine own _ =>
      refine ⟨resumed.1, ?_⟩
      cases accessible with
      | false => exact resumed.2
      | true =>
        have different : source.name ≠ mine.name := apart
        simpa [Dict.get?_set, different] using resumed.2

end

end SysadminAssistant.Monitor
