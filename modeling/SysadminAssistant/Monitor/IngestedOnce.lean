import SysadminAssistant.Monitor.JournalExactness

namespace SysadminAssistant.Monitor

open Python Library

/-! Whole runs of polls over one journal: no record twice, none missed. -/

section

variable {interpreter : Interpreter} {source : JournalSource}
  {journal : DatedJournal interpreter source}

/-- No record is stored twice, and the stored pairs are those of the admitted records among
the first `length` from `opened` on. -/
structure StoredExactly (journal : DatedJournal interpreter source) (state : ResumedState)
    (length : Nat) (opened : Int) : Prop where
  rows : state.rows = state.inserted.map fun row => storedRow row.2
  real : ∀ row ∈ state.inserted, ∃ record, journal.Shows length row.1 record ∧
    record.entry = some row.2
  once : (state.inserted.map Prod.fst).Nodup
  pairs : ∀ moment message,
    (∃ row ∈ state.rows, row.loggedAt = moment ∧ row.message = message) ↔
      ∃ index record entry, journal.Shows length index record ∧ record.entry = some entry ∧
        opened ≤ record.time ∧ entry.loggedAt = moment ∧
        entry.message.take storedMessageChars = message

def resumeRun (state : ResumedState) (polls : List (JournalPoll journal)) : ResumedState :=
  polls.foldl resumePoll state

/-- Every poll of the run hands over. -/
def HandOvers : ResumedState → List (JournalPoll journal) → Prop
  | _, [] => True
  | state, poll :: rest => HandsOver state poll ∧ HandOvers (resumePoll state poll) rest

theorem resumes_start : Resumes journal resumeStart 0 where
  rows := rfl
  real _ member := by cases member
  once := List.nodup_nil
  since _ member := by cases member
  complete _ since := by cases since
  resume _ found := by cases found

theorem resumes_run {polls : List (JournalPoll journal)} {state : ResumedState} {length : Nat}
    (inv : Resumes journal state length)
    (grown : (length :: polls.map JournalPoll.length).Pairwise (· ≤ ·))
    (meets : HandOvers state polls) :
    Resumes journal (resumeRun state polls) ((polls.getLast?.map JournalPoll.length).getD length) := by
  induction polls generalizing state length with
  | nil => exact inv
  | cons poll rest ih =>
    obtain ⟨first, later⟩ := List.pairwise_cons.mp grown
    have stepped := resumes_step inv (first poll.length List.mem_cons_self) meets.1
    have ends := ih stepped later meets.2
    rw [List.getLast?_cons]
    cases last : rest.getLast? with
    | none => simpa [last, resumeRun] using ends
    | some final => simpa [last, resumeRun] using ends

theorem resumePoll_opened {state : ResumedState} {opened : Int} (poll : JournalPoll journal)
    (since : state.opened = some opened) : (resumePoll state poll).opened = some opened := by
  rw [resumePoll]
  split
  · exact since
  · simp only [since, Option.some_or]

theorem resumeRun_opened {state : ResumedState} {opened : Int} (polls : List (JournalPoll journal))
    (since : state.opened = some opened) : (resumeRun state polls).opened = some opened := by
  induction polls generalizing state with
  | nil => exact since
  | cons poll rest ih => exact ih (resumePoll_opened poll since)

theorem resumePoll_first (poll : JournalPoll journal) :
    (resumePoll resumeStart poll).opened = some poll.recent := by
  obtain ⟨saved, usable⟩ := resumes_start.saved poll
  obtain ⟨read, returned, _⟩ := poll.readJournalSource_eq resumeStart usable saved
  rw [resumePoll, returned]
  rfl

theorem storedExactly_of_resumes {state : ResumedState} {length : Nat} {opened : Int}
    (inv : Resumes journal state length) (since : state.opened = some opened) :
    StoredExactly journal state length opened where
  rows := inv.rows
  real := inv.real
  once := inv.once
  pairs moment message := by
    constructor
    · intro stored
      obtain ⟨row, member, here, same⟩ := stored
      rw [inv.rows] at member
      obtain ⟨kept, inside, equal⟩ := List.mem_map.mp member
      obtain ⟨record, shows, present⟩ := inv.real kept inside
      obtain ⟨first, known, low⟩ := inv.since kept inside
      rw [since] at known
      cases known
      rw [DatedRecord.entry_dated present] at low
      subst equal
      exact ⟨kept.1, record, kept.2, shows, present, low, here, same⟩
    · intro admitted
      obtain ⟨index, record, entry, shows, present, late, here, same⟩ := admitted
      obtain ⟨row, inside, moments, messages⟩ :=
        inv.complete opened since index record entry shows present late
      refine ⟨storedRow row.2, ?_, moments.trans here, messages.trans same⟩
      rw [inv.rows]
      exact List.mem_map.mpr ⟨row, inside, rfl⟩

/-- After every run of polls that hand over, whatever restarts and stale cursors are in it,
the journal is stored exactly. -/
theorem journal_stored_exactly (journal : DatedJournal interpreter source)
    (first : JournalPoll journal) (rest : List (JournalPoll journal)) (last : JournalPoll journal)
    (final : (first :: rest).getLast? = some last)
    (grown : ((first :: rest).map JournalPoll.length).Pairwise (· ≤ ·))
    (meets : HandOvers resumeStart (first :: rest)) :
    StoredExactly journal (resumeRun resumeStart (first :: rest)) last.length first.recent := by
  have run :=
    resumes_run resumes_start (List.pairwise_cons.mpr ⟨fun _ _ => Nat.zero_le _, grown⟩) meets
  rw [final, Option.map_some, Option.getD_some] at run
  exact storedExactly_of_resumes run (resumeRun_opened rest (resumePoll_first first))

end

/-! Concrete journals.  The check stands for what a record has to be. -/

def datedLine (interpreter : Interpreter) (source : JournalSource) (line cursor : Text)
    (time : Int) : Bool :=
  cursor ≠ [] && (launchArgument (.str cursor)).toOption = some cursor &&
    (ingestLine interpreter source line 0).isOk &&
    (wellFormedEntry interpreter source line 0).all (fun entry => entry.loggedAt = time) &&
    match Json.loads interpreter.decodeDepth line with
    | .ok (.obj fields) =>
      (match Json.field (text "__CURSOR") fields with
        | .str named => named = cursor
        | _ => false) && (Json.field (text "__REALTIME_TIMESTAMP") fields).truthy
    | _ => false

def DatedRecord.ofLine {interpreter : Interpreter} {source : JournalSource} (line cursor : Text)
    (time : Int) (checked : datedLine interpreter source line cursor time = true) :
    DatedRecord interpreter source where
  line := line
  cursor := cursor
  time := time
  named := by simp_all [datedLine]
  launched := by
    simp only [datedLine, Bool.and_eq_true, decide_eq_true_eq] at checked
    have started := checked.1.1.1.2
    cases launched : launchArgument (.str cursor) with
    | error raised => simp [launched, Except.toOption] at started
    | ok argument =>
      rw [launched] at started
      exact congrArg Except.ok (Option.some.inj started)
  loaded raised failed := by simp [datedLine, failed] at checked
  carried json loaded := by
    simp only [datedLine, loaded, Bool.and_eq_true] at checked
    have object := checked.2
    split at object
    · rename_i fields same
      cases same
      refine ⟨fields, rfl, ?_⟩
      simp only [Bool.and_eq_true] at object
      have named := object.1
      split at named
      · rename_i found carried
        rw [carried, of_decide_eq_true named]
      · cases named
    · cases object
  stamped fields loaded := by
    simp only [datedLine, loaded, Bool.and_eq_true] at checked
    exact checked.2.2
  reads := by
    simp only [datedLine, Bool.and_eq_true] at checked
    exact checked.1.1.2
  dated entry present := by
    simp only [datedLine, present, Option.all_some, Bool.and_eq_true, decide_eq_true_eq] at checked
    exact checked.1.2

def outageLine (cursor second message : String) : Text :=
  text ("\x7b\"__CURSOR\":\"" ++ cursor ++ "\",\"PRIORITY\":\"3\",\"__REALTIME_TIMESTAMP\":\"" ++
    second ++ "000000\",\"MESSAGE\":\"" ++ message ++ "\"\x7d")

/-- Two errors of one unit, a second apart. -/
def outage : DatedJournal plainInterpreter nginx where
  records := [
    .ofLine (outageLine "s=1" "1700000000" "down") (text "s=1") 1700000000000000 (by decide +kernel),
    .ofLine (outageLine "s=2" "1700000001" "still down") (text "s=2") 1700000001000000
    (by decide +kernel)]
  ordered := by decide

def printed (lines : List Text) : Bytes :=
  lines.flatMap fun line => line.map (fun c => UInt8.ofNat c.val) ++ [0x0A]

/-- What journalctl answers while the first `length` records are there. -/
def outageAnswers (length : Nat) (recent : Int) (stale : Bool) (command : JournalCommand) : Process :=
  let shown := outage.records.take length
  match command.position with
  | .afterCursor cursor =>
    if stale then .timedOut
    else .exited 0 (printed ((shown.drop (indexAfter (fun record => record.cursor) cursor shown)).map
      fun record => record.line)) []
  | .since window =>
    .exited 0 (printed ((shown.drop (indexSince DatedRecord.time (opening recent window) shown)).map
      fun record => record.line)) []

theorem outage_printed (length : Nat) (start : Nat) :
    ∃ stdout, decode
      (printed (((outage.records.take length).drop start).map fun record => record.line)) =
        .ok stdout ∧
      journalLines stdout = ((outage.records.take length).drop start).map fun record =>
        record.line := by
  have readable : ∀ lines ∈ [[], outage.records.map (fun record => record.line),
      [outageLine "s=1" "1700000000" "down"], [outageLine "s=2" "1700000001" "still down"]],
      (decode (printed lines)).toOption.map journalLines = some lines := by decide +kernel
  have suffix : ((outage.records.take length).drop start).map (fun record => record.line) ∈
      [[], outage.records.map (fun record => record.line),
        [outageLine "s=1" "1700000000" "down"], [outageLine "s=2" "1700000001" "still down"]] := by
    match length, start with
    | 0, _ => simp
    | 1, 0 => exact List.mem_cons_of_mem _ (List.mem_cons_of_mem _ List.mem_cons_self)
    | 1, _ + 1 => simp [outage]
    | _ + 2, 0 => exact List.mem_cons_of_mem _ (by simp [outage])
    | _ + 2, 1 => simp [outage, DatedRecord.ofLine]
    | _ + 2, _ + 2 => simp [outage]
  have printed := readable _ suffix
  rw [Option.map_eq_some_iff] at printed
  obtain ⟨stdout, decoded, lines⟩ := printed
  refine ⟨stdout, ?_, lines⟩
  revert decoded
  generalize decode _ = result
  cases result <;> simp [Except.toOption]

def outageFeed (length : Nat) (recent : Int) (stale : Bool) :
    JournalFeed plainInterpreter nginx (outageAnswers length recent stale) where
  records := (outage.records.take length).map DatedRecord.toJournalRecord
  distinct := by
    have apart : (outage.records.map fun record => record.cursor).Nodup := by decide
    rw [List.map_map]
    exact apart.sublist ((List.take_sublist _ _).map _)
  windowStart window :=
    indexSince DatedRecord.time (opening recent window) (outage.records.take length)
  stale := stale
  opens limit window := by
    obtain ⟨stdout, decoded, lines⟩ := outage_printed length
      (indexSince DatedRecord.time (opening recent window) (outage.records.take length))
    refine ⟨stdout, ?_, ?_⟩
    · simp only [outageAnswers, journalCommand, runJournalctl, decoded]
      rfl
    · rw [lines, ← List.map_drop, List.map_map]
      rfl
  fails failing limit cursor := by simp [outageAnswers, journalCommand, runJournalctl, failing]
  resumes working limit cursor := by
    obtain ⟨stdout, decoded, lines⟩ := outage_printed length
      (indexAfter (fun record => record.cursor) cursor (outage.records.take length))
    refine ⟨stdout, ?_, ?_⟩
    · simp only [outageAnswers, journalCommand, runJournalctl, working, Bool.false_eq_true,
        if_false, decoded]
      rfl
    · rw [lines, ← List.map_drop, List.map_map, indexAfter, indexAfter, List.findIdx_map]
      rfl

/-- A poll of the outage; the window opens five minutes before its first record. -/
def outagePoll (restart : Bool) (length : Nat) (inside : length ≤ outage.records.length)
    (stale : Bool) : JournalPoll outage where
  restart := restart
  length := length
  inside := inside
  recent := 1699999700000000
  limit := 500
  clock := fun _ => 0
  run := outageAnswers length 1699999700000000 stale
  feed := outageFeed length 1699999700000000 stale
  shown := rfl
  opens _ := rfl

/-- Across a restart the floor hands over. -/
theorem outage_stored_exactly :
    StoredExactly outage (resumeRun resumeStart
      [outagePoll false 1 (by decide) false, outagePoll true 2 (by decide) false]) 2
        1699999700000000 := by
  refine journal_stored_exactly outage (outagePoll false 1 (by decide) false)
    [outagePoll true 2 (by decide) false] (outagePoll true 2 (by decide) false) rfl (by decide) ?_
  refine ⟨?_, ?_, trivial⟩
  · intro opened known
    cases known
  · have lost : (outagePoll true 2 (by decide) false).cursor
        (resumePoll resumeStart (outagePoll false 1 (by decide) false)) = none := by decide
    have floor : resumeFloor (resumePoll resumeStart (outagePoll false 1 (by decide) false)).rows
        nginx.unit = some (1700000000000000, [text "down"]) := by decide +kernel
    have before : opening 1699999700000000 (sinceTimestamp 1700000000000000) ≤ 1700000000000000 := by
      decide +kernel
    simp only [HandsOver, lost, floor]
    exact before

/-- A cursor that does not resolve re-reads the window unfiltered. -/
theorem stale_cursor_stores_twice :
    ¬ StoredExactly outage (resumeRun resumeStart
      [outagePoll false 1 (by decide) false, outagePoll false 1 (by decide) true]) 1
        1699999700000000 := by
  intro stored
  have twice : (resumeRun resumeStart [outagePoll false 1 (by decide) false,
      outagePoll false 1 (by decide) true]).inserted.map Prod.fst = [0, 0] := by decide +kernel
  have once := stored.once
  rw [twice] at once
  simp at once

end SysadminAssistant.Monitor
