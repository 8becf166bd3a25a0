import SysadminAssistant.Monitor.PoisonedReads
import SysadminAssistant.Monitor.PollWrites

namespace SysadminAssistant.Monitor

open Python

/-! Which contents of a source a poll survives: its read returns what it should, and none of
the entries fails the transaction, neither by its own row nor by the alert it raises. -/

section

variable {interpreter : Interpreter} {alerts : AlertPoll} {source : JournalSource}

theorem timed_fst (clock : Nat → Int) (lines : List Text) : (timed clock lines).map Prod.fst = lines :=
  List.map_fst_zip (by simp)

theorem mem_timed {clock : Nat → Int} {lines : List Text} {line : Text × Int}
    (member : line ∈ timed clock lines) : line.1 ∈ lines := (List.of_mem_zip member).1

theorem ingestLines_ok {lines : List (Text × Int)} {ingested : List Ingested}
    (read : ingestLines interpreter source lines = .ok ingested) :
    (∀ line ∈ lines, ∃ result, ingestLine interpreter source line.1 line.2 = .ok result) ∧
      ingested = lines.map fun line =>
        ⟨lineCursor interpreter line.1, wellFormedEntry interpreter source line.1 line.2⟩ := by
  induction lines generalizing ingested with
  | nil =>
    cases read
    exact ⟨by simp, rfl⟩
  | cons line rest ih =>
    simp only [ingestLines, bind, Except.bind] at read
    cases first : ingestLine interpreter source line.1 line.2 with
    | error raised => simp [first] at read
    | ok result =>
      cases following : ingestLines interpreter source rest with
      | error raised => simp [first, following] at read
      | ok results =>
        simp only [first, following, pure, Except.pure, Except.ok.injEq] at read
        obtain ⟨returned, shape⟩ := ih following
        refine ⟨fun other member => ?_, ?_⟩
        · rcases List.mem_cons.mp member with here | later
          · exact ⟨result, here ▸ first⟩
          · exact returned other later
        · rw [← read, shape, ingestLine_ok first]
          rfl

theorem ingestLines_isOk {lines : List (Text × Int)}
    (returned : ∀ line ∈ lines, ∃ result, ingestLine interpreter source line.1 line.2 = .ok result) :
    ∃ ingested, ingestLines interpreter source lines = .ok ingested := by
  induction lines with
  | nil => exact ⟨[], rfl⟩
  | cons line rest ih =>
    obtain ⟨result, first⟩ := returned line List.mem_cons_self
    obtain ⟨results, following⟩ :=
      ih fun other member => returned other (List.mem_cons_of_mem _ member)
    exact ⟨result :: results,
      by simp [ingestLines, first, following, bind, Except.bind, pure, Except.pure]⟩

theorem lastCursor_map (lines : List (Text × Int)) (entryOf : Text × Int → Option Entry) :
    lastCursor (lines.map fun line => ⟨lineCursor interpreter line.1, entryOf line⟩) =
      newestCursor interpreter (lines.map Prod.fst) := by
  simp only [lastCursor, newestCursor, List.foldl_map]

/-- What `read_journal` makes of an output whose lines are all harmless. -/
theorem readJournal_some {run : JournalCommand → Process} {clock : Nat → Int} {limit : Nat}
    {window : Window} {afterCursor : Option Json} {stdout : Text} {ingested : List Ingested}
    (output : journalOutput run source limit window afterCursor = .ok (some stdout))
    (read : ingestLines interpreter source (timed clock (journalLines stdout)) = .ok ingested) :
    readJournal interpreter run clock source limit window afterCursor =
      .ok ⟨ingested.filterMap Ingested.entry, lastCursor ingested,
        limit ≤ (journalLines stdout).length⟩ := by
  simp only [readJournal, output, bind, Except.bind, read, pure, Except.pure]

end

section

variable {interpreter : Interpreter} {alerts : AlertPoll} {source : FileSource}

end

def nginx : JournalSource :=
  ⟨text "nginx", text "nginx.service", false, text "warning", false, .empty⟩

end SysadminAssistant.Monitor
