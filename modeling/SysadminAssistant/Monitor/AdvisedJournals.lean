import SysadminAssistant.Monitor.JournalResume
import SysadminAssistant.Monitor.LogAdvice
import SysadminAssistant.Monitor.LogQuery

namespace SysadminAssistant.Monitor.Sources

open Python Library Advice LogQuery

/-! Whether the command that a log recommendation advises reads the journal its rows came from. -/

/-- What the options of a `journalctl` command select: `-k`, `--user` and each `-u`. -/
structure Selection where
  kernel : Bool
  user : Bool
  units : List Text

def Selection.Reads (selection : Selection) : Origin → Prop
  | .kernel => selection.kernel = true
  | .journal user unit => selection.kernel = false ∧ selection.user = user ∧ unit ∈ selection.units
  | .file _ => False

/-- As `read_journal` builds its command. -/
def readSelection (unit : Text) (user : Bool) : Selection :=
  if unit = text "kernel" then ⟨true, false, []⟩ else ⟨false, user, [unit]⟩

theorem readSelection_reads (unit : Text) (user : Bool) (origin : Origin) :
    (readSelection unit user).Reads origin ↔ origin = journalOf user unit := by
  rw [readSelection, journalOf]
  by_cases kernel : unit = text "kernel"
  · rw [if_pos kernel, if_pos kernel]
    cases origin <;> simp [Selection.Reads]
  · rw [if_neg kernel, if_neg kernel]
    cases origin <;> simp [Selection.Reads, eq_comm]

/-- As `journal_command` builds it. -/
def advisedSelection (source : Text) (scopes : Option Scopes) (others : List Text) : Selection :=
  if source = text "kernel" then ⟨true, false, []⟩
  else ⟨false, ((scopes.getD .empty).get? source).getD false, source :: others⟩

def Selection.command (selection : Selection) (second : Int) : Text :=
  let stamp := text "@" ++ intText second
  if selection.kernel then text "journalctl -k --since '" ++ stamp ++ text "'"
  else text "journalctl " ++ (if selection.user then text "--user " else []) ++
    (text " ").intercalate (selection.units.map fun unit => text "-u " ++ unit) ++
      text " --since '" ++ stamp ++ text "'"

/-- The second that `since_timestamp` prints. -/
def printedSecond (moment : Int) : Int := truncate (totalSeconds moment)

theorem journalCommand_selection (source : Text) (since : Int) (scopes : Option Scopes)
    (others : List Text) :
    Advice.journalCommand source since scopes others =
      (advisedSelection source scopes others).command (printedSecond since) := by
  rw [Advice.journalCommand, advisedSelection]
  by_cases kernel : source = text "kernel"
  · rw [if_pos kernel]
    simp only [if_pos kernel]
    rfl
  · rw [if_neg kernel]
    simp only [if_neg kernel]
    rfl

/-- The manager of the last log declaration of services.yaml that names a unit, or the system's. -/
def lastUser (file : ServicesFile) (unit : Text) : Bool :=
  (((logSources file).filter fun source => source.unitName = some unit).getLast?.map
    LogSource.user).getD false

theorem logSourceScopes_get (file : ServicesFile) (unit : Text) :
    ((logSourceScopes file).get? unit).getD false = lastUser file unit := by
  rw [logSourceScopes, lastUser]
  congr 1
  induction logSources file using List.reverseRecOn with
  | nil => rfl
  | append_singleton before last ih =>
    rw [List.foldl_append, List.foldl_cons, List.foldl_nil, List.filter_append]
    cases named : last.unitName with
    | none => simpa [named] using ih
    | some other =>
      by_cases same : other = unit
      · simp [named, same]
      · simpa [named, same, Dict.get?_set] using ih

theorem mem_groupUnits {group : List SignatureTrend} {unit : Text} :
    unit ∈ groupUnits group ↔ ∃ trend ∈ group, trend.source = unit := by
  rw [groupUnits]
  induction group using List.reverseRecOn with
  | nil => simp
  | append_singleton before last ih =>
    rw [List.foldl_append, List.foldl_cons, List.foldl_nil]
    split
    · rename_i known
      rw [ih]
      constructor
      · intro found
        obtain ⟨trend, member, same⟩ := found
        exact ⟨trend, List.mem_append_left _ member, same⟩
      · intro found
        obtain ⟨trend, member, same⟩ := found
        rcases List.mem_append.mp member with earlier | own
        · exact ⟨trend, earlier, same⟩
        · rw [List.mem_singleton.mp own] at same
          exact ih.mp (same ▸ known)
    · rw [List.mem_append, ih, List.mem_singleton]
      constructor
      · intro found
        rcases found with ⟨trend, member, same⟩ | own
        · exact ⟨trend, List.mem_append_left _ member, same⟩
        · exact ⟨last, List.mem_append_right _ List.mem_cons_self, own.symm⟩
      · intro found
        obtain ⟨trend, member, same⟩ := found
        rcases List.mem_append.mp member with earlier | own
        · exact Or.inl ⟨trend, earlier, same⟩
        · rw [List.mem_singleton.mp own] at same
          exact Or.inr same.symm

theorem groupUnits_head (anchor : SignatureTrend) (claimed : List SignatureTrend) :
    groupUnits (anchor :: claimed) = anchor.source :: (groupUnits (anchor :: claimed)).drop 1 := by
  have kept : ∀ (trends : List SignatureTrend) (rest : List Text), ∃ later,
      trends.foldl (fun units trend =>
        if trend.source ∈ units then units else units ++ [trend.source]) (anchor.source :: rest) =
        anchor.source :: later := by
    intro trends
    induction trends with
    | nil => exact fun rest => ⟨rest, rfl⟩
    | cons first others ih =>
      intro rest
      rw [List.foldl_cons]
      by_cases known : first.source ∈ anchor.source :: rest
      · rw [if_pos known]
        exact ih rest
      · rw [if_neg known]
        exact ih (rest ++ [first.source])
  obtain ⟨later, shape⟩ := kept claimed []
  have units : groupUnits (anchor :: claimed) = anchor.source :: later := shape
  rw [units]
  rfl

section

variable (wording : Advice.Wording) (report : LogTrendReport)
  (declaredNoise : Option (List (Text × Text))) (scopes : Option Scopes)
  (related : Option Relations)

/-- The rows that advise a command, each with the trends it is about. -/
inductive Advises : List SignatureTrend → LogRecommendation → Prop
  | sighted {group : List SignatureTrend} {row : LogRecommendation}
      (formed : group ∈ groupIncidents (undeclared report declaredNoise) related)
      (made : groupRow wording scopes group = some row) : Advises group row
  | surged {trend : SignatureTrend} (standing : trend ∈ undeclared report declaredNoise)
      (change : trend.change = .surged) :
      Advises [trend] (surgeRecommendation wording scopes report.previousStart trend)

theorem mem_recommend (row : LogRecommendation) :
    row ∈ recommend wording report declaredNoise scopes related ↔
    (∃ trends, Advises wording report declaredNoise scopes related trends row) ∨
      ∃ trend ∈ undeclared report declaredNoise, trend.change ≠ .new ∧ trend.change ≠ .surged ∧
        isNoiseCandidate trend report.confidence = true ∧ row = noiseRecommendation wording trend := by
  rw [recommend, List.mem_insertionSort, List.mem_append, List.mem_filterMap, List.mem_filterMap]
  constructor
  · intro member
    rcases member with ⟨group, formed, made⟩ | ⟨trend, standing, made⟩
    · exact Or.inl ⟨group, .sighted formed made⟩
    · rw [standingRow] at made
      by_cases new : trend.change = .new
      · rw [if_pos new] at made
        cases made
      · rw [if_neg new] at made
        by_cases change : trend.change = .surged
        · rw [if_pos change] at made
          cases made
          exact Or.inl ⟨[trend], .surged standing change⟩
        · rw [if_neg change, Option.ite_none_right_eq_some] at made
          exact Or.inr ⟨trend, standing, new, change, made.1, (Option.some.inj made.2).symm⟩
  · intro found
    rcases found with ⟨trends, advises⟩ | ⟨trend, standing, new, change, noisy, own⟩
    · cases advises with
      | sighted formed made => exact Or.inl ⟨trends, formed, made⟩
      | surged standing change =>
        refine Or.inr ⟨_, standing, ?_⟩
        rw [standingRow, if_neg (by rw [change]; decide), if_pos change]
    · refine Or.inr ⟨trend, standing, ?_⟩
      rw [standingRow, if_neg new, if_neg change, if_pos noisy, own]

end

/-- The source that a row names first. -/
def anchorSource (trends : List SignatureTrend) : Text :=
  (trends.head?.map SignatureTrend.source).getD []

def selectionOf (scopes : Option Scopes) (trends : List SignatureTrend) : Selection :=
  advisedSelection (anchorSource trends) scopes ((groupUnits trends).drop 1)

/-- The moment that a row's command reads from. -/
def readFrom (report : LogTrendReport) (trends : List SignatureTrend)
    (row : LogRecommendation) : Int :=
  if row.kind = .surge then report.previousStart
  else (trends.head?.map SignatureTrend.firstSeen).getD 0

/-- A surge is counted over both windows, a first sighting over the current one. -/
def countedFrom (report : LogTrendReport) (row : LogRecommendation) : Int :=
  if row.kind = .surge then report.previousStart else report.windowStart

def leads : List Text :=
  [text "Read the source: ", text "Read the whole incident: ", text "Compare the two windows: "]

/-- The command reads the journals that the sources of the row are read from, and no others, from
its earliest line on. -/
structure ReadsItsRows (sources : List LogSource) (scopes : Option Scopes) (report : LogTrendReport)
    (trends : List SignatureTrend) (row : LogRecommendation) : Prop where
  written : ∃ lead ∈ leads,
    row.action = lead ++ (selectionOf scopes trends).command
      (printedSecond (readFrom report trends row))
  reads : ∀ trend ∈ trends, ∀ source ∈ sources, storedSourceName source = some trend.source →
    ∀ origin, source.origin = some origin → (selectionOf scopes trends).Reads origin
  only : (∀ trend ∈ trends, ∃ source ∈ sources, storedSourceName source = some trend.source) →
    ∀ origin, (selectionOf scopes trends).Reads origin → ∃ trend ∈ trends, ∃ source ∈ sources,
      storedSourceName source = some trend.source ∧ source.origin = some origin
  since : ∀ trend ∈ trends, ∀ logged, trend.firstSeen ≤ logged → countedFrom report row ≤ logged →
    printedSecond (readFrom report trends row) * 1000000 ≤ logged

/-- The moments whose whole second is no later than they are. -/
def InEra (moment : Int) : Prop := 0 ≤ moment ∧ moment < 2 ^ 33 * 1000000

/-- The sources of a row are journals, all of them the kernel's or none, and those of the manager
that services.yaml says last of the first one; and before 1970 or after 2242 the second printed is
no later than the lines counted. -/
structure Addressed (file : ServicesFile) (sources : List LogSource) (report : LogTrendReport)
    (trends : List SignatureTrend) (row : LogRecommendation) : Prop where
  journals : ∀ trend ∈ trends, ∀ source ∈ sources, storedSourceName source = some trend.source →
    source.filePath = none
  kernel : ∀ trend ∈ trends, ∀ source ∈ sources, storedSourceName source = some trend.source →
    (trend.source = text "kernel" ↔ anchorSource trends = text "kernel")
  manager : ∀ trend ∈ trends, ∀ source ∈ sources, storedSourceName source = some trend.source →
    trend.source ≠ text "kernel" → source.user = lastUser file (anchorSource trends)
  second : ¬ InEra (readFrom report trends row) → ∀ trend ∈ trends,
    printedSecond (readFrom report trends row) * 1000000 ≤ max trend.firstSeen (countedFrom report row)

theorem filter_given {value : Option Text} {name : Text} (given : isGiven value = true)
    (same : value = some name) : value.filter (· ≠ []) = some name := by
  rw [same] at given ⊢
  exact Option.filter_eq_some_iff.mpr ⟨rfl, given⟩

theorem storedSourceName_cases {source : LogSource} {name : Text}
    (stored : storedSourceName source = some name) :
    source.journalUnit = some name ∨ ∃ path, source.filePath = some path := by
  rw [storedSourceName] at stored
  by_cases journal : (decide (source.type = text "journalctl") && isGiven source.unit) = true
  · rw [if_pos journal] at stored
    obtain ⟨type, given⟩ := (Bool.and_eq_true _ _).mp journal
    rw [LogSource.journalUnit, if_pos (of_decide_eq_true type)]
    exact Or.inl (filter_given given stored)
  · rw [if_neg journal, Option.ite_none_right_eq_some] at stored
    obtain ⟨type, given⟩ := (Bool.and_eq_true _ _).mp stored.1
    obtain ⟨path, found, _⟩ := (Option.any_eq_true _ _).mp given
    rw [LogSource.filePath, if_pos (of_decide_eq_true type)]
    exact Or.inr ⟨path, filter_given given found⟩

section

variable {file : ServicesFile} {anchor name : Text} {others : List Text} {source : LogSource}

theorem advisedSelection_reads (stored : storedSourceName source = some name)
    (named : name ∈ anchor :: others) : (∀ origin, source.origin = some origin →
      (advisedSelection anchor (some (logSourceScopes file)) others).Reads origin) ↔
      source.filePath = none ∧ (name = text "kernel" ↔ anchor = text "kernel") ∧
        (name ≠ text "kernel" → source.user = lastUser file anchor) := by
  rw [advisedSelection, Option.getD_some, logSourceScopes_get]
  rcases storedSourceName_cases stored with journal | ⟨path, file_⟩
  · obtain ⟨noFile, origin, _⟩ := LogSource.of_journalUnit journal
    rw [origin, journalOf]
    simp only [Option.some.injEq, forall_eq', noFile, true_and]
    by_cases kernel : name = text "kernel"
    · rw [if_pos kernel]
      by_cases first : anchor = text "kernel"
      · rw [if_pos first]
        simp [Selection.Reads, kernel, first]
      · rw [if_neg first]
        simp [Selection.Reads, kernel, first]
    · rw [if_neg kernel]
      by_cases first : anchor = text "kernel"
      · rw [if_pos first]
        simp [Selection.Reads, kernel, first]
      · rw [if_neg first]
        simp only [Selection.Reads, true_and, kernel, first]
        exact ⟨fun both _ => both.1.symm, fun same => ⟨(same kernel).symm, named⟩⟩
  · obtain ⟨_, origin, _⟩ := LogSource.of_filePath file_
    rw [origin, file_]
    simp [Selection.Reads]

end

section

variable {wording : Advice.Wording} {report : LogTrendReport}
  {declaredNoise : Option (List (Text × Text))} {scopes : Option Scopes}
  {related : Option Relations} {trends : List SignatureTrend} {row : LogRecommendation}

theorem advises_command (advises : Advises wording report declaredNoise scopes related trends row) :
    ∃ anchor claimed, trends = anchor :: claimed ∧ ∃ lead ∈ leads, row.action = lead ++
      Advice.journalCommand anchor.source (readFrom report trends row) scopes
        ((groupUnits trends).drop 1) := by
  cases advises with
  | sighted formed made =>
    cases trends with
    | nil => cases made
    | cons anchor claimed =>
      refine ⟨anchor, claimed, rfl, ?_⟩
      cases claimed with
      | nil =>
        cases made
        exact ⟨text "Read the source: ", by decide, rfl⟩
      | cons other rest =>
        cases made
        exact ⟨text "Read the whole incident: ", by decide, rfl⟩
  | surged standing change => exact ⟨_, [], rfl, text "Compare the two windows: ", by decide, rfl⟩

variable {file : ServicesFile} {sources : List LogSource}

theorem advised_written (advises : Advises wording report declaredNoise scopes related trends row) :
    ∃ lead ∈ leads, row.action = lead ++ (selectionOf scopes trends).command
      (printedSecond (readFrom report trends row)) := by
  obtain ⟨anchor, claimed, shape, lead, member, action⟩ := advises_command advises
  refine ⟨lead, member, ?_⟩
  rw [action, journalCommand_selection, selectionOf, shape]
  rfl

theorem trend_named {anchor : SignatureTrend} {claimed : List SignatureTrend}
    {trend : SignatureTrend} (member : trend ∈ anchor :: claimed) :
    trend.source ∈ anchor.source :: (groupUnits (anchor :: claimed)).drop 1 := by
  rw [← groupUnits_head]
  exact mem_groupUnits.mpr ⟨trend, member, rfl⟩

theorem selection_named {anchor : SignatureTrend} {claimed : List SignatureTrend} {user : Bool}
    {unit : Text} (read : (selectionOf scopes (anchor :: claimed)).Reads (.journal user unit)) :
    user = (selectionOf scopes (anchor :: claimed)).user ∧ ∃ trend ∈ anchor :: claimed,
      trend.source = unit := by
  obtain ⟨plain, same, named⟩ := read
  refine ⟨same.symm, ?_⟩
  rw [selectionOf, advisedSelection] at plain named
  by_cases kernel : anchorSource (anchor :: claimed) = text "kernel"
  · rw [if_pos kernel] at plain
    cases plain
  · rw [if_neg kernel] at named
    change unit ∈ anchor.source :: _ at named
    rw [← groupUnits_head] at named
    exact mem_groupUnits.mp named

theorem reads_only {anchor : SignatureTrend} {claimed : List SignatureTrend}
    (reads : ∀ trend ∈ anchor :: claimed, ∀ source ∈ sources,
      storedSourceName source = some trend.source →
      ∀ origin, source.origin = some origin → (selectionOf scopes (anchor :: claimed)).Reads origin)
    (declared : ∀ trend ∈ anchor :: claimed, ∃ source ∈ sources,
      storedSourceName source = some trend.source)
    {origin : Origin} (read : (selectionOf scopes (anchor :: claimed)).Reads origin) :
    ∃ trend ∈ anchor :: claimed, ∃ source ∈ sources, storedSourceName source = some trend.source ∧
      source.origin = some origin := by
  have own : ∀ trend ∈ anchor :: claimed, ∃ source ∈ sources,
      storedSourceName source = some trend.source ∧
      source.origin = some (journalOf source.user trend.source) ∧
        (selectionOf scopes (anchor :: claimed)).Reads (journalOf source.user trend.source) := by
    intro trend member
    obtain ⟨source, inside, stored⟩ := declared trend member
    rcases storedSourceName_cases stored with journal | ⟨path, file_⟩
    · have from_ := (LogSource.of_journalUnit journal).2.1
      exact ⟨source, inside, stored, from_, reads trend member source inside stored _ from_⟩
    · exact absurd (reads trend member source inside stored _ (LogSource.of_filePath file_).2.1) id
  cases origin with
  | file path => exact absurd read id
  | kernel =>
    obtain ⟨source, inside, stored, from_, shown⟩ := own anchor List.mem_cons_self
    refine ⟨anchor, List.mem_cons_self, source, inside, stored, ?_⟩
    rw [from_]
    rw [journalOf] at shown ⊢
    by_cases kernel : anchor.source = text "kernel"
    · rw [if_pos kernel]
    · rw [if_neg kernel] at shown
      exact absurd (read.symm.trans shown.1) (by decide)
  | journal user unit =>
    obtain ⟨same, trend, member, named⟩ := selection_named read
    obtain ⟨source, inside, stored, from_, shown⟩ := own trend member
    refine ⟨trend, member, source, inside, stored, ?_⟩
    rw [from_]
    rw [journalOf] at shown ⊢
    by_cases kernel : trend.source = text "kernel"
    · rw [if_pos kernel] at shown
      exact absurd (shown.symm.trans read.1) (by decide)
    · rw [if_neg kernel] at shown ⊢
      rw [named, same, shown.2.1]

theorem anchor_first {anchor : SignatureTrend} {claimed : List SignatureTrend}
    (formed : anchor :: claimed ∈ groupIncidents (undeclared report declaredNoise) related) :
    ∀ trend ∈ anchor :: claimed, anchor.firstSeen ≤ trend.firstSeen := by
  obtain ⟨first, others, shape, order⟩ := (correlate_partition related incidentWindowSeconds
    ((undeclared report declaredNoise).filter fun trend => trend.change = .new)).anchored _ formed
  obtain ⟨rfl, rfl⟩ := List.cons.inj shape
  intro trend member
  rcases List.mem_cons.mp member with own | later
  · rw [own]
  · exact firstSeen_le_of_key (order trend later).1

theorem second_in_time (advises : Advises wording report declaredNoise scopes related trends row)
    (era : InEra (readFrom report trends row)) : ∀ trend ∈ trends,
    printedSecond (readFrom report trends row) * 1000000 ≤ max trend.firstSeen
      (countedFrom report row) := by
  have printed : printedSecond (readFrom report trends row) * 1000000 ≤ readFrom report trends row :=
    opening_since_le 0 era.1 era.2
  intro trend member
  refine printed.trans ?_
  cases advises with
  | surged standing change => exact le_max_right _ _
  | sighted formed made =>
    cases trends with
    | nil => cases made
    | cons anchor claimed =>
      have kind : row.kind = .new := by
        cases claimed with
        | nil =>
          cases made
          rfl
        | cons other rest =>
          cases made
          rfl
      rw [readFrom, if_neg (by rw [kind]; decide)]
      exact (anchor_first formed trend member).trans (le_max_left _ _)

theorem readsItsRows_iff
    (advises : Advises wording report declaredNoise (some (logSourceScopes file)) related trends row) :
    ReadsItsRows sources (some (logSourceScopes file)) report trends row ↔
      Addressed file sources report trends row := by
  have written := advised_written advises
  obtain ⟨anchor, claimed, shape, _⟩ := advises_command advises
  subst shape
  have pair : ∀ trend ∈ anchor :: claimed, ∀ source, storedSourceName source = some trend.source →
      ((∀ origin, source.origin = some origin →
        (selectionOf (some (logSourceScopes file)) (anchor :: claimed)).Reads origin) ↔
          source.filePath = none ∧ (trend.source = text "kernel" ↔ anchor.source = text "kernel") ∧
            (trend.source ≠ text "kernel" → source.user = lastUser file anchor.source)) :=
    fun trend member source stored => advisedSelection_reads stored (trend_named member)
  constructor
  · intro tells
    have each := fun trend member source inside stored =>
      (pair trend member source stored).mp (tells.reads trend member source inside stored)
    exact ⟨fun trend member source inside stored => (each trend member source inside stored).1,
      fun trend member source inside stored => (each trend member source inside stored).2.1,
      fun trend member source inside stored => (each trend member source inside stored).2.2,
      fun _ trend member => tells.since trend member _ (le_max_left _ _) (le_max_right _ _)⟩
  · intro addressed
    have reads : ∀ trend ∈ anchor :: claimed, ∀ source ∈ sources,
        storedSourceName source = some trend.source → ∀ origin, source.origin = some origin →
          (selectionOf (some (logSourceScopes file)) (anchor :: claimed)).Reads origin :=
      fun trend member source inside stored => (pair trend member source stored).mpr
        ⟨addressed.journals trend member source inside stored,
          addressed.kernel trend member source inside stored,
          addressed.manager trend member source inside stored⟩
    have second : ∀ trend ∈ anchor :: claimed,
        printedSecond (readFrom report (anchor :: claimed) row) * 1000000 ≤
        max trend.firstSeen (countedFrom report row) := by
      by_cases era : InEra (readFrom report (anchor :: claimed) row)
      · exact second_in_time advises era
      · exact addressed.second era
    exact ⟨written, reads, fun declared origin read => reads_only reads declared read,
      fun trend member logged seen counted => (second trend member).trans (max_le seen counted)⟩

end

/-- The commands of the advice read what their rows came from if and only if the rows' sources are
addressed.  The rows without a command are those about noise, and the reader's own command reads the
source's journal. -/
theorem advised_journals_iff (wording : Advice.Wording) (file : ServicesFile)
    (extras : List LogSource) (report : LogTrendReport)
    (declaredNoise : Option (List (Text × Text))) (related : Option Relations) :
    ((∀ trends row, Advises wording report declaredNoise (some (logSourceScopes file)) related
      trends row →
        ReadsItsRows (composedLogSources file extras)
          (some (logSourceScopes file)) report trends row) ↔
      ∀ trends row, Advises wording report declaredNoise
        (some (logSourceScopes file)) related trends row →
        Addressed file (composedLogSources file extras) report trends row) ∧
    (∀ row, row ∈ recommend wording report declaredNoise (some (logSourceScopes file)) related ↔
      (∃ trends, Advises wording report declaredNoise (some (logSourceScopes file)) related
        trends row) ∨
        ∃ trend ∈ undeclared report declaredNoise, trend.change ≠ .new ∧ trend.change ≠ .surged ∧
          isNoiseCandidate trend report.confidence = true ∧ row = noiseRecommendation wording trend) ∧
    ∀ source ∈ composedLogSources file extras, ∀ unit, source.journalUnit = some unit → ∀ origin,
      (readSelection unit source.user).Reads origin ↔ source.origin = some origin := by
  refine ⟨?_, mem_recommend wording report declaredNoise (some (logSourceScopes file)) related, ?_⟩
  · exact forall_congr' fun _ => forall_congr' fun _ => forall_congr' fun advises =>
      readsItsRows_iff advises
  · intro source _ unit journal origin
    rw [readSelection_reads, (LogSource.of_journalUnit journal).2.1, Option.some.injEq, eq_comm]

def backupTrend : SignatureTrend where
  signature := text "snapshot failed"
  alertTitle := text "Log error: backup.service — snapshot failed"
  source := text "backup.service"
  severity := .error
  sample := text "snapshot failed"
  current := 1
  previous := 0
  total := 1
  firstSeen := 1700000000000000
  lastSeen := 1700000000000000
  change := .new
  ratio := none

def backupReport : LogTrendReport where
  windowDays := 7
  windowStart := 1699900000000000
  previousStart := 1699300000000000
  generatedAt := 1700500000000000
  confidence := .high
  signatures := [backupTrend]
  sources := []
  coverage := ⟨0, 0, 0, 0⟩
  truncated := false
  groupsRead := 1

/-- A unit of the user's manager that only config.yaml names. -/
def backupSource : LogSource :=
  { name := text "backup", type := text "journalctl", unit := some (text "backup.service"), path := none
    jsonFormat := false, user := true, severityFilter := text "error" }

/-- Its rows are read with `--user`, and the command advised reads the system's journal. -/
theorem user_unit_read_from_system :
    ¬ ∀ (wording : Advice.Wording) (file : ServicesFile) (extras : List LogSource)
    (report : LogTrendReport) (declaredNoise : Option (List (Text × Text)))
    (related : Option Relations) trends row,
      Advises wording report declaredNoise (some (logSourceScopes file)) related trends row →
        ReadsItsRows (composedLogSources file extras)
          (some (logSourceScopes file)) report trends row := by
  intro claimed
  let wording : Advice.Wording :=
    ⟨⟨fun value _ => value, [], fun _ => []⟩, fun _ => [], fun _ => [], fun _ => [], fun _ => [],
      fun _ => [], id⟩
  let file : ServicesFile := ⟨[], List.nodup_nil⟩
  have advises : Advises wording backupReport none (some (logSourceScopes file)) none [backupTrend]
      (newRecommendation wording (some (logSourceScopes file)) backupTrend) :=
    .sighted (List.mem_singleton_self _) rfl
  have reads :=
    (claimed wording file [backupSource] backupReport none none _ _ advises).reads backupTrend
    (List.mem_singleton_self _) backupSource (List.mem_singleton_self _) (by decide)
    (.journal true (text "backup.service")) (by decide)
  exact absurd reads.2.1 (by decide)

end SysadminAssistant.Monitor.Sources
