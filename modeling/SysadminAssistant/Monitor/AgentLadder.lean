import Mathlib.Data.List.Sort
import Mathlib.Data.Prod.Lex
import SysadminAssistant.Core.Agent
import SysadminAssistant.Core.Alerts
import SysadminAssistant.Library.LocalSteps
import SysadminAssistant.Library.RaisingLoops

namespace SysadminAssistant.Monitor

open Python SysadminAssistant.Core Library

/-! The daemon's report about its own agents (`sysadmin/monitor/self_monitor.py`). -/

structure AgentSchedule where
  name : Text
  enabled : Bool
  intervalSeconds : Int

structure AgentsConfig where
  sysadminEnabled : Bool
  healthCheckIntervalSeconds : Int
  fileOrganiserEnabled : Bool
  fileOrganiserScanIntervalHours : Int
  logAggregatorEnabled : Bool
  logAggregatorPollIntervalSeconds : Int
  serviceDiscoveryEnabled : Bool
  serviceDiscoveryScanIntervalHours : Int
  estateJudgeEnabled : Bool
  estateJudgePollIntervalHours : Int
  gameDetectorEnabled : Bool
  gameDetectorPollIntervalSeconds : Int

/-- The two last fields are the validators of the configuration. -/
structure SelfMonitorConfig where
  enabled : Bool
  stallGraceMultiplier : PyFloat
  minStallGraceSeconds : Int
  recentRuns : Int
  escalateAfterHours : PyFloat
  failureAlertThreshold : Int
  gap_nonneg : escalateAfterHours.isNegative = false
  threshold_pos : 1 ≤ failureAlertThreshold

structure AppConfig where
  agents : AgentsConfig
  selfMonitor : SelfMonitorConfig

def agentSchedules (agents : AgentsConfig) : List AgentSchedule :=
  [⟨text "sysadmin", agents.sysadminEnabled, agents.healthCheckIntervalSeconds⟩,
    ⟨text "file_organiser", agents.fileOrganiserEnabled, agents.fileOrganiserScanIntervalHours * 3600⟩,
    ⟨text "log_aggregator", agents.logAggregatorEnabled, agents.logAggregatorPollIntervalSeconds⟩,
    ⟨text "service_discovery", agents.serviceDiscoveryEnabled,
      agents.serviceDiscoveryScanIntervalHours * 3600⟩,
    ⟨text "estate_judge", agents.estateJudgeEnabled, agents.estateJudgePollIntervalHours * 3600⟩,
    ⟨text "game_detector", agents.gameDetectorEnabled, agents.gameDetectorPollIntervalSeconds⟩]

/-- How long the agent may go quiet before it counts as stalled; `none` is the
`OverflowError` of an integer that no `float` holds. -/
def stallWindowSeconds (schedule : AgentSchedule) (config : SelfMonitorConfig) : Option PyFloat := do
  let interval ← PyFloat.ofInt? schedule.intervalSeconds
  let shortest ← PyFloat.ofInt? config.minStallGraceSeconds
  return (config.stallGraceMultiplier.mul interval).max shortest

/-- The failures at the head of a newest-first history, and the newest error text
among them.  A run in flight is skipped; any other status ends the streak. -/
def failureStreak : List AgentRun → Nat × Option Text
  | [] => (0, none)
  | run :: older =>
    match run.status with
    | .running => failureStreak older
    | .failed =>
      let earlier := failureStreak older
      (earlier.1 + 1, (run.error.filter fun error => error ≠ []).or earlier.2)
    | .completed => (0, none)
    | .cancelled => (0, none)

/-- One entry of the report, as far as the two alert families read it, and the moment whose
arithmetic can fail. -/
structure AgentEntry where
  name : Text
  enabled : Bool
  intervalSeconds : Int
  lastRunAt : Option Int
  secondsSinceLastRun : Option ℚ
  expectedNextRunAt : Option Int
  consecutiveFailures : Nat
  lastError : Option Text
  stalled : Bool
  stallReason : Option Text

/-- `int(window)`; no age exceeds the other two. -/
def windowText : PyFloat → Text
  | .finite value => intText (truncate value)
  | .infinite _ => text "inf"
  | .nan => text "nan"

/-- `last_run_at + timedelta(seconds=interval_seconds)`, where the agent has run. -/
def expectedNextRun (schedule : AgentSchedule) (runs : List AgentRun) : Option (Option Int) :=
  match runs.head? with
  | none => some none
  | some last => (addSeconds last.startedAt schedule.intervalSeconds).map some

/-- `summarise_agent`: `runs` is newest first.  `none` is an `OverflowError`. -/
def summariseAgent (schedule : AgentSchedule) (runs : List AgentRun) (config : SelfMonitorConfig)
    (now : Int) : Option AgentEntry := do
  let window ← stallWindowSeconds schedule config
  let expectedNextRunAt ← expectedNextRun schedule runs
  let streak := failureStreak runs
  let age := runs.head?.map fun last => totalSeconds (now - last.startedAt)
  let stalled := schedule.enabled && age.any fun seconds => exceeds seconds window
  return {
    name := schedule.name
    enabled := schedule.enabled
    intervalSeconds := schedule.intervalSeconds
    lastRunAt := runs.head?.map AgentRun.startedAt
    secondsSinceLastRun := age.map (roundPlaces · 1)
    expectedNextRunAt
    consecutiveFailures := streak.1
    lastError := streak.2
    stalled
    stallReason := if stalled then age.map fun seconds =>
        text "no run for " ++ intText (truncate seconds) ++ text "s — expected every " ++
          intText schedule.intervalSeconds ++ text "s (stall window " ++ windowText window ++ text "s)"
      else none }

/-- `history` is the whole table, newest first. -/
def loadRecentRuns (history : List AgentRun) (limit : Int) (agent : Text) : List AgentRun :=
  (history.filter fun run => run.agent = agent).take limit.toNat

def buildSelfReport (config : AppConfig) (history : List AgentRun) (now : Int) :
    Option (List AgentEntry) :=
  (agentSchedules config.agents).mapM fun schedule =>
    summariseAgent schedule (loadRecentRuns history config.selfMonitor.recentRuns schedule.name)
      config.selfMonitor now

theorem summariseAgent_eq {schedule : AgentSchedule} {runs : List AgentRun}
    {config : SelfMonitorConfig} {now : Int} {entry : AgentEntry}
    (made : summariseAgent schedule runs config now = some entry) :
    entry.name = schedule.name ∧ entry.enabled = schedule.enabled ∧
      entry.consecutiveFailures = (failureStreak runs).1 := by
  simp only [summariseAgent, Option.bind_eq_bind, Option.bind_eq_some_iff, Option.pure_def,
    Option.some.injEq] at made
  obtain ⟨window, -, expected, -, rfl⟩ := made
  exact ⟨rfl, rfl, rfl⟩

theorem buildSelfReport_names {config : AppConfig} {history : List AgentRun} {now : Int}
    {report : List AgentEntry} (made : buildSelfReport config history now = some report) :
    report.map AgentEntry.name =
      [text "sysadmin", text "file_organiser", text "log_aggregator", text "service_discovery",
        text "estate_judge", text "game_detector"] :=
  (mapM_map (fun _ _ _ summarised => (summariseAgent_eq summarised).1) made).trans rfl

/-! The ladder that stalled and failing agents share: `evaluate` of
`sysadmin/monitor/stalls.py` and `sysadmin/monitor/failures.py`, and the body that
`_check_agent_liveness` and `_check_agent_failures` have in common. -/

/-- One agent, and the rung its alert should be sitting on. -/
structure LadderAlert where
  agentName : Text
  severity : Severity
  step : Step
  entry : AgentEntry
  firstAlertedAt : Option Int
  hoursSinceFirstAlert : Option ℚ
  escalateAfterHours : PyFloat

/-- What the two families have of their own.  A row is found again by `detailKey`. -/
structure LadderFamily where
  titleSuffix : Text
  detailKey : Text
  ladder : Ladder
  message : LadderAlert → Text
  details : LadderAlert → List (Text × Json)
  details_own : ∀ alert, ((detailKey, .str alert.agentName) :: details alert).map Prod.fst |>.Nodup

namespace LadderFamily

variable (family : LadderFamily)

def title (name : Text) : Text := name ++ text " " ++ family.titleSuffix

theorem title_injective {left right : Text} (same : family.title left = family.title right) :
    left = right := by
  simp only [title, List.append_assoc] at same
  exact List.append_cancel_right same

def draft (alert : LadderAlert) : Draft where
  severity := alert.severity
  title := family.title alert.agentName
  message := family.message alert
  details := Dict.ofEntries ((family.detailKey, .str alert.agentName) :: family.details alert)

end LadderFamily

/-- `(alert.details or {}).get(key)`, when it names something. -/
def detailName (key : Text) (details : Details) : Option Text :=
  match details.get? key with
  | some (.str name) => if name = [] then none else some name
  | _ => none

theorem detailName_draft (family : LadderFamily) {alert : LadderAlert}
    (named : alert.agentName ≠ []) :
    detailName family.detailKey (family.draft alert).details = some alert.agentName := by
  have found : (family.draft alert).details.get? family.detailKey = some (.str alert.agentName) :=
    Dict.get?_ofEntries (family.details_own alert) (by simp)
  simp only [detailName, found, if_neg named]

/-- An agent's open rows of one family, keyed by the agent they are about. -/
def familyRows (family : LadderFamily) (active : List Alert) : Dict Text Alert :=
  Dict.ofEntries (active.filterMap fun alert =>
    (detailName family.detailKey alert.details).map fun name => (name, alert))

section Evaluate

variable (ladder : Ladder) (openRows : Dict Text Alert) (escalateAfterHours : PyFloat) (now : Int)

/-- The body of the loop in `evaluate`; a held fault yields nothing. -/
def evaluateEntry (entry : AgentEntry) : Option LadderAlert :=
  if entry.name = [] then none
  else
    let existing := openRows.get? entry.name
    let elapsed := existing.elim 0 fun row => hoursSince row.createdAt now
    match ladder.severityFor elapsed 0 escalateAfterHours with
    | none => none
    | some severity =>
      let step := stepFor severity (existing.map Alert.severity)
      if step = .hold then none
      else some
        { agentName := entry.name
          severity
          step
          entry
          firstAlertedAt := existing.map Alert.createdAt
          hoursSinceFirstAlert := existing.map fun _ => elapsed
          escalateAfterHours }

def loudestFirst (alert : LadderAlert) : Bool ×ₗ Text :=
  toLex (decide (alert.severity ≠ .critical), alert.agentName)

def evaluate (entries : List AgentEntry) : List LadderAlert :=
  (entries.filterMap (evaluateEntry ladder openRows escalateAfterHours now)).insertionSort
    fun left right => loudestFirst left ≤ loudestFirst right

end Evaluate

/-- The clocks of one check: the database's, the evaluator's, and the one that
stamps what is closed. -/
structure CheckClock where
  stamp : Int
  now : Int
  closedAt : Int

section Check

variable (family : LadderFamily) (agent : Text) (clock : CheckClock)

/-- One alert that is due: the quiet row is resolved before the loud one is inserted. -/
def writeDue (openRows : Dict Text Alert) (table : AlertTable) (due : LadderAlert) :
    Option AlertTable :=
  if due.step = .escalate then do
    let quietRow ← openRows.get? due.agentName
    raiseAlert (resolveAlertIds table [quietRow.id] clock.closedAt) agent clock.stamp
      (family.draft due)
  else raiseAlert table agent clock.stamp (family.draft due)

def recoveredIds (openRows : Dict Text Alert) (entries : List AgentEntry) : List Nat :=
  (openRows.entries.filter fun row => row.1 ∉ entries.map AgentEntry.name).map fun row => row.2.id

/-- `entries` are the agents in the family's state; rows of all others are resolved. -/
def checkFamily (escalateAfterHours : PyFloat) (entries : List AgentEntry) (active : List Alert)
    (table : AlertTable) : Option AlertTable := do
  let openRows := familyRows family active
  let due := evaluate family.ladder openRows escalateAfterHours clock.now entries
  let written ← due.foldlM (writeDue family agent clock openRows) table
  some (resolveAlertIds written (recoveredIds openRows entries) clock.closedAt)

end Check

/-! ## Writing what is due -/

section Write

variable {family : LadderFamily} {agent : Text} {clock : CheckClock} {openRows : Dict Text Alert}

/-- The rows the check holds on to are rows of the table, each under its own title. -/
def RowsNumbered (family : LadderFamily) (agent : Text) (openRows : Dict Text Alert)
    (table : AlertTable) : Prop :=
  ∀ name row, openRows.get? name = some row → row.id < table.rows.length ∧
    ∀ other ∈ table.rows, other.id = row.id → OpenRow.key other = (agent, family.title name)

theorem RowsNumbered.raise {table after : AlertTable} {stamp : Int} {draft : Draft}
    (numbered : RowsNumbered family agent openRows table)
    (raised : raiseAlert table agent stamp draft = some after) :
    RowsNumbered family agent openRows after := by
  intro name row found
  obtain ⟨bound, owned⟩ := numbered name row found
  have rows := Table.insert?_rows raised
  refine ⟨by rw [rows, List.length_append]; omega, ?_⟩
  intro other member same
  rw [rows] at member
  rcases List.mem_append.mp member with old | new
  · exact owned other old same
  · have fresh : other.id = table.rows.length := by rw [List.mem_singleton.mp new]; rfl
    omega

theorem RowsNumbered.resolve {table : AlertTable}
    (numbered : RowsNumbered family agent openRows table) (ids : List Nat) (at_ : Int) :
    RowsNumbered family agent openRows (resolveAlertIds table ids at_) := by
  intro name row found
  obtain ⟨bound, owned⟩ := numbered name row found
  refine ⟨by simpa [resolveAlertIds, Table.amend] using bound, ?_⟩
  intro other member same
  obtain ⟨old, inside, rfl⟩ := List.mem_map.mp member
  rw [Amendment.key_apply]
  exact owned old inside ((Amendment.ident_apply _ old).symm.trans same)

theorem RowsNumbered.resolve_other {table : AlertTable}
    (numbered : RowsNumbered family agent openRows table) {name : Text} {row : Alert}
    (found : openRows.get? name = some row) (at_ : Int) {key : Text × Text}
    (different : key ≠ (agent, family.title name)) :
    (resolveAlertIds table [row.id] at_).openRow? key = table.openRow? key := by
  rw [openRow?_resolveAlertIds]
  cases standing : table.openRow? key with
  | none => rfl
  | some other =>
    obtain ⟨member, same⟩ := Table.openRow?_eq_some.mp standing
    have distinct : other.id ≠ row.id := fun equal => different
      (same.symm.trans ((numbered name row found).2 other (List.mem_filter.mp member).1 equal))
    simp [Option.filter, distinct]

/-- All of a row but its number. -/
def unnumbered (alert : Alert) : Alert := { alert with id := 0 }

def writtenAlert (family : LadderFamily) (agent : Text) (clock : CheckClock) (due : LadderAlert) :
    Alert := unnumbered (newAlert Table.empty agent clock.stamp (family.draft due))

theorem writeDue_cases {table after : AlertTable} {due : LadderAlert}
    (written : writeDue family agent clock openRows table due = some after) :
    ∃ ready, raiseAlert ready agent clock.stamp (family.draft due) = some after ∧
      (due.step ≠ .escalate ∧ ready = table ∨ due.step = .escalate ∧
        ∃ row, openRows.get? due.agentName = some row ∧
          ready = resolveAlertIds table [row.id] clock.closedAt) := by
  simp only [writeDue] at written
  split at written
  · rename_i escalate
    simp only [Option.bind_eq_bind, Option.bind_eq_some_iff] at written
    obtain ⟨row, found, raised⟩ := written
    exact ⟨_, raised, Or.inr ⟨escalate, row, found, rfl⟩⟩
  · rename_i quiet
    exact ⟨table, written, Or.inl ⟨quiet, rfl⟩⟩

theorem writeDue_written {table after : AlertTable} {due : LadderAlert}
    (written : writeDue family agent clock openRows table due = some after) :
    (after.openRow? (agent, family.title due.agentName)).map unnumbered =
      some (writtenAlert family agent clock due) := by
  obtain ⟨ready, raised, _⟩ := writeDue_cases written
  have here : (agent, (family.draft due).title) = (agent, family.title due.agentName) := rfl
  rw [openRow?_raiseAlert raised, if_pos here]
  rfl

theorem writeDue_local : LocalStep (RowsNumbered family agent openRows) Table.openRow?
    (Option.map unnumbered) (writeDue family agent clock openRows)
    fun due key => key = (agent, family.title due.agentName) where
  preserves {before after due} numbered written := by
    obtain ⟨ready, raised, ⟨_, rfl⟩ | ⟨_, row, _, rfl⟩⟩ := writeDue_cases written
    · exact numbered.raise raised
    · exact (numbered.resolve _ _).raise raised
  frame {before after due key} numbered written outside := by
    obtain ⟨ready, raised, choice⟩ := writeDue_cases written
    have kept : after.openRow? key = ready.openRow? key := by
      rw [openRow?_raiseAlert raised, if_neg]
      exact fun same => outside same.symm
    rw [kept]
    rcases choice with ⟨_, rfl⟩ | ⟨_, row, found, rfl⟩
    · rfl
    · exact numbered.resolve_other found _ outside
  reads {left right due after} numbered agree written := by
    have moved : ∃ other, writeDue family agent clock openRows right due = some other := by
      obtain ⟨ready, raised, choice⟩ := writeDue_cases written
      have vacant := raiseAlert_vacant raised
      have same := agree _ rfl
      rcases choice with ⟨quiet, rfl⟩ | ⟨escalate, row, found, rfl⟩
      · have vacantRight : right.openRow? (agent, (family.draft due).title) = none :=
          same.symm.trans vacant
        obtain ⟨other, done⟩ := raiseAlert_enabled clock.stamp vacantRight
        exact ⟨other, by simpa [writeDue, quiet] using done⟩
      · have vacantRight : (resolveAlertIds right [row.id] clock.closedAt).openRow?
            (agent, (family.draft due).title) = none := by
          rw [openRow?_resolveAlertIds] at vacant ⊢
          rw [← vacant]
          exact congrArg _ same.symm
        obtain ⟨other, done⟩ := raiseAlert_enabled clock.stamp vacantRight
        exact ⟨other, by simpa [writeDue, escalate, found] using done⟩
    obtain ⟨other, done⟩ := moved
    refine ⟨other, done, ?_⟩
    intro key owned
    rw [owned, writeDue_written done, writeDue_written written]

end Write

/-! ## What is due -/

section Due

variable {ladder : Ladder} {openRows : Dict Text Alert} {gap : PyFloat} {now : Int}
  {entries : List AgentEntry}

theorem mem_evaluate {due : LadderAlert} : due ∈ evaluate ladder openRows gap now entries ↔
    ∃ entry ∈ entries, evaluateEntry ladder openRows gap now entry = some due := by
  rw [evaluate, List.mem_insertionSort, List.mem_filterMap]

theorem evaluateEntry_sound {entry : AgentEntry} {due : LadderAlert}
    (evaluated : evaluateEntry ladder openRows gap now entry = some due) :
    due.agentName = entry.name ∧
      (openRows.get? entry.name = none ∧ due.step = .raise ∨
        ∃ row, openRows.get? entry.name = some row ∧ due.step = .escalate) := by
  simp only [evaluateEntry] at evaluated
  split at evaluated
  · simp at evaluated
  · split at evaluated
    · simp at evaluated
    · split at evaluated
      · simp at evaluated
      · rename_i speaks
        rw [← Option.some.inj evaluated]
        refine ⟨rfl, ?_⟩
        cases standing : openRows.get? entry.name with
        | none => exact Or.inl ⟨rfl, rfl⟩
        | some row =>
          simp only [standing, Option.map_some, stepFor] at speaks ⊢
          split
          · exact Or.inr ⟨row, rfl, rfl⟩
          · rename_i held
            simp [held] at speaks

private theorem due_names (entries : List AgentEntry) :
    ((entries.filterMap (evaluateEntry ladder openRows gap now)).map LadderAlert.agentName).Sublist
      (entries.map AgentEntry.name) := by
  induction entries with
  | nil => exact .refl _
  | cons entry rest ih =>
    cases evaluated : evaluateEntry ladder openRows gap now entry with
    | none => simpa [evaluated] using ih.cons entry.name
    | some due => simpa [evaluated, (evaluateEntry_sound evaluated).1] using ih

theorem evaluate_names_nodup (ladder : Ladder) (openRows : Dict Text Alert) (gap : PyFloat)
    (now : Int) (distinct : (entries.map AgentEntry.name).Nodup) :
    ((evaluate ladder openRows gap now entries).map LadderAlert.agentName).Nodup := by
  have sorted := (List.perm_insertionSort (fun left right => loudestFirst left ≤ loudestFirst right)
    (entries.filterMap (evaluateEntry ladder openRows gap now))).map LadderAlert.agentName
  exact sorted.nodup_iff.mpr (distinct.sublist (due_names entries))

theorem evaluateEntry_unseen {entry : AgentEntry} (named : entry.name ≠ [])
    (unseen : openRows.get? entry.name = none) : ∃ due,
      evaluateEntry ladder openRows gap now entry = some due ∧
        due.severity = if reaches 0 gap then ladder.loud else ladder.quiet := by
  have rung := ladder.severityFor_zero (le_refl 0) gap
  simp only [evaluateEntry, if_neg named, unseen, Option.elim_none, rung, Option.map_none, stepFor]
  exact ⟨_, rfl, rfl⟩

def rungOf (ladder : Ladder) (gap : PyFloat) (now : Int) (row : Alert) : Severity :=
  if reaches (hoursSince row.createdAt now) gap then ladder.loud else ladder.quiet

theorem evaluateEntry_louder {entry : AgentEntry} {row : Alert} (named : entry.name ≠ [])
    (standing : openRows.get? entry.name = some row)
    (louder : (rungOf ladder gap now row).order > row.severity.order) : ∃ due,
      evaluateEntry ladder openRows gap now entry = some due ∧
        due.severity = rungOf ladder gap now row := by
  have rung := ladder.severityFor_zero (hoursSince_nonneg row.createdAt now) gap
  simp only [evaluateEntry, if_neg named, standing, Option.elim_some, rung, Option.map_some, stepFor]
  rw [rungOf] at louder
  rw [if_pos louder]
  exact ⟨_, rfl, rfl⟩

theorem evaluateEntry_held {entry : AgentEntry} {row : Alert} (named : entry.name ≠ [])
    (standing : openRows.get? entry.name = some row)
    (held : ¬ (rungOf ladder gap now row).order > row.severity.order) :
    evaluateEntry ladder openRows gap now entry = none := by
  have rung := ladder.severityFor_zero (hoursSince_nonneg row.createdAt now) gap
  simp only [evaluateEntry, if_neg named, standing, Option.elim_some, rung, Option.map_some, stepFor]
  rw [rungOf] at held
  rw [if_neg held]
  rfl

end Due

/-! ## One check of a family -/

/-- Quiet at detection, loud once the warning has stood unseen. -/
def warningThenCritical : Ladder := ⟨.warning, .critical⟩

/-- `row` is what the family inserts for `name`. -/
def WrittenFor (family : LadderFamily) (agent : Text) (clock : CheckClock) (name : Text)
    (row : Alert) : Prop :=
  ∃ due : LadderAlert, due.agentName = name ∧ unnumbered row = writtenAlert family agent clock due

/-- What one check does to the open row of an agent in the family's state. -/
inductive LadderStep (family : LadderFamily) (agent : Text) (clock : CheckClock) (gap : PyFloat)
    (name : Text) : Option Alert → Option Alert → Prop where
  | raised {row : Alert} (written : WrittenFor family agent clock name row)
      (rung : row.severity = if reaches 0 gap then .critical else .warning) :
      LadderStep family agent clock gap name none (some row)
  | held {row : Alert} : LadderStep family agent clock gap name (some row) (some row)
  | escalated {quiet loud : Alert} (written : WrittenFor family agent clock name loud)
      (quietRung : quiet.severity = .warning) (loudRung : loud.severity = .critical)
      (stood : reaches (hoursSince quiet.createdAt clock.now) gap = true) :
      LadderStep family agent clock gap name (some quiet) (some loud)

structure FamilyChecked (family : LadderFamily) (agent : Text) (clock : CheckClock) (gap : PyFloat)
    (entries : List AgentEntry) (before after : AlertTable) : Prop where
  continues : Continues before after
  others : ∀ key, (∀ name, key ≠ (agent, family.title name)) → after.openRow? key = before.openRow? key
  recovered : ∀ name, name ∉ entries.map AgentEntry.name →
    after.openRow? (agent, family.title name) = none
  present : ∀ entry ∈ entries, LadderStep family agent clock gap entry.name
    (before.openRow? (agent, family.title entry.name))
    (after.openRow? (agent, family.title entry.name))

section Checked

variable {family : LadderFamily} {agent : Text} {clock : CheckClock} {openRows : Dict Text Alert}
  {gap : PyFloat} {entries : List AgentEntry} {table : AlertTable}

/-- The rows the check holds are the open rows under the family's titles. -/
def Holds (family : LadderFamily) (agent : Text) (openRows : Dict Text Alert)
    (table : AlertTable) : Prop :=
  ∀ name, openRows.get? name = table.openRow? (agent, family.title name)

theorem Holds.numbered (holds : Holds family agent openRows table) :
    RowsNumbered family agent openRows table := by
  intro name row found
  rw [holds name] at found
  obtain ⟨opened, same⟩ := Table.openRow?_eq_some.mp found
  have member := (List.mem_filter.mp opened).1
  refine ⟨Table.ident_lt member, ?_⟩
  intro other otherMember equal
  rw [Table.ident_injective otherMember member equal, same]

theorem due_ready (holds : Holds family agent openRows table)
    {due : LadderAlert} (isDue : due ∈ evaluate family.ladder openRows gap clock.now entries) :
    ∃ after, writeDue family agent clock openRows table due = some after := by
  obtain ⟨entry, _, evaluated⟩ := mem_evaluate.mp isDue
  obtain ⟨sameName, ⟨unseen, raise⟩ | ⟨row, standing, escalate⟩⟩ := evaluateEntry_sound evaluated
  · have vacant : table.openRow? (agent, (family.draft due).title) = none := by
      rw [← unseen, ← sameName]
      exact (holds due.agentName).symm
    obtain ⟨after, done⟩ := raiseAlert_enabled clock.stamp vacant
    exact ⟨after, by simpa [writeDue, raise] using done⟩
  · rw [← sameName] at standing
    have open_ : table.openRow? (agent, (family.draft due).title) = some row := by
      rw [← standing]
      exact (holds due.agentName).symm
    have vacant : (resolveAlertIds table [row.id] clock.closedAt).openRow?
        (agent, (family.draft due).title) = none := by
      rw [openRow?_resolveAlertIds, open_]
      simp [Option.filter]
    obtain ⟨after, done⟩ := raiseAlert_enabled clock.stamp vacant
    exact ⟨after, by simpa [writeDue, escalate, standing] using done⟩

theorem writeDue_continues {after : AlertTable} {due : LadderAlert}
    (written : writeDue family agent clock openRows table due = some after) :
    Continues table after := by
  obtain ⟨ready, raised, ⟨_, rfl⟩ | ⟨_, row, _, rfl⟩⟩ := writeDue_cases written
  · exact Continues.raise raised
  · exact (Continues.resolve table _ _).trans (Continues.raise raised)

theorem write_all (clock : CheckClock) (gap : PyFloat) (holds : Holds family agent openRows table)
    (distinct : (entries.map AgentEntry.name).Nodup) : ∃ written,
    (evaluate family.ladder openRows gap clock.now entries).foldlM
        (writeDue family agent clock openRows) table = some written ∧
      (∀ due ∈ evaluate family.ladder openRows gap clock.now entries,
        (written.openRow? (agent, family.title due.agentName)).map unnumbered =
          some (writtenAlert family agent clock due)) ∧
      ∀ key, (∀ due ∈ evaluate family.ladder openRows gap clock.now entries,
        key ≠ (agent, family.title due.agentName)) → written.openRow? key = table.openRow? key := by
  have names := evaluate_names_nodup family.ladder openRows gap clock.now distinct
  have disjoint : (evaluate family.ladder openRows gap clock.now entries).Pairwise
      fun left right => ∀ key, key = (agent, family.title left.agentName) →
        ¬ key = (agent, family.title right.agentName) := by
    rw [List.Nodup, List.pairwise_map] at names
    refine names.imp ?_
    intro left right different key ofLeft ofRight
    exact different (family.title_injective (congrArg Prod.snd (ofLeft.symm.trans ofRight)))
  obtain ⟨written, ran, inside, outside⟩ := writeDue_local.run_disjoint holds.numbered disjoint
    fun due isDue => due_ready holds isDue
  refine ⟨written, ran, ?_, outside⟩
  intro due isDue
  obtain ⟨after, done, same⟩ := inside due isDue
  rw [same _ rfl, writeDue_written done]

theorem mem_recoveredIds {id : Nat} : id ∈ recoveredIds openRows entries ↔
    ∃ name row, openRows.get? name = some row ∧ name ∉ entries.map AgentEntry.name ∧ row.id = id := by
  simp only [recoveredIds, List.mem_map, List.mem_filter, decide_eq_true_eq, Prod.exists,
    Dict.get?_eq_some]
  constructor
  · intro found
    obtain ⟨name, row, ⟨stored, absent⟩, same⟩ := found
    exact ⟨name, row, stored, absent, same⟩
  · intro found
    obtain ⟨name, row, stored, absent, same⟩ := found
    exact ⟨name, row, ⟨stored, absent⟩, same⟩

theorem RowsNumbered.recovered_others (numbered : RowsNumbered family agent openRows table)
    {at_ : Int} {key : Text × Text}
    (foreign : ∀ name row, openRows.get? name = some row → name ∉ entries.map AgentEntry.name →
      key ≠ (agent, family.title name)) :
    (resolveAlertIds table (recoveredIds openRows entries) at_).openRow? key = table.openRow? key := by
  rw [openRow?_resolveAlertIds]
  cases standing : table.openRow? key with
  | none => rfl
  | some other =>
    obtain ⟨opened, same⟩ := Table.openRow?_eq_some.mp standing
    have kept : other.id ∉ recoveredIds openRows entries := by
      intro chosen
      obtain ⟨name, row, stored, absent, equal⟩ := mem_recoveredIds.mp chosen
      have owned := (numbered name row stored).2 other (List.mem_filter.mp opened).1 equal.symm
      exact foreign name row stored absent (same.symm.trans owned)
    simp [Option.filter, kept]

theorem written_row {written : AlertTable} {due : LadderAlert} {entry : AgentEntry}
    (inside : ∀ due ∈ evaluate family.ladder openRows gap clock.now entries,
      (written.openRow? (agent, family.title due.agentName)).map unnumbered =
        some (writtenAlert family agent clock due))
    (member : entry ∈ entries)
    (evaluated : evaluateEntry family.ladder openRows gap clock.now entry = some due) :
    ∃ row, written.openRow? (agent, family.title entry.name) = some row ∧
      WrittenFor family agent clock entry.name row ∧ row.severity = due.severity := by
  have sameName := (evaluateEntry_sound evaluated).1
  have image := inside due (mem_evaluate.mpr ⟨entry, member, evaluated⟩)
  obtain ⟨row, here, same⟩ := Option.map_eq_some_iff.mp image
  rw [sameName] at here
  have severity : row.severity = due.severity := congrArg Alert.severity same
  exact ⟨row, here, ⟨due, sameName, same⟩, severity⟩

theorem rungOf_louder {now : Int} {row : Alert} (audible : row.severity ≠ .info)
    (louder : (rungOf warningThenCritical gap now row).order > row.severity.order) :
    row.severity = .warning ∧ reaches (hoursSince row.createdAt now) gap = true := by
  simp only [rungOf, warningThenCritical] at louder
  split at louder
  · rename_i stood
    cases rung : row.severity <;> simp_all [Severity.order]
  · cases rung : row.severity <;> simp_all [Severity.order]

theorem checkFamily_checked (clock : CheckClock) (gap : PyFloat) (entries : List AgentEntry)
    (twoRungs : family.ladder = warningThenCritical)
    {active : List Alert} (holds : Holds family agent (familyRows family active) table)
    (distinct : (entries.map AgentEntry.name).Nodup)
    (named : ∀ entry ∈ entries, entry.name ≠ [])
    (audible : ∀ name row, table.openRow? (agent, family.title name) = some row →
      row.severity ≠ .info) :
    ∃ after, checkFamily family agent clock gap entries active table = some after ∧
      FamilyChecked family agent clock gap entries table after := by
  obtain ⟨written, ran, inside, outside⟩ := write_all clock gap holds distinct
  have numbered := run_preserves _ writeDue_local.preserves holds.numbered ran
  have continued := run_preserves (Continues table)
    (fun before stepped => before.trans (writeDue_continues stepped)) (Continues.refl table) ran
  have stepped : checkFamily family agent clock gap entries active table =
      some (resolveAlertIds written (recoveredIds (familyRows family active) entries)
        clock.closedAt) := by
    simp only [checkFamily, ran, Option.bind_eq_bind, Option.bind_some]
  refine ⟨_, stepped, continued.trans (Continues.resolve written _ _), ?_, ?_, ?_⟩
  · intro key foreign
    rw [numbered.recovered_others fun name _ _ _ => foreign name]
    exact outside key fun due _ => foreign due.agentName
  · intro name absent
    have untouched : written.openRow? (agent, family.title name) =
        table.openRow? (agent, family.title name) := by
      apply outside
      intro due isDue same
      obtain ⟨entry, member, evaluated⟩ := mem_evaluate.mp isDue
      have sameName := family.title_injective (congrArg Prod.snd same)
      rw [(evaluateEntry_sound evaluated).1] at sameName
      exact absent (List.mem_map.mpr ⟨entry, member, sameName.symm⟩)
    rw [openRow?_resolveAlertIds, untouched, ← holds name]
    cases standing : (familyRows family active).get? name with
    | none => rfl
    | some row =>
      have chosen : row.id ∈ recoveredIds (familyRows family active) entries :=
        mem_recoveredIds.mpr ⟨name, row, standing, absent, rfl⟩
      simp [Option.filter, chosen]
  · intro entry member
    rw [numbered.recovered_others fun name row _ absent same => absent
      (List.mem_map.mpr ⟨entry, member, family.title_injective (congrArg Prod.snd same)⟩)]
    have nameless := named entry member
    have standing := holds entry.name
    cases found : table.openRow? (agent, family.title entry.name) with
    | none =>
      rw [found] at standing
      obtain ⟨due, evaluated, rung⟩ := evaluateEntry_unseen nameless standing
      obtain ⟨row, here, written⟩ := written_row inside member evaluated
      rw [here]
      refine .raised written.1 ?_
      rw [written.2, rung, twoRungs]
      rfl
    | some row =>
      rw [found] at standing
      by_cases louder : (rungOf family.ladder gap clock.now row).order > row.severity.order
      · obtain ⟨due, evaluated, rung⟩ := evaluateEntry_louder nameless standing louder
        obtain ⟨loud, here, written⟩ := written_row inside member evaluated
        rw [here]
        obtain ⟨quiet, stood⟩ := rungOf_louder (audible _ _ found) (twoRungs ▸ louder)
        refine .escalated written.1 quiet ?_ stood
        rw [written.2, rung, twoRungs, rungOf, if_pos stood]
        rfl
      · have held := evaluateEntry_held nameless standing louder
        have untouched := outside (agent, family.title entry.name) (by
          intro due isDue same
          obtain ⟨other, otherMember, evaluated⟩ := mem_evaluate.mp isDue
          have sameName := family.title_injective (congrArg Prod.snd same)
          rw [(evaluateEntry_sound evaluated).1] at sameName
          have sameEntry := List.inj_on_of_nodup_map distinct member otherMember sameName
          rw [← sameEntry, held] at evaluated
          simp at evaluated)
        rw [untouched, found]
        exact .held

end Checked

end SysadminAssistant.Monitor
