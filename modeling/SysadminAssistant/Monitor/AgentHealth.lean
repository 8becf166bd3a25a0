import SysadminAssistant.Monitor.AgentLadder
import SysadminAssistant.Monitor.Services

namespace SysadminAssistant.Monitor

open Python SysadminAssistant.Core Library

/-! The two families on that ladder: agents that have not run
(`sysadmin/monitor/stalls.py`) and agents whose runs fail
(`sysadmin/monitor/failures.py`). -/

/-- `datetime.isoformat`, and the estate library's cut. -/
structure Rendering where
  isoformat : Int → Text
  truncateAtWord : Text → Nat → Text

section Families

variable (rendering : Rendering)

def instantText (instant : Option Int) : Text := instant.elim (text "None") rendering.isoformat

def instantJson (instant : Option Int) : Json := .nullable (instant.map rendering.isoformat)

def numberJson (value : Option ℚ) : Json := value.elim .null fun number => .float (.finite number)

/-- The keys both families end their details with. -/
def ladderDetails (alert : LadderAlert) (kind : String) : List (Text × Json) :=
  [(text "kind", .str (text kind)),
    (text "rung", .str alert.severity.name),
    (text "escalated", .bool (alert.step = .escalate)),
    (text "first_alerted_at", instantJson rendering alert.firstAlertedAt),
    (text "hours_since_first_alert", numberJson (alert.hoursSinceFirstAlert.map (roundPlaces · 2))),
    (text "escalate_after_hours", .float alert.escalateAfterHours)]

def stallMessage (alert : LadderAlert) : Text :=
  let since := alert.agentName ++ text " has not run since " ++
    instantText rendering alert.entry.lastRunAt
  let base := text "The " ++ alert.agentName ++ text " agent has not run since " ++
    instantText rendering alert.entry.lastRunAt
  match alert.step, alert.hoursSinceFirstAlert, alert.entry.stallReason with
  | .escalate, some hours, _ =>
    text "Still stalled " ++ humaniseHours hours ++ text " after the first warning — " ++ since
  | _, _, some reason => if reason = [] then base else base ++ text " — " ++ reason
  | _, _, none => base

def stalls : LadderFamily where
  titleSuffix := text "agent stalled"
  detailKey := text "stalled_agent"
  ladder := warningThenCritical
  message := stallMessage rendering
  details alert :=
    [(text "last_run_at", instantJson rendering alert.entry.lastRunAt),
      (text "seconds_since_last_run", numberJson alert.entry.secondsSinceLastRun),
      (text "interval_seconds", .int alert.entry.intervalSeconds)] ++
      ladderDetails rendering alert "agent_stall"
  details_own alert := by
    simp only [ladderDetails, List.cons_append, List.nil_append, List.map_cons, List.map_nil]
    decide

def errorChars : Nat := 160

def shortError (error : Option Text) : Option Text :=
  (error.map fun value => Text.strip (Text.collapseRuns CodePoint.isSpace (text " ") false value)).bind
    fun flattened => if flattened = [] then none
      else some (rendering.truncateAtWord flattened errorChars)

def failureMessage (alert : LadderAlert) : Text :=
  let runs := plural alert.entry.consecutiveFailures "run"
  let base := match alert.step, alert.hoursSinceFirstAlert with
    | .escalate, some hours =>
      text "Still failing " ++ humaniseHours hours ++ text " after the first warning — " ++
        alert.agentName ++ text " has now failed " ++ runs ++ text " in a row"
    | _, _ => text "The " ++ alert.agentName ++ text " agent has failed " ++ runs ++ text " in a row"
  match shortError rendering alert.entry.lastError with
  | some error => if error = [] then base else base ++ text ": " ++ error
  | none => base

def failures (failureThreshold : Int) : LadderFamily where
  titleSuffix := text "agent failing"
  detailKey := text "failing_agent"
  ladder := warningThenCritical
  message := failureMessage rendering
  details alert :=
    [(text "consecutive_failures", .int alert.entry.consecutiveFailures),
      (text "failure_threshold", .int failureThreshold),
      (text "last_error", .nullable (shortError rendering alert.entry.lastError)),
      (text "last_run_at", instantJson rendering alert.entry.lastRunAt)] ++
      ladderDetails rendering alert "agent_failure"
  details_own alert := by
    simp only [ladderDetails, List.cons_append, List.nil_append, List.map_cons, List.map_nil]
    decide

end Families

/-- Whether an entry counts as a failing agent; `stalled` wins outright. -/
def isFailing (failureThreshold : Int) (entry : AgentEntry) : Bool :=
  entry.enabled && !entry.stalled && decide (failureThreshold ≤ entry.consecutiveFailures)

theorem isFailing_not_stalled {threshold : Int} {entry : AgentEntry}
    (failing : isFailing threshold entry = true) : entry.stalled = false := by
  simp only [isFailing, Bool.and_eq_true, Bool.not_eq_true'] at failing
  exact failing.1.2

def stallTitle (name : Text) : Text := name ++ text " " ++ text "agent stalled"

def failureTitle (name : Text) : Text := name ++ text " " ++ text "agent failing"

theorem stallTitle_ne_failureTitle (left right : Text) : stallTitle left ≠ failureTitle right := by
  intro same
  have suffix := List.append_inj_right' same (by decide)
  revert suffix
  decide

/-! Both self-monitoring families off one snapshot (`_check_agent_health` of
`sysadmin/monitor/agent.py`). -/

/-- What one call reads: the configuration, `agent_runs` newest first, and its clocks;
`interrupted` says that one of its queries or writes raises. -/
structure HealthCall where
  config : AppConfig
  history : List AgentRun
  interrupted : Bool
  reportedAt : Int
  livenessClock : CheckClock
  failuresClock : CheckClock

namespace HealthCall

variable (call : HealthCall)

def gap : PyFloat := call.config.selfMonitor.escalateAfterHours

def threshold : Int := call.config.selfMonitor.failureAlertThreshold

def report? : Option (List AgentEntry) := buildSelfReport call.config call.history call.reportedAt

/-- An exception leaves the call: a query or a write raises, or the report overflows. -/
def raises : Bool :=
  call.config.selfMonitor.enabled && (call.interrupted || call.report?.isNone)

end HealthCall

section Checks

variable (rendering : Rendering) (call : HealthCall) (report : List AgentEntry)
  (active : List Alert) (table : AlertTable)

def checkAgentLiveness : Option AlertTable :=
  checkFamily (stalls rendering) sysadmin call.livenessClock call.gap
    (report.filter AgentEntry.stalled) active table

def checkAgentFailures : Option AlertTable :=
  checkFamily (failures rendering call.threshold) sysadmin call.failuresClock call.gap
    (report.filter (isFailing call.threshold)) active table

end Checks

/-- `_check_agent_health`; `none` is an exception. -/
def checkAgentHealth (rendering : Rendering) (table : AlertTable) (call : HealthCall) :
    Option AlertTable :=
  if call.config.selfMonitor.enabled then do
    let report ← if call.interrupted then none else call.report?
    let active := activeAlerts table sysadmin
    let checked ← checkAgentLiveness rendering call report active table
    checkAgentFailures rendering call report active checked
  else some table

theorem report_names_nodup {call : HealthCall} {report : List AgentEntry}
    (made : call.report? = some report) : (report.map AgentEntry.name).Nodup := by
  rw [buildSelfReport_names made]
  decide

theorem report_named {call : HealthCall} {report : List AgentEntry}
    (made : call.report? = some report) : ∀ entry ∈ report, entry.name ≠ [] := by
  intro entry member
  have image : entry.name ∈ report.map AgentEntry.name := List.mem_map.mpr ⟨entry, member, rfl⟩
  rw [buildSelfReport_names made] at image
  intro nameless
  rw [nameless] at image
  revert image
  decide

/-! ## The rows of the two families -/

/-- A row that the family finds under one agent's name, and no other family finds. -/
structure RowOf (title : Text → Text) (own other : Text) (name : Text) (row : Alert) : Prop where
  titled : row.title = title name
  found : detailName own row.details = some name
  hidden : detailName other row.details = none

def StallRow : Text → Alert → Prop :=
  RowOf stallTitle (text "stalled_agent") (text "failing_agent")

def FailureRow : Text → Alert → Prop :=
  RowOf failureTitle (text "failing_agent") (text "stalled_agent")

/-- The state that the calls keep: every open row is one family's, none is at the
quietest rung, and no agent is in both families. -/
structure HealthRows (table : AlertTable) : Prop where
  owned : ∀ row ∈ activeAlerts table sysadmin,
    (∃ name, StallRow name row) ∨ ∃ name, FailureRow name row
  audible : ∀ row ∈ activeAlerts table sysadmin, row.severity ≠ .info
  exclusive : ∀ name, table.openRow? (sysadmin, stallTitle name) = none ∨
    table.openRow? (sysadmin, failureTitle name) = none

theorem mem_activeAlerts {table : AlertTable} {agent : Text} {row : Alert} :
    row ∈ activeAlerts table agent ↔ table.openRow? (agent, row.title) = some row := by
  rw [Table.openRow?_eq_some, activeAlerts, List.mem_filter]
  constructor
  · intro listed
    exact ⟨listed.1, by rw [← of_decide_eq_true listed.2]; rfl⟩
  · intro standing
    exact ⟨standing.1, decide_eq_true (congrArg Prod.fst standing.2)⟩

theorem active_titles_nodup (table : AlertTable) (agent : Text) :
    ((activeAlerts table agent).map Alert.title).Nodup := by
  have distinct : (activeAlerts table agent).Nodup := (table.unique.of_map _).filter _
  refine distinct.map_on ?_
  intro left inLeft right inRight same
  have leftOpen := mem_activeAlerts.mp inLeft
  rw [same] at leftOpen
  exact Option.some.inj (leftOpen.symm.trans (mem_activeAlerts.mp inRight))

private theorem listed_titles (family : LadderFamily) {active : List Alert}
    (titles : ∀ row ∈ active, ∀ name,
      detailName family.detailKey row.details = some name ↔ row.title = family.title name) :
    (((active.filterMap fun alert => (detailName family.detailKey alert.details).map
      fun name => (name, alert)).map Prod.fst).map family.title).Sublist (active.map Alert.title) := by
  induction active with
  | nil => exact .refl _
  | cons row rest ih =>
    have later := ih fun other member => titles other (List.mem_cons_of_mem _ member)
    cases named : detailName family.detailKey row.details with
    | none => simpa [named] using later.cons row.title
    | some name =>
      have title := (titles row (by simp) name).mp named
      simpa [named, title] using later

theorem holds_of_titles (family : LadderFamily) {agent : Text} {table : AlertTable}
    (titles : ∀ row ∈ activeAlerts table agent, ∀ name,
      detailName family.detailKey row.details = some name ↔ row.title = family.title name) :
    Holds family agent (familyRows family (activeAlerts table agent)) table := by
  let listed := (activeAlerts table agent).filterMap fun alert =>
    (detailName family.detailKey alert.details).map fun name => (name, alert)
  have mem_listed : ∀ name row, (name, row) ∈ listed ↔
      table.openRow? (agent, family.title name) = some row := by
    intro name row
    simp only [listed, List.mem_filterMap, Option.map_eq_some_iff, Prod.mk.injEq]
    constructor
    · intro found
      obtain ⟨alert, member, other, named, same, rfl⟩ := found
      rw [← same, ← (titles alert member other).mp named]
      exact mem_activeAlerts.mp member
    · intro standing
      have title : row.title = family.title name :=
        congrArg Prod.snd (Table.openRow?_eq_some.mp standing).2
      have member : row ∈ activeAlerts table agent := mem_activeAlerts.mpr (title ▸ standing)
      exact ⟨row, member, name, (titles row member name).mpr title, rfl, rfl⟩
  have distinct : (listed.map Prod.fst).Nodup :=
    ((active_titles_nodup table agent).sublist (listed_titles family titles)).of_map
  intro name
  cases standing : table.openRow? (agent, family.title name) with
  | some row => exact Dict.get?_ofEntries distinct ((mem_listed name row).mpr standing)
  | none =>
    have absent : name ∉ listed.map Prod.fst := by
      intro member
      obtain ⟨⟨same, row⟩, inside, rfl⟩ := List.mem_map.mp member
      have found := (mem_listed same row).mp inside
      simp [standing] at found
    exact Dict.get?_ofEntries_absent absent

section Family

variable {rendering : Rendering} {threshold : Int} {table : AlertTable}

theorem stalls_titles (rows : HealthRows table) : ∀ row ∈ activeAlerts table sysadmin, ∀ name,
    detailName (stalls rendering).detailKey row.details = some name ↔
      row.title = (stalls rendering).title name := by
  intro row member name
  rcases rows.owned row member with ⟨own, stall⟩ | ⟨own, failure⟩
  · constructor
    · intro named
      rw [stall.titled, Option.some.inj (stall.found.symm.trans named)]
      rfl
    · intro titled
      rw [(stalls rendering).title_injective (titled.symm.trans stall.titled)]
      exact stall.found
  · constructor
    · intro named
      have hidden : detailName (stalls rendering).detailKey row.details = none := failure.hidden
      simp [hidden] at named
    · intro titled
      exact absurd (titled.symm.trans failure.titled) (stallTitle_ne_failureTitle _ _)

theorem failures_titles (rows : HealthRows table) : ∀ row ∈ activeAlerts table sysadmin, ∀ name,
    detailName (failures rendering threshold).detailKey row.details = some name ↔
      row.title = (failures rendering threshold).title name := by
  intro row member name
  rcases rows.owned row member with ⟨own, stall⟩ | ⟨own, failure⟩
  · constructor
    · intro named
      have hidden : detailName (failures rendering threshold).detailKey row.details = none :=
        stall.hidden
      simp [hidden] at named
    · intro titled
      exact absurd (stall.titled.symm.trans titled) (stallTitle_ne_failureTitle _ _)
  · constructor
    · intro named
      rw [failure.titled, Option.some.inj (failure.found.symm.trans named)]
      rfl
    · intro titled
      rw [(failures rendering threshold).title_injective (titled.symm.trans failure.titled)]
      exact failure.found

theorem WrittenFor.details {family : LadderFamily} {agent : Text} {clock : CheckClock} {name : Text}
    {row : Alert} (written : WrittenFor family agent clock name row) :
    ∃ due : LadderAlert, due.agentName = name ∧ row.details = (family.draft due).details ∧
      row.title = family.title name ∧ row.createdAt = clock.stamp := by
  obtain ⟨due, rfl, same⟩ := written
  exact ⟨due, rfl, congrArg Alert.details same, congrArg Alert.title same,
    congrArg Alert.createdAt same⟩

private theorem hidden_key {own other : Text} {name : Text} {rest : List (Text × Json)}
    (absent : other ∉ own :: rest.map Prod.fst) :
    detailName other (Dict.ofEntries ((own, .str name) :: rest)) = none := by
  have missing := @Dict.get?_ofEntries_absent _ _ _ ((own, Json.str name) :: rest) other absent
  simp only [detailName, missing]

theorem stallRow_of_written {agent : Text} {clock : CheckClock} {name : Text} {row : Alert}
    (named : name ≠ []) (written : WrittenFor (stalls rendering) agent clock name row) :
    StallRow name row := by
  obtain ⟨due, same, details, title, _⟩ := written.details
  refine ⟨title, ?_, ?_⟩
  · rw [details, ← same]
    exact detailName_draft (stalls rendering) (same ▸ named)
  · rw [details]
    apply hidden_key
    simp only [stalls, ladderDetails, List.cons_append, List.nil_append, List.map_cons, List.map_nil]
    decide

theorem failureRow_of_written {agent : Text} {clock : CheckClock} {name : Text} {row : Alert}
    (named : name ≠ []) (written : WrittenFor (failures rendering threshold) agent clock name row) :
    FailureRow name row := by
  obtain ⟨due, same, details, title, _⟩ := written.details
  refine ⟨title, ?_, ?_⟩
  · rw [details, ← same]
    exact detailName_draft (failures rendering threshold) (same ▸ named)
  · rw [details]
    apply hidden_key
    simp only [failures, ladderDetails, List.cons_append, List.nil_append, List.map_cons,
      List.map_nil]
    decide

end Family

/-! ## One call -/

section Call

variable {rendering : Rendering} {table : AlertTable} {call : HealthCall} {report : List AgentEntry}

theorem LadderStep.origin {family : LadderFamily} {agent : Text} {clock : CheckClock}
    {gap : PyFloat} {name : Text} {before : Option Alert} {row : Alert}
    (step : LadderStep family agent clock gap name before (some row)) :
    before = some row ∨ WrittenFor family agent clock name row ∧ row.severity ≠ .info := by
  cases step with
  | raised written rung =>
    refine Or.inr ⟨written, ?_⟩
    rw [rung]
    split <;> simp
  | held => exact Or.inl rfl
  | escalated written _ loudRung _ => exact Or.inr ⟨written, by simp [loudRung]⟩

theorem FamilyChecked.origin {family : LadderFamily} {agent : Text} {clock : CheckClock}
    {gap : PyFloat} {entries : List AgentEntry} {before after : AlertTable}
    (checked : FamilyChecked family agent clock gap entries before after) {row : Alert}
    (active : row ∈ activeAlerts after agent) : row ∈ activeAlerts before agent ∨
      ∃ entry ∈ entries, WrittenFor family agent clock entry.name row ∧ row.severity ≠ .info := by
  have here := mem_activeAlerts.mp active
  by_cases ours : ∃ name, row.title = family.title name
  · obtain ⟨name, title⟩ := ours
    by_cases listed : name ∈ entries.map AgentEntry.name
    · obtain ⟨entry, member, same⟩ := List.mem_map.mp listed
      have step := checked.present entry member
      rw [same, ← title, here] at step
      rcases step.origin with standing | written
      · exact Or.inl (mem_activeAlerts.mpr standing)
      · exact Or.inr ⟨entry, member, same ▸ written⟩
    · have gone := checked.recovered name listed
      rw [← title, here] at gone
      simp at gone
  · have kept := checked.others (agent, row.title) fun name same =>
      ours ⟨name, congrArg Prod.snd same⟩
    exact Or.inl (mem_activeAlerts.mpr (kept ▸ here))

theorem filtered_names_nodup (made : call.report? = some report) (keep : AgentEntry → Bool) :
    ((report.filter keep).map AgentEntry.name).Nodup :=
  (report_names_nodup made).sublist (List.filter_sublist.map _)

theorem filtered_named (made : call.report? = some report) (keep : AgentEntry → Bool) :
    ∀ entry ∈ report.filter keep, entry.name ≠ [] := fun entry member =>
  report_named made entry (List.mem_filter.mp member).1

/-- What both checks of one enabled call do. -/
structure BothChecked (rendering : Rendering) (call : HealthCall) (report : List AgentEntry)
    (before between after : AlertTable) : Prop where
  made : call.report? = some report
  liveness : FamilyChecked (stalls rendering) sysadmin call.livenessClock call.gap
    (report.filter AgentEntry.stalled) before between
  failing : FamilyChecked (failures rendering call.threshold) sysadmin call.failuresClock call.gap
    (report.filter (isFailing call.threshold)) between after

theorem audible_row (rows : HealthRows table) {title : Text} {row : Alert}
    (standing : table.openRow? (sysadmin, title) = some row) : row.severity ≠ .info := by
  have same : row.title = title := congrArg Prod.snd (Table.openRow?_eq_some.mp standing).2
  exact rows.audible row (mem_activeAlerts.mpr (same ▸ standing))

theorem checkAgentHealth_raises (raises : call.raises = true) :
    checkAgentHealth rendering table call = none := by
  simp only [HealthCall.raises, Bool.and_eq_true, Bool.or_eq_true, Option.isNone_iff_eq_none] at raises
  obtain ⟨enabled, interrupted | overflowed⟩ := raises
  · simp [checkAgentHealth, enabled, interrupted]
  · cases interrupted : call.interrupted <;> simp [checkAgentHealth, enabled, interrupted, overflowed]

theorem checkAgentHealth_checked (rows : HealthRows table)
    (enabled : call.config.selfMonitor.enabled = true) (returns : call.raises = false) :
    ∃ report between after, checkAgentHealth rendering table call = some after ∧
      BothChecked rendering call report table between after := by
  simp only [HealthCall.raises, enabled, Bool.true_and, Bool.or_eq_false_iff] at returns
  obtain ⟨uninterrupted, built⟩ := returns
  obtain ⟨report, made⟩ : ∃ report, call.report? = some report :=
    Option.isSome_iff_exists.mp (by simpa using built)
  obtain ⟨between, first, liveness⟩ := checkFamily_checked call.livenessClock call.gap
    (report.filter AgentEntry.stalled) rfl
    (holds_of_titles (stalls rendering) (stalls_titles rows)) (filtered_names_nodup made _)
    (filtered_named made _) fun name row standing => audible_row rows standing
  have kept : ∀ name, between.openRow? (sysadmin, failureTitle name) =
      table.openRow? (sysadmin, failureTitle name) := fun name =>
    liveness.others _ fun other same =>
      stallTitle_ne_failureTitle other name (congrArg Prod.snd same).symm
  have holds : Holds (failures rendering call.threshold) sysadmin
      (familyRows (failures rendering call.threshold) (activeAlerts table sysadmin)) between := by
    intro name
    exact (holds_of_titles _ (failures_titles rows) name).trans (kept name).symm
  obtain ⟨after, second, failing⟩ := checkFamily_checked call.failuresClock call.gap
    (report.filter (isFailing call.threshold)) rfl holds (filtered_names_nodup made _)
    (filtered_named made _) fun name row standing => audible_row rows ((kept name).symm.trans standing)
  refine ⟨report, between, after, ?_, made, liveness, failing⟩
  simp only [checkAgentHealth, enabled, if_true, uninterrupted, Bool.false_eq_true, if_false, made,
    checkAgentLiveness, checkAgentFailures, first, Option.bind_eq_bind, Option.bind_some, second]

theorem failing_name_not_stalled (made : call.report? = some report) {name : Text}
    (failing : name ∈ (report.filter (isFailing call.threshold)).map AgentEntry.name) :
    name ∉ (report.filter AgentEntry.stalled).map AgentEntry.name := by
  intro stalled
  obtain ⟨first, inFailing, firstName⟩ := List.mem_map.mp failing
  obtain ⟨second, inStalled, secondName⟩ := List.mem_map.mp stalled
  obtain ⟨firstMember, isFailing_⟩ := List.mem_filter.mp inFailing
  obtain ⟨secondMember, isStalled⟩ := List.mem_filter.mp inStalled
  have same := List.inj_on_of_nodup_map (report_names_nodup made) firstMember secondMember
    (firstName.trans secondName.symm)
  rw [← same, isFailing_not_stalled isFailing_] at isStalled
  simp at isStalled

theorem BothChecked.stall_kept {between after : AlertTable}
    (both : BothChecked rendering call report table between after) (name : Text) :
    after.openRow? (sysadmin, stallTitle name) = between.openRow? (sysadmin, stallTitle name) :=
  both.failing.others _ fun other same =>
    stallTitle_ne_failureTitle name other (congrArg Prod.snd same)

theorem BothChecked.rows {between after : AlertTable} (rows : HealthRows table)
    (both : BothChecked rendering call report table between after) : HealthRows after := by
  have origin : ∀ row ∈ activeAlerts after sysadmin,
      ((∃ name, StallRow name row) ∨ ∃ name, FailureRow name row) ∧ row.severity ≠ .info := by
    intro row active
    rcases both.failing.origin active with earlier | ⟨entry, member, written, loud⟩
    · rcases both.liveness.origin earlier with first | ⟨entry, member, written, loud⟩
      · exact ⟨rows.owned row first, rows.audible row first⟩
      · have named := filtered_named both.made _ entry member
        exact ⟨Or.inl ⟨_, stallRow_of_written named written⟩, loud⟩
    · have named := filtered_named both.made _ entry member
      exact ⟨Or.inr ⟨_, failureRow_of_written named written⟩, loud⟩
  refine ⟨fun row active => (origin row active).1, fun row active => (origin row active).2, ?_⟩
  intro name
  by_cases failing : name ∈ (report.filter (isFailing call.threshold)).map AgentEntry.name
  · have recovered := both.liveness.recovered name (failing_name_not_stalled both.made failing)
    exact Or.inl ((both.stall_kept name).trans recovered)
  · exact Or.inr (both.failing.recovered name failing)

end Call

end SysadminAssistant.Monitor
