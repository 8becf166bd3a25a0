import SysadminAssistant.Monitor.AgentHealthRuns

namespace SysadminAssistant.Monitor

open Python SysadminAssistant.Core Library

/-! What clears an agent-failing alert: the streak `_failure_streak` counts against
the two ways an agent's history moves. -/

/-- Runs are appended at the new end, or the startup sweep closes abandoned ones. -/
inductive NextHistory (history : List AgentRun) : List AgentRun → Prop where
  | appended (newer : List AgentRun) : NextHistory history (newer ++ history)
  | swept (instanceId : Text) : NextHistory history (closeAbandonedRuns instanceId history)

def inFlight (run : AgentRun) : Bool := run.status = .running

def failed (run : AgentRun) : Bool := run.status = .failed

/-- The runs of `next` above the newest failure of `history`. -/
def sinceLastFailure (history next : List AgentRun) : List AgentRun :=
  next.take (next.length - (history.dropWhile fun run => !failed run).length)

/-- Some newest rows, no more than the window holds, are failures and runs in flight
only, and enough of them are failures. -/
def Unbroken (window : Nat) (threshold : Int) (runs : List AgentRun) : Prop :=
  ∃ newest ≤ window, (∀ run ∈ runs.take newest, inFlight run || failed run) ∧
    threshold ≤ ((runs.take newest).filter failed).length

theorem failureStreak_prefix (runs : List AgentRun) : ∃ newest ≤ runs.length,
    (∀ run ∈ runs.take newest, inFlight run || failed run) ∧
      ((runs.take newest).filter failed).length = (failureStreak runs).1 := by
  induction runs with
  | nil => exact ⟨0, by simp, by simp, rfl⟩
  | cons run older ih =>
    obtain ⟨newest, bound, pure, count⟩ := ih
    cases status : run.status with
    | running =>
      refine ⟨newest + 1, by simpa using bound, ?_, ?_⟩
      · simpa [inFlight, status] using pure
      · simpa [failureStreak, status, failed] using count
    | failed =>
      refine ⟨newest + 1, by simpa using bound, ?_, ?_⟩
      · simpa [failed, status] using pure
      · simpa [failureStreak, status, failed] using count
    | completed => exact ⟨0, by simp, by simp, by simp [failureStreak, status]⟩
    | cancelled => exact ⟨0, by simp, by simp, by simp [failureStreak, status]⟩

theorem prefix_le_failureStreak {runs : List AgentRun} {newest : Nat}
    (pure : ∀ run ∈ runs.take newest, inFlight run || failed run) :
    ((runs.take newest).filter failed).length ≤ (failureStreak runs).1 := by
  induction runs generalizing newest with
  | nil => simp
  | cons run older ih =>
    cases newest with
    | zero => simp
    | succ newest =>
      simp only [List.take_succ_cons, List.mem_cons, forall_eq_or_imp] at pure
      have later := ih pure.2
      cases status : run.status with
      | running => simpa [failureStreak, status, failed] using later
      | failed => simpa [failureStreak, status, failed] using later
      | completed => simp [inFlight, failed, status] at pure
      | cancelled => simp [inFlight, failed, status] at pure

theorem unbroken_iff {window : Nat} {threshold : Int} {runs : List AgentRun} :
    Unbroken window threshold runs ↔ threshold ≤ (failureStreak (runs.take window)).1 := by
  constructor
  · intro unbroken
    obtain ⟨newest, bound, pure, enough⟩ := unbroken
    have shorter : (runs.take window).take newest = runs.take newest := by
      rw [List.take_take, Nat.min_eq_left bound]
    have counted := @prefix_le_failureStreak (runs.take window) newest (by rwa [shorter])
    rw [shorter] at counted
    omega
  · intro enough
    obtain ⟨newest, bound, pure, count⟩ := failureStreak_prefix (runs.take window)
    have inWindow : newest ≤ window := bound.trans (List.length_take_le _ _)
    have shorter : (runs.take window).take newest = runs.take newest := by
      rw [List.take_take, Nat.min_eq_left inWindow]
    rw [shorter] at pure count
    exact ⟨newest, inWindow, pure, by omega⟩

/-! ## The alert of an agent that was failing -/

section Recovery

variable {rendering : Rendering} {table : AlertTable} {call : HealthCall} {schedule : AgentSchedule}
  {history : List AgentRun}

namespace HealthCall

/-- The rows the report reads for one agent. -/
def agentRuns (call : HealthCall) (schedule : AgentSchedule) : List AgentRun :=
  call.history.filter fun run => run.agent = schedule.name

def window (call : HealthCall) : Nat := call.config.selfMonitor.recentRuns.toNat

def entry? (call : HealthCall) (schedule : AgentSchedule) : Option AgentEntry :=
  summariseAgent schedule (loadRecentRuns call.history call.config.selfMonitor.recentRuns
    schedule.name) call.config.selfMonitor call.reportedAt

end HealthCall

/-- An enabled agent was failing with its row open, its history has moved on, and
`call` is the next check. -/
structure WasFailing (call : HealthCall) (schedule : AgentSchedule) (history : List AgentRun)
    (table : AlertTable) : Prop where
  scheduled : schedule ∈ agentSchedules call.config.agents
  enabled : schedule.enabled = true
  monitored : call.config.selfMonitor.enabled = true
  rows : HealthRows table
  standing : (familyRow .failing schedule.name table).isSome
  failing : call.threshold ≤ (failureStreak (history.take call.window)).1
  next : NextHistory history (call.agentRuns schedule)

/-- Unless the agent is stalled, it stops being failing and its row is resolved only
by a completed run newer than the last failure that counted. -/
def ClearedOnlyBySuccess (rendering : Rendering) (call : HealthCall) (schedule : AgentSchedule)
    (history : List AgentRun) (table : AlertTable) : Prop :=
  ∀ entry, call.entry? schedule = some entry → entry.stalled = false →
    isFailing call.threshold entry = false →
      familyRow .failing schedule.name (settleHealth rendering table call) = none →
        ∃ run ∈ sinceLastFailure history (call.agentRuns schedule), run.status = .completed

theorem entry_mem_report {report : List AgentEntry} (made : call.report? = some report)
    (scheduled : schedule ∈ agentSchedules call.config.agents) :
    ∃ entry ∈ report, call.entry? schedule = some entry :=
  mapM_result made scheduled

theorem mem_failing_names {report : List AgentEntry} {entry : AgentEntry}
    (made : call.report? = some report) (member : entry ∈ report) :
    entry.name ∈ (report.filter (isFailing call.threshold)).map AgentEntry.name ↔
      isFailing call.threshold entry = true := by
  constructor
  · intro listed
    obtain ⟨other, inFailing, sameName⟩ := List.mem_map.mp listed
    obtain ⟨otherMember, failing⟩ := List.mem_filter.mp inFailing
    have same := List.inj_on_of_nodup_map (report_names_nodup made) otherMember member sameName
    rwa [← same]
  · intro failing
    exact List.mem_map.mpr ⟨_, List.mem_filter.mpr ⟨member, failing⟩, rfl⟩

theorem LadderStep.standing {family : LadderFamily} {agent : Text} {clock : CheckClock}
    {gap : PyFloat} {name : Text} {before after : Option Alert}
    (step : LadderStep family agent clock gap name before after) : after ≠ none := by
  cases step <;> simp

/-- The row and the predicate agree: a check that returns resolves the row of an agent
exactly when the agent is not failing. -/
theorem row_cleared_iff (was : WasFailing call schedule history table)
    (returns : call.raises = false) : ∃ entry, call.entry? schedule = some entry ∧
      (familyRow .failing schedule.name (settleHealth rendering table call) = none ↔
        isFailing call.threshold entry = false) := by
  obtain ⟨report, between, after, done, both⟩ :=
    @checkAgentHealth_checked rendering table call was.rows was.monitored returns
  obtain ⟨entry, member, summarised⟩ := entry_mem_report both.made was.scheduled
  have named : entry.name = schedule.name := (summariseAgent_eq summarised).1
  refine ⟨entry, summarised, ?_⟩
  rw [settleHealth, done, Option.getD_some]
  cases failing : isFailing call.threshold entry with
  | false =>
    have absent : entry.name ∉ (report.filter (isFailing call.threshold)).map AgentEntry.name := by
      rw [mem_failing_names both.made member, failing]
      simp
    have gone : familyRow .failing schedule.name after = none :=
      both.failing.recovered _ (named ▸ absent)
    simp [gone]
  | true =>
    have inFailing : entry ∈ report.filter (isFailing call.threshold) :=
      List.mem_filter.mpr ⟨member, failing⟩
    have standing : familyRow .failing entry.name after ≠ none :=
      (both.failing.present _ inFailing).standing
    rw [named] at standing
    simp [standing]

theorem isFailing_entry {entry : AgentEntry} (summarised : call.entry? schedule = some entry)
    (enabled : schedule.enabled = true) (running : entry.stalled = false) :
    isFailing call.threshold entry = true ↔
      Unbroken call.window call.threshold (call.agentRuns schedule) := by
  obtain ⟨-, sameEnabled, streak⟩ := summariseAgent_eq summarised
  have isEnabled : entry.enabled = true := sameEnabled.trans enabled
  rw [unbroken_iff]
  simp only [isFailing, isEnabled, running, Bool.not_false, Bool.and_self, Bool.true_and,
    decide_eq_true_eq, streak]
  rfl

/-- Exactly when only a success clears the alert. -/
theorem clearedOnlyBySuccess_iff (was : WasFailing call schedule history table) :
    ClearedOnlyBySuccess rendering call schedule history table ↔
      (∃ run ∈ sinceLastFailure history (call.agentRuns schedule), run.status = .completed) ∨
        (call.entry? schedule).any AgentEntry.stalled = true ∨
        Unbroken call.window call.threshold (call.agentRuns schedule) ∨ call.raises = true := by
  constructor
  · intro only
    cases raises : call.raises with
    | true => exact Or.inr (Or.inr (Or.inr rfl))
    | false =>
      obtain ⟨entry, summarised, cleared⟩ :=
        @row_cleared_iff rendering table call schedule history was raises
      cases running : entry.stalled with
      | true => exact Or.inr (Or.inl (by simp [summarised, running]))
      | false =>
        cases failing : isFailing call.threshold entry with
        | true =>
          have unbroken := (isFailing_entry summarised was.enabled running).mp failing
          exact Or.inr (Or.inr (Or.inl unbroken))
        | false => exact Or.inl (only entry summarised running failing (cleared.mpr failing))
  · intro condition entry summarised running stopped gone
    rcases condition with success | stalled | unbroken | raises
    · exact success
    · simp [summarised, running] at stalled
    · have failing := (isFailing_entry summarised was.enabled running).mpr unbroken
      simp [stopped] at failing
    · have raised := @checkAgentHealth_raises rendering table call raises
      rw [settleHealth, raised, Option.getD_none] at gone
      have standing := was.standing
      simp [gone] at standing

end Recovery

/-! ## A restart between two failures and the next run -/

/-- The log aggregator failed twice, and a third run is in flight. -/
def failingHistory : List AgentRun :=
  [⟨text "log_aggregator", .running, sampleInstant + 120000000, none, none, some (text "one")⟩,
    ⟨text "log_aggregator", .failed, sampleInstant + 60000000, none, none, none⟩,
    ⟨text "log_aggregator", .failed, sampleInstant, none, none, none⟩]

def historyCall (history : List AgentRun) (now : Int) : HealthCall where
  config := (stalledCall (.finite 24) dayGap_valid).config
  history
  interrupted := false
  reportedAt := now
  livenessClock := ⟨now, now, now⟩
  failuresClock := ⟨now, now, now⟩

def beforeRestart : HealthCall := historyCall failingHistory (sampleInstant + 130000000)

/-- The daemon dies, and its successor sweeps the run in flight. -/
def afterRestart : HealthCall :=
  historyCall (closeAbandonedRuns (text "two") failingHistory) (sampleInstant + 140000000)

def logAggregatorSchedule : AgentSchedule := ⟨text "log_aggregator", true, 60⟩

def tableBeforeRestart : AlertTable :=
  settleHealth sampleRendering Table.empty beforeRestart

theorem tableBeforeRestart_rows : HealthRows tableBeforeRestart :=
  (checkAgentHealth_step (healthRows_of_closed rfl) beforeRestart).2.1

theorem restart_wasFailing :
    WasFailing afterRestart logAggregatorSchedule failingHistory tableBeforeRestart where
  scheduled := by simp [afterRestart, historyCall, stalledCall, sampleAgents, agentSchedules,
    logAggregatorSchedule]
  enabled := rfl
  monitored := rfl
  rows := tableBeforeRestart_rows
  standing := by decide +kernel
  failing := by decide
  next := .swept (text "two")

/-- The sweep ends the streak, and the alert is resolved with no run completed. -/
theorem restart_clears_without_success :
    ¬ ClearedOnlyBySuccess sampleRendering afterRestart logAggregatorSchedule failingHistory
      tableBeforeRestart := by
  intro only
  obtain ⟨entry, summarised, cleared⟩ :=
    @row_cleared_iff sampleRendering _ _ _ _ restart_wasFailing (by decide +kernel)
  have calm : (afterRestart.entry? logAggregatorSchedule).all fun entry =>
      !entry.stalled && !isFailing afterRestart.threshold entry := by decide +kernel
  rw [summarised, Option.all_some, Bool.and_eq_true, Bool.not_eq_true', Bool.not_eq_true'] at calm
  obtain ⟨run, member, completed⟩ := only entry summarised calm.1 calm.2 (cleared.mpr calm.2)
  have none_completed : ∀ run ∈ sinceLastFailure failingHistory
      (afterRestart.agentRuns logAggregatorSchedule), run.status ≠ .completed := by decide
  exact none_completed run member completed

theorem restart_condition :
    ClearedOnlyBySuccess sampleRendering afterRestart logAggregatorSchedule failingHistory
        tableBeforeRestart ↔
      (∃ run ∈ sinceLastFailure failingHistory (afterRestart.agentRuns logAggregatorSchedule),
        run.status = .completed) ∨
        (afterRestart.entry? logAggregatorSchedule).any AgentEntry.stalled = true ∨
        Unbroken afterRestart.window afterRestart.threshold
          (afterRestart.agentRuns logAggregatorSchedule) ∨ afterRestart.raises = true :=
  clearedOnlyBySuccess_iff restart_wasFailing

end SysadminAssistant.Monitor
