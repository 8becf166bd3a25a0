import Mathlib.Data.List.Sort
import SysadminAssistant.Python.Dict
import SysadminAssistant.Python.Text

namespace SysadminAssistant.Reload

open Python

/-! `sysadmin/core/jobs.py` and `sysadmin/core/scheduler.py`: the schedule a configuration asks for,
and making the scheduler match it. -/

structure ServiceConfig where
  name : Text := text "sysadmin-service"
  port : Int := 8500
  host : Text := text "127.0.0.1"
  logLevel : Text := text "info"
  logFormat : Text := text "json"
  corsOrigins : List Text := [text "http://localhost:3000", text "http://127.0.0.1:3000"]
deriving DecidableEq

structure DatabaseConfig where
  url : Text := text "postgresql+asyncpg://gaddi@localhost:5432/projects"
  syncUrl : Text := text "postgresql+psycopg2://gaddi@localhost:5432/projects"
  schema : Text := text "sysadmin"
deriving DecidableEq

structure SchedulesConfig where
  briefingHour : Int := 6
  briefingMinute : Int := 0
  retentionHour : Int := 3
  retentionMinute : Int := 0
  reviewDayOfWeek : Text := text "mon"
  diskReviewHour : Int := 5
  diskReviewMinute : Int := 45
  logReviewHour : Int := 5
  logReviewMinute : Int := 15
  healthReviewHour : Int := 5
  healthReviewMinute : Int := 0
  reliabilityHour : Int := 2
  reliabilityMinute : Int := 0
  agentFirstRunDelaySeconds : Int := 60
deriving DecidableEq

structure SysAdminAgentConfig where
  enabled : Bool := true
  healthCheckIntervalSeconds : Int := 300
  reliabilityEnabled : Bool := true
  weeklyReview : Bool := true
deriving DecidableEq

structure FileOrganiserConfig where
  enabled : Bool := true
  scanIntervalHours : Int := 24
  weeklyReview : Bool := true
deriving DecidableEq

structure ServiceDiscoveryConfig where
  enabled : Bool := true
  scanIntervalHours : Int := 6
deriving DecidableEq

structure EstateJudgeConfig where
  enabled : Bool := true
  pollIntervalHours : Int := 1
deriving DecidableEq

structure LogAggregatorConfig where
  enabled : Bool := true
  pollIntervalSeconds : Int := 60
  weeklyReview : Bool := true
deriving DecidableEq

structure GameDetectorConfig where
  enabled : Bool := true
  pollIntervalSeconds : Int := 60
deriving DecidableEq

structure DesktopNotificationsConfig where
  enabled : Bool := true
  trayGraceSeconds : Int := 180
deriving DecidableEq

structure AgentsConfig where
  sysadmin : SysAdminAgentConfig := {}
  fileOrganiser : FileOrganiserConfig := {}
  logAggregator : LogAggregatorConfig := {}
  serviceDiscovery : ServiceDiscoveryConfig := {}
  estateJudge : EstateJudgeConfig := {}
  gameDetector : GameDetectorConfig := {}
deriving DecidableEq

/-- `AppConfig`, with the sections that a reload classifies. -/
structure AppConfig where
  service : ServiceConfig := {}
  database : DatabaseConfig := {}
  desktop : DesktopNotificationsConfig := {}
  schedules : SchedulesConfig := {}
  projectsRoot : Text := text "/home/gaddi/projects"
  discoveryDepth : Int
  agents : AgentsConfig := {}
deriving DecidableEq

/-- The leaves of those sections, as `_flatten` names them. -/
inductive Leaf where
  | serviceName | servicePort | serviceHost | serviceLogLevel | serviceLogFormat | serviceCorsOrigins
  | databaseUrl | databaseSyncUrl | databaseSchema
  | desktopEnabled | trayGraceSeconds
  | briefingHour | briefingMinute | retentionHour | retentionMinute | reviewDayOfWeek | diskReviewHour
  | diskReviewMinute | logReviewHour | logReviewMinute | healthReviewHour | healthReviewMinute
  | reliabilityHour | reliabilityMinute | agentFirstRunDelaySeconds
  | sysadminEnabled | healthCheckIntervalSeconds | reliabilityEnabled | healthWeeklyReview
  | fileOrganiserEnabled | scanIntervalHours | diskWeeklyReview
  | logAggregatorEnabled | logPollIntervalSeconds | logWeeklyReview
  | serviceDiscoveryEnabled | discoveryIntervalHours
  | estateJudgeEnabled | pollIntervalHours
  | gameDetectorEnabled | gamePollIntervalSeconds
deriving DecidableEq

namespace Leaf

def all : List Leaf := [
  serviceName, servicePort, serviceHost, serviceLogLevel, serviceLogFormat, serviceCorsOrigins,
  databaseUrl, databaseSyncUrl, databaseSchema, desktopEnabled, trayGraceSeconds,
  briefingHour, briefingMinute, retentionHour, retentionMinute, reviewDayOfWeek, diskReviewHour,
  diskReviewMinute, logReviewHour, logReviewMinute, healthReviewHour, healthReviewMinute,
  reliabilityHour, reliabilityMinute, agentFirstRunDelaySeconds,
  sysadminEnabled, healthCheckIntervalSeconds, reliabilityEnabled, healthWeeklyReview,
  fileOrganiserEnabled, scanIntervalHours, diskWeeklyReview,
  logAggregatorEnabled, logPollIntervalSeconds, logWeeklyReview,
  serviceDiscoveryEnabled, discoveryIntervalHours, estateJudgeEnabled, pollIntervalHours,
  gameDetectorEnabled, gamePollIntervalSeconds]

theorem mem_all (leaf : Leaf) : leaf ∈ all := by cases leaf <;> decide

def path : Leaf → Text
  | serviceName => text "service.name"
  | servicePort => text "service.port"
  | serviceHost => text "service.host"
  | serviceLogLevel => text "service.log_level"
  | serviceLogFormat => text "service.log_format"
  | serviceCorsOrigins => text "service.cors_origins"
  | databaseUrl => text "database.url"
  | databaseSyncUrl => text "database.sync_url"
  | databaseSchema => text "database.schema_"
  | desktopEnabled => text "notifications.desktop.enabled"
  | trayGraceSeconds => text "notifications.desktop.tray_grace_seconds"
  | briefingHour => text "schedules.briefing_hour"
  | briefingMinute => text "schedules.briefing_minute"
  | retentionHour => text "schedules.retention_hour"
  | retentionMinute => text "schedules.retention_minute"
  | reviewDayOfWeek => text "schedules.review_day_of_week"
  | diskReviewHour => text "schedules.disk_review_hour"
  | diskReviewMinute => text "schedules.disk_review_minute"
  | logReviewHour => text "schedules.log_review_hour"
  | logReviewMinute => text "schedules.log_review_minute"
  | healthReviewHour => text "schedules.health_review_hour"
  | healthReviewMinute => text "schedules.health_review_minute"
  | reliabilityHour => text "schedules.reliability_hour"
  | reliabilityMinute => text "schedules.reliability_minute"
  | agentFirstRunDelaySeconds => text "schedules.agent_first_run_delay_seconds"
  | sysadminEnabled => text "agents.sysadmin.enabled"
  | healthCheckIntervalSeconds => text "agents.sysadmin.health_check_interval_seconds"
  | reliabilityEnabled => text "agents.sysadmin.reliability.enabled"
  | healthWeeklyReview => text "agents.sysadmin.weekly_review"
  | fileOrganiserEnabled => text "agents.file_organiser.enabled"
  | scanIntervalHours => text "agents.file_organiser.scan_interval_hours"
  | diskWeeklyReview => text "agents.file_organiser.weekly_review"
  | logAggregatorEnabled => text "agents.log_aggregator.enabled"
  | logPollIntervalSeconds => text "agents.log_aggregator.poll_interval_seconds"
  | logWeeklyReview => text "agents.log_aggregator.weekly_review"
  | serviceDiscoveryEnabled => text "agents.service_discovery.enabled"
  | discoveryIntervalHours => text "agents.service_discovery.scan_interval_hours"
  | estateJudgeEnabled => text "agents.estate_judge.enabled"
  | pollIntervalHours => text "agents.estate_judge.poll_interval_hours"
  | gameDetectorEnabled => text "agents.game_detector.enabled"
  | gamePollIntervalSeconds => text "agents.game_detector.poll_interval_seconds"

end Leaf

inductive LeafValue where
  | bool (value : Bool)
  | int (value : Int)
  | str (value : Text)
  | strs (value : List Text)
deriving DecidableEq

/-- The leaf in `model_dump(mode="json")`. -/
def AppConfig.leaf (config : AppConfig) : Leaf → LeafValue
  | .serviceName => .str config.service.name
  | .servicePort => .int config.service.port
  | .serviceHost => .str config.service.host
  | .serviceLogLevel => .str config.service.logLevel
  | .serviceLogFormat => .str config.service.logFormat
  | .serviceCorsOrigins => .strs config.service.corsOrigins
  | .databaseUrl => .str config.database.url
  | .databaseSyncUrl => .str config.database.syncUrl
  | .databaseSchema => .str config.database.schema
  | .desktopEnabled => .bool config.desktop.enabled
  | .trayGraceSeconds => .int config.desktop.trayGraceSeconds
  | .briefingHour => .int config.schedules.briefingHour
  | .briefingMinute => .int config.schedules.briefingMinute
  | .retentionHour => .int config.schedules.retentionHour
  | .retentionMinute => .int config.schedules.retentionMinute
  | .reviewDayOfWeek => .str config.schedules.reviewDayOfWeek
  | .diskReviewHour => .int config.schedules.diskReviewHour
  | .diskReviewMinute => .int config.schedules.diskReviewMinute
  | .logReviewHour => .int config.schedules.logReviewHour
  | .logReviewMinute => .int config.schedules.logReviewMinute
  | .healthReviewHour => .int config.schedules.healthReviewHour
  | .healthReviewMinute => .int config.schedules.healthReviewMinute
  | .reliabilityHour => .int config.schedules.reliabilityHour
  | .reliabilityMinute => .int config.schedules.reliabilityMinute
  | .agentFirstRunDelaySeconds => .int config.schedules.agentFirstRunDelaySeconds
  | .sysadminEnabled => .bool config.agents.sysadmin.enabled
  | .healthCheckIntervalSeconds => .int config.agents.sysadmin.healthCheckIntervalSeconds
  | .reliabilityEnabled => .bool config.agents.sysadmin.reliabilityEnabled
  | .healthWeeklyReview => .bool config.agents.sysadmin.weeklyReview
  | .fileOrganiserEnabled => .bool config.agents.fileOrganiser.enabled
  | .scanIntervalHours => .int config.agents.fileOrganiser.scanIntervalHours
  | .diskWeeklyReview => .bool config.agents.fileOrganiser.weeklyReview
  | .logAggregatorEnabled => .bool config.agents.logAggregator.enabled
  | .logPollIntervalSeconds => .int config.agents.logAggregator.pollIntervalSeconds
  | .logWeeklyReview => .bool config.agents.logAggregator.weeklyReview
  | .serviceDiscoveryEnabled => .bool config.agents.serviceDiscovery.enabled
  | .discoveryIntervalHours => .int config.agents.serviceDiscovery.scanIntervalHours
  | .estateJudgeEnabled => .bool config.agents.estateJudge.enabled
  | .pollIntervalHours => .int config.agents.estateJudge.pollIntervalHours
  | .gameDetectorEnabled => .bool config.agents.gameDetector.enabled
  | .gamePollIntervalSeconds => .int config.agents.gameDetector.pollIntervalSeconds

/-! The plan. -/

inductive JobId where
  | sysadminHealthCheck | fileOrganiserScan | serviceDiscoveryScan | estateJudgePoll
  | logAggregatorPoll
  | gameDetectorPoll | desktopReminderSweep | morningBriefing | retentionPurge | weeklyLogReview
  | weeklyDiskReview | weeklyHealthReview | reliabilitySnapshot
deriving DecidableEq

/-- A trigger and its arguments. -/
inductive Trigger where
  | everySeconds (seconds : Int)
  | everyHours (hours : Int)
  | cron (hour minute : Int) (dayOfWeek : Text)
deriving DecidableEq

structure JobSpec where
  jobId : JobId
  enabled : Bool
  trigger : Trigger
  configPaths : List Leaf
  firstRunDelaySeconds : Option Int := none
deriving DecidableEq

def minReminderSweepSeconds : Int := 60

/-- `day_of_week` where a cron job gives none. -/
def everyDay : Text := text "*"

/-- The job of each id, as a configuration asks for it. -/
def jobSpec (config : AppConfig) : JobId → JobSpec
  | .sysadminHealthCheck => {
      jobId := .sysadminHealthCheck
      enabled := config.agents.sysadmin.enabled
      trigger := .everySeconds config.agents.sysadmin.healthCheckIntervalSeconds
      configPaths := [.sysadminEnabled, .healthCheckIntervalSeconds] }
  | .fileOrganiserScan => {
      jobId := .fileOrganiserScan
      enabled := config.agents.fileOrganiser.enabled
      trigger := .everyHours config.agents.fileOrganiser.scanIntervalHours
      configPaths := [.fileOrganiserEnabled, .scanIntervalHours, .agentFirstRunDelaySeconds]
      firstRunDelaySeconds := some config.schedules.agentFirstRunDelaySeconds }
  | .serviceDiscoveryScan => {
      jobId := .serviceDiscoveryScan
      enabled := config.agents.serviceDiscovery.enabled
      trigger := .everyHours config.agents.serviceDiscovery.scanIntervalHours
      configPaths := [.serviceDiscoveryEnabled, .discoveryIntervalHours, .agentFirstRunDelaySeconds]
      firstRunDelaySeconds := some config.schedules.agentFirstRunDelaySeconds }
  | .estateJudgePoll => {
      jobId := .estateJudgePoll
      enabled := config.agents.estateJudge.enabled
      trigger := .everyHours config.agents.estateJudge.pollIntervalHours
      configPaths := [.estateJudgeEnabled, .pollIntervalHours, .agentFirstRunDelaySeconds]
      firstRunDelaySeconds := some config.schedules.agentFirstRunDelaySeconds }
  | .logAggregatorPoll => {
      jobId := .logAggregatorPoll
      enabled := config.agents.logAggregator.enabled
      trigger := .everySeconds config.agents.logAggregator.pollIntervalSeconds
      configPaths := [.logAggregatorEnabled, .logPollIntervalSeconds] }
  | .gameDetectorPoll => {
      jobId := .gameDetectorPoll
      enabled := config.agents.gameDetector.enabled
      trigger := .everySeconds config.agents.gameDetector.pollIntervalSeconds
      configPaths := [.gameDetectorEnabled, .gamePollIntervalSeconds] }
  | .desktopReminderSweep => {
      jobId := .desktopReminderSweep
      enabled := config.desktop.enabled
      trigger := .everySeconds (max minReminderSweepSeconds config.desktop.trayGraceSeconds)
      configPaths := [.desktopEnabled, .trayGraceSeconds] }
  | .morningBriefing => {
      jobId := .morningBriefing
      enabled := true
      trigger := .cron config.schedules.briefingHour config.schedules.briefingMinute everyDay
      configPaths := [.briefingHour, .briefingMinute] }
  | .retentionPurge => {
      jobId := .retentionPurge
      enabled := true
      trigger := .cron config.schedules.retentionHour config.schedules.retentionMinute everyDay
      configPaths := [.retentionHour, .retentionMinute] }
  | .weeklyLogReview => {
      jobId := .weeklyLogReview
      enabled := config.agents.logAggregator.weeklyReview
      trigger := .cron config.schedules.logReviewHour config.schedules.logReviewMinute
        config.schedules.reviewDayOfWeek
      configPaths := [.logWeeklyReview, .logReviewHour, .logReviewMinute, .reviewDayOfWeek] }
  | .weeklyDiskReview => {
      jobId := .weeklyDiskReview
      enabled := config.agents.fileOrganiser.weeklyReview
      trigger := .cron config.schedules.diskReviewHour config.schedules.diskReviewMinute
        config.schedules.reviewDayOfWeek
      configPaths := [.diskWeeklyReview, .diskReviewHour, .diskReviewMinute, .reviewDayOfWeek] }
  | .weeklyHealthReview => {
      jobId := .weeklyHealthReview
      enabled := config.agents.sysadmin.weeklyReview
      trigger := .cron config.schedules.healthReviewHour config.schedules.healthReviewMinute
        config.schedules.reviewDayOfWeek
      configPaths := [.healthWeeklyReview, .healthReviewHour, .healthReviewMinute, .reviewDayOfWeek] }
  | .reliabilitySnapshot => {
      jobId := .reliabilitySnapshot
      enabled := config.agents.sysadmin.reliabilityEnabled
      trigger := .cron config.schedules.reliabilityHour config.schedules.reliabilityMinute everyDay
      configPaths := [.reliabilityEnabled, .reliabilityHour, .reliabilityMinute] }

def planOrder : List JobId :=
  [.sysadminHealthCheck, .fileOrganiserScan, .serviceDiscoveryScan, .estateJudgePoll,
  .logAggregatorPoll, .gameDetectorPoll, .desktopReminderSweep, .morningBriefing, .retentionPurge,
  .weeklyLogReview, .weeklyDiskReview, .weeklyHealthReview, .reliabilitySnapshot]

def planJobs (config : AppConfig) : List JobSpec := planOrder.map (jobSpec config)

/-- `JOB_CONFIG_PATHS`: the ids and leaves of a plan are those of any other. -/
def jobConfigPaths : List Leaf := (planJobs { discoveryDepth := 0 }).flatMap JobSpec.configPaths

theorem jobSpec_jobId (config : AppConfig) (id : JobId) :
    (jobSpec config id).jobId = id := by cases id <;> rfl

theorem mem_planJobs {config : AppConfig} {spec : JobSpec} :
    spec ∈ planJobs config ↔ spec = jobSpec config spec.jobId := by
  simp only [planJobs, List.mem_map]
  constructor
  · intro found
    obtain ⟨id, _, rfl⟩ := found
    rw [jobSpec_jobId]
  · intro same
    exact ⟨spec.jobId, by cases spec.jobId <;> decide, same.symm⟩

theorem planJobs_nodup (config : AppConfig) : ((planJobs config).map JobSpec.jobId).Nodup := by
  have ids : (planJobs config).map JobSpec.jobId = planOrder := by
    simp [planJobs, Function.comp_def, jobSpec_jobId]
  rw [ids]
  decide

theorem configPaths_fixed (left right : AppConfig) (id : JobId) :
    (jobSpec left id).configPaths = (jobSpec right id).configPaths := by cases id <;> rfl

theorem mem_jobConfigPaths {config : AppConfig} {leaf : Leaf} :
    leaf ∈ jobConfigPaths ↔ ∃ spec ∈ planJobs config, leaf ∈ spec.configPaths := by
  simp only [jobConfigPaths, planJobs, List.mem_flatMap, List.mem_map]
  constructor
  · intro found
    obtain ⟨_, ⟨id, member, rfl⟩, inside⟩ := found
    exact ⟨jobSpec config id, ⟨id, member, rfl⟩, configPaths_fixed _ config id ▸ inside⟩
  · intro found
    obtain ⟨_, ⟨id, member, rfl⟩, inside⟩ := found
    exact ⟨_, ⟨id, member, rfl⟩, configPaths_fixed config _ id ▸ inside⟩

theorem jobSpec_determined {left right : AppConfig} {id : JobId}
    (same : ∀ leaf ∈ (jobSpec left id).configPaths, left.leaf leaf = right.leaf leaf) :
    (jobSpec left id).enabled = (jobSpec right id).enabled ∧
      (jobSpec left id).trigger = (jobSpec right id).trigger := by
  cases id <;> simp_all [jobSpec, AppConfig.leaf]

/-! The scheduler. -/

/-- What the host does: `str` of a trigger, unless it is refused with a `ValueError`. -/
abbrev TriggerText := Trigger → Option Text

/-- The live jobs and their triggers, as `str` shows them. -/
abbrev Jobs := Dict JobId Text

inductive Outcome where
  | added | removed | retimed | unchanged
deriving DecidableEq

/-- `Scheduler.sync_interval`, `sync_cron` and `remove_job` for one job of the plan, with whether
the host refuses to change it; `none` is the exception. -/
def syncJob (triggerText : TriggerText) (refuses : Bool) (spec : JobSpec) (jobs : Jobs) :
    Option (Option Outcome × Jobs) :=
  if !spec.enabled then
    match jobs.get? spec.jobId with
    | none => some (none, jobs)
    | some _ => if refuses then none else some (some .removed, jobs.erase spec.jobId)
  else match triggerText spec.trigger with
    | none => none
    | some trigger => match jobs.get? spec.jobId with
        | some live =>
          if live = trigger then some (some .unchanged, jobs)
          else if refuses then none else some (some .retimed, jobs.set spec.jobId trigger)
        | none => if refuses then none else some (some .added, jobs.set spec.jobId trigger)

structure JobSyncReport where
  added : List JobId := []
  removed : List JobId := []
  retimed : List JobId := []
  unchanged : List JobId := []
  failed : List JobId := []
  failedConfigPaths : List Leaf := []
deriving DecidableEq

def JobSyncReport.note (report : JobSyncReport) (id : JobId) : Option Outcome → JobSyncReport
  | none => report
  | some .added => { report with added := id :: report.added }
  | some .removed => { report with removed := id :: report.removed }
  | some .retimed => { report with retimed := id :: report.retimed }
  | some .unchanged => { report with unchanged := id :: report.unchanged }

/-- `sorted(set(leaves))`. -/
def sortedLeaves (leaves : List Leaf) : List Leaf :=
  (Leaf.all.filter fun leaf => leaf ∈ leaves).insertionSort fun left right => left.path ≤ right.path

theorem mem_sortedLeaves {leaf : Leaf} {leaves : List Leaf} :
    leaf ∈ sortedLeaves leaves ↔ leaf ∈ leaves := by
  simp [sortedLeaves, Leaf.mem_all]

/-- The loop of `apply_jobs`. -/
def applyFrom (triggerText : TriggerText) (refuses : JobId → Bool) :
    List JobSpec → Jobs → Jobs × JobSyncReport
  | [], jobs => (jobs, {})
  | spec :: rest, jobs => match syncJob triggerText (refuses spec.jobId) spec jobs with
      | none =>
        let (final, report) := applyFrom triggerText refuses rest jobs
        (final, { report with
          failed := spec.jobId :: report.failed
          failedConfigPaths := spec.configPaths ++ report.failedConfigPaths })
      | some (outcome, next) =>
        let (final, report) := applyFrom triggerText refuses rest next
        (final, report.note spec.jobId outcome)

def applyJobs (triggerText : TriggerText) (refuses : JobId → Bool) (config : AppConfig)
    (jobs : Jobs) : Jobs × JobSyncReport :=
  let (final, report) := applyFrom triggerText refuses (planJobs config) jobs
  (final, { report with failedConfigPaths := sortedLeaves report.failedConfigPaths })

end SysadminAssistant.Reload
