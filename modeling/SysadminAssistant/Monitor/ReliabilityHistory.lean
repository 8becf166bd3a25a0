import SysadminAssistant.Monitor.LogEntry
import SysadminAssistant.Monitor.LogFaults
import SysadminAssistant.Monitor.LogSources
import SysadminAssistant.Monitor.ServiceAdvice

namespace SysadminAssistant.Monitor.Reliability

open Python Library

/-! The database half of the scores (`sysadmin/monitor/reliability_history.py`), and the two callers
of the advice. -/

/-- A `service_health` row, its details by the four keys that are read. -/
structure ServiceHealthRow where
  serviceName : Text
  status : ServiceStatus
  checkedAt : Int
  lastRun : Option Text
  lastResult : Option Text
  triggeredUnit : Option Text
  isActive : Option Text

structure Tables where
  serviceHealth : List ServiceHealthRow
  logEntries : List LogRow

structure MonitoredService extends Sources.ServiceEntry where
  isTimer : Bool
  mute : Bool

structure ReliabilityConfig where
  windowDays : Int
  gradeBands : GradeBands
  healthCheckIntervalSeconds : Int
  muteServices : List Text
  serviceActions : ServiceActionsConfig

/-- A text that is not empty. -/
def given (value : Option Text) : Option Text := value.filter (· ≠ [])

def MonitoredService.systemdUnit (service : MonitoredService) : Option Text :=
  service.systemd.map HttpCheck.SystemdRef.unit

/-- The sources of `fetch_blip_logs`, by the name of the service. -/
def declaredSources (services : List MonitoredService) : Dict Text Text :=
  .ofEntries ((Sources.declaredLogSources (services.map MonitoredService.toServiceEntry)).filterMap
    fun source =>
    (Sources.storedSourceName source).map fun stored => (source.name, stored))

def mutedServiceNames (config : ReliabilityConfig) (services : List MonitoredService) : List Text :=
  (services.filter MonitoredService.mute).map (fun service => service.name) ++ config.muteServices

def windowOf (config : ReliabilityConfig) (now : Int) : Window where
  days := config.windowDays
  checkIntervalSeconds := config.healthCheckIntervalSeconds
  now
  gradeBands := config.gradeBands

/-- The series of `compute_reliability`: one for each service, empty or not. -/
def healthSeries (config : ReliabilityConfig) (services : List MonitoredService) (tables : Tables)
    (now : Int) : Dict Text (List HealthPoint) :=
  (Dict.ofEntries (services.map fun service => (service.name, []))).mapValues fun name _ =>
    (tables.serviceHealth.filter fun row => (windowOf config now).start ≤ row.checkedAt ∧
      row.serviceName = name).map fun row => { checkedAt := row.checkedAt, status := row.status }

def computeReliability (numbers : NumberText) (config : ReliabilityConfig)
    (services : List MonitoredService) (tables : Tables) (now : Int) : List ReliabilityScore :=
  scoreServices numbers (windowOf config now) (healthSeries config services tables now)
    (mutedServiceNames config services)

def timerPoint (row : ServiceHealthRow) : TimerPoint where
  checkedAt := row.checkedAt
  lastRun := row.lastRun
  lastResult := row.lastResult
  triggeredUnit := row.triggeredUnit
  isActive := row.isActive ≠ some (text "false")

def fetchTimerSeries (config : ReliabilityConfig) (services : List MonitoredService)
    (tables : Tables) (now : Int) : List TimerSeries :=
  let timers := services.filter MonitoredService.isTimer
  let units : Dict Text Text :=
    .ofEntries (timers.map fun service =>
      (service.name, (given service.systemdUnit).getD service.name))
  let windowStart := now - config.serviceActions.timerLookbackDays * day
  let rows :=
    (tables.serviceHealth.filter fun row => windowStart ≤ row.checkedAt).insertionSort
      fun left right =>
    left.checkedAt ≤ right.checkedAt
  units.entries.map fun entry =>
    { service := entry.1
      unit := entry.2
      points := (rows.filter fun row => row.serviceName = entry.1).map timerPoint }

/-- The fault lines of a source. -/
def faultRows (tables : Tables) (stored : Text) : List LogRow :=
  tables.logEntries.filter fun row => row.source = stored ∧ row.severity ∈ faultSeverities

/-- What `fetch_blip_logs` reads for a score, from its source. -/
def blipLog (database : CharDatabase) (tables : Tables) (score : ReliabilityScore) (stored : Text) :
    ServiceLog where
  source := stored
  lines := ((faultRows tables stored).filter fun row => score.episodeStarts.any fun start =>
      start - blipLogWindow ≤ row.loggedAt ∧ row.loggedAt ≤ start + blipLogWindow).map fun row =>
    { source := stored, signature := signature database row.message, firstSeen := row.loggedAt }
  windowFaults := ((faultRows tables stored).filter fun row => score.windowStart ≤ row.loggedAt).length

/-- The source that `fetch_blip_logs` reads for a score. -/
def readSource (config : ReliabilityConfig) (services : List MonitoredService)
    (score : ReliabilityScore) : Option Text :=
  if score.muted ∨ isBlipShaped score config.serviceActions = false ∨
    score.episodeStarts = [] then none
  else (declaredSources services).get? score.service

def fetchBlipLogs (database : CharDatabase) (config : ReliabilityConfig)
    (services : List MonitoredService) (tables : Tables) (scores : List ReliabilityScore) :
    Dict Text ServiceLog :=
  .ofEntries (scores.filterMap fun score =>
    (readSource config services score).map fun stored =>
      (score.service, blipLog database tables score stored))

section

variable (numbers : NumberText) (database : CharDatabase) (config : ReliabilityConfig)
  (services : List MonitoredService) (tables : Tables) (now : Int)

/-- The advice of `gather_review_data`: no logs are given. -/
def reviewAdvice : AdviceReport :=
  recommend numbers config.serviceActions (fetchTimerSeries config services tables now) .empty
    config.healthCheckIntervalSeconds now (computeReliability numbers config services tables now)

/-- `advise` of `get_service_actions`. -/
def actionsAdvice : AdviceReport :=
  let scores := computeReliability numbers config services tables now
  recommend numbers config.serviceActions (fetchTimerSeries config services tables now)
    (fetchBlipLogs database config services tables scores) config.healthCheckIntervalSeconds now scores

end

end SysadminAssistant.Monitor.Reliability
