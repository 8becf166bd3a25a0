import SysadminAssistant.Monitor.LogActions
import SysadminAssistant.Monitor.Reliability

namespace SysadminAssistant.Monitor.Reliability

open Python Library

/-! Ranked advice off scored services (`sysadmin/monitor/service_recommendations.py`). -/

/-- In the order of `KIND_ORDER`. -/
inductive AdviceKind where
  | outage | flapping | timerFailed | timerStale | checkInterval
deriving DecidableEq

def AdviceKind.word : AdviceKind → Text
  | .outage => text "outage"
  | .flapping => text "flapping"
  | .timerFailed => text "timer_failed"
  | .timerStale => text "timer_stale"
  | .checkInterval => text "check_interval"

def AdviceKind.rank : AdviceKind → Nat
  | .outage => 0
  | .flapping => 1
  | .timerFailed => 2
  | .timerStale => 3
  | .checkInterval => 4

def eventArgued : List AdviceKind := [.outage, .flapping, .timerFailed]

def rateArgued : List AdviceKind := [.checkInterval, .timerStale]

def stepSupersedes : List AdviceKind := [.timerFailed]

inductive Severity where
  | advice | risk
deriving DecidableEq

def Severity.rank : Severity → Int
  | .advice => 0
  | .risk => 1

inductive Evidence where
  | event | rate | absence | logs
deriving DecidableEq

structure ServiceRecommendationMemberInfo where
  kind : AdviceKind
  severity : Severity
  title : Text
  detail : Text
  action : Text
  recoverablePoints : Int
deriving DecidableEq

structure ServiceRecommendationInfo where
  kind : AdviceKind
  severity : Severity
  service : Text
  title : Text
  detail : Text
  action : Text
  recoverablePoints : Int
  grade : Grade
  confidence : Confidence
  outageEpisodes : Nat
  evidence : Evidence
  members : List ServiceRecommendationMemberInfo
  actionFrom : Option AdviceKind
deriving DecidableEq

structure ServiceActionsConfig where
  flapMinEpisodes : Int
  timerStaleMultiplier : ℚ
  timerLookbackDays : Int

structure TimerPoint where
  checkedAt : Int
  lastRun : Option Text
  lastResult : Option Text
  triggeredUnit : Option Text
  isActive : Bool

structure TimerSeries where
  service : Text
  unit : Text
  points : List TimerPoint

structure LogLine where
  source : Text
  signature : Text
  firstSeen : Int
deriving DecidableEq

instance : Correlatable LogLine where
  source := LogLine.source
  signature := LogLine.signature
  firstSeen := LogLine.firstSeen

structure ServiceLog where
  source : Text
  lines : List LogLine
  windowFaults : Nat

structure AdviceReport where
  recommendations : List ServiceRecommendationInfo
  mutedSkipped : Nat
  suppressedByConfidence : Nat
  servicesConsidered : Nat
deriving DecidableEq

def blipLogWindowSeconds : ℚ := 60

def blipLogWindow : Int := 60 * 1000000

def blipSignature : Text := text "(one-check blip)"

def minCadenceSamples : Nat := 2

/-- `"s"`, but for one of them. -/
def plural (count : Int) : Text := if count = 1 then [] else text "s"

/-- `_forecast`. -/
def forecastText (points windowDays : Int) : Text :=
  text "Worth " ++ intText points ++ text " point" ++ plural points ++
    text ", recovered once the fix has held for the full " ++ intText windowDays ++
    text "-day window — the deduction is charged for failures already recorded and lapses as they age out."

/-- The grade as it is written. -/
def Grade.word : Grade → Text
  | .reliable => text "reliable"
  | .degraded => text "degraded"
  | .unreliable => text "unreliable"
  | .failing => text "failing"

def isBlipShaped (score : ReliabilityScore) (settings : ServiceActionsConfig) : Bool :=
  settings.flapMinEpisodes ≤ score.outageEpisodes && score.longestOutageMinutes = 0

def corroboratedBlips (starts : List Int) (log : ServiceLog) : Nat :=
  (starts.filter fun start =>
    let near := log.lines.filter fun line => line.source = log.source ∧
      |line.firstSeen - start| ≤ blipLogWindow
    let blip : LogLine := { source := log.source, signature := blipSignature, firstSeen := start }
    ((correlate none (.finite blipLogWindowSeconds) (blip :: near)).find? fun group =>
      blip ∈ group).any fun mine =>
      mine.any fun member => member.signature ≠ blipSignature).length

/-- `value.removesuffix(suffix)`. -/
def removeSuffix (value suffix : Text) : Text :=
  if suffix.isSuffixOf value then value.take (value.length - suffix.length) else value

/-- `statistics.median`, of samples in order. -/
def medianOf (sorted : List ℚ) : ℚ :=
  let upper := sorted.getD (sorted.length / 2) 0
  if sorted.length % 2 = 1 then upper
  else roundToDouble (roundToDouble (sorted.getD (sorted.length / 2 - 1) 0 + upper) / 2)

/-- `_observed_fires`, after the token of an observation. -/
def observedFires : Option Text → List TimerPoint → List Int
  | _, [] => []
  | previous, point :: rest =>
    if point.lastRun = previous then observedFires previous rest
    else point.checkedAt :: observedFires point.lastRun rest

/-- `_series_holes`; further apart than 2.5 intervals. -/
def seriesHoles (checkIntervalSeconds : Int) (points : List TimerPoint) : List (Int × Int) :=
  (points.zip (points.drop 1)).filterMap fun pair =>
    if 5 * checkIntervalSeconds * 1000000 < 2 * (pair.2.checkedAt - pair.1.checkedAt) then
      some (pair.1.checkedAt, pair.2.checkedAt)
    else none

def observedCadence (checkIntervalSeconds : Int) (fires : List Int) (points : List TimerPoint) :
    Option ℚ :=
  if fires.length < minCadenceSamples + 1 then none
  else
    let holes := seriesHoles checkIntervalSeconds points
    let clean := (fires.zip (fires.drop 1)).filter fun gap => !holes.any fun hole =>
      gap.1 < hole.2 && hole.1 < gap.2
    if clean.length < minCadenceSamples then none
    else some (medianOf ((seconds clean).insertionSort (· ≤ ·)))

section

variable (numbers : NumberText)

/-- `_longest`. -/
def longestText (score : ReliabilityScore) : Text :=
  if score.longestOutageMinutes = 0 then []
  else text ", longest " ++ numbers.general score.longestOutageMinutes ++ text " min"

def outageRow (score : ReliabilityScore) (points : Int) : ServiceRecommendationInfo where
  kind := .outage
  severity := if score.grade = .failing then .risk else .advice
  service := score.service
  title :=
    score.service ++ text ": " ++ numbers.general score.uptimePercent ++ text "% uptime this window"
  detail := intText score.failedChecks ++ text " of " ++ intText score.checksMeasured ++
    text " measured checks failed across " ++ intText score.outageEpisodes ++ text " outage" ++
    plural score.outageEpisodes ++ longestText numbers score ++ text ". Grade " ++ score.grade.word ++
    text ", score " ++ intText score.score ++ text ". " ++ forecastText points score.windowDays
  action := text "Find out why " ++ score.service ++
    text " is unavailable — check its unit and its own logs. Nothing here restarts it: POST /api/sysadmin/services/" ++
    score.service ++ text "/restart is the deliberate manual step."
  recoverablePoints := points
  grade := score.grade
  confidence := score.confidence
  outageEpisodes := score.outageEpisodes
  evidence := .event
  members := []
  actionFrom := none

def flappingRow (score : ReliabilityScore) (points : Int) : ServiceRecommendationInfo where
  kind := .flapping
  severity := .advice
  service := score.service
  title := score.service ++ text ": " ++ intText score.outageEpisodes ++
    text " separate outages this window"
  detail := text "Dropped out " ++ intText score.outageEpisodes ++ text " times" ++
    (match score.meanHoursBetweenIncidents with
      | some mean => text " about every " ++ numbers.general mean ++ text " h"
      | none => []) ++ longestText numbers score ++
    text (". Retry logic survives one long outage and dies on several short ones, which is why this is " ++
      "charged separately from downtime. ") ++ forecastText points score.windowDays
  action := text "Look for a shared dependency behind the repeats — " ++ score.service ++
    text (" returning at intervals usually means something it needs is cycling, not that it is failing " ++
      "on its own.")
  recoverablePoints := points
  grade := score.grade
  confidence := score.confidence
  outageEpisodes := score.outageEpisodes
  evidence := .event
  members := []
  actionFrom := none

def blipRow (score : ReliabilityScore) (title detail action : Text) (evidence : Evidence) :
    ServiceRecommendationInfo where
  kind := .checkInterval
  severity := .advice
  service := score.service
  title
  detail
  action
  recoverablePoints := 0
  grade := score.grade
  confidence := score.confidence
  outageEpisodes := score.outageEpisodes
  evidence
  members := []
  actionFrom := none

/-- `_chance`. -/
def chanceText (score : ReliabilityScore) (log : ServiceLog) (blips : Nat) : Text :=
  let span := max 1 (roundToDouble (score.windowDays * 86400))
  let perBlip :=
    min 1 (roundToDouble (roundToDouble (log.windowFaults * 2 * blipLogWindowSeconds) / span))
  text "At its rate of " ++ intText log.windowFaults ++ text " such lines this window, about " ++
    numbers.fixed 1 (roundToDouble (blips * perBlip)) ++ text " of " ++ intText blips ++
    text " blips would meet one by chance."

def blipTitle (score : ReliabilityScore) : Text :=
  score.service ++ text ": " ++ intText score.outageEpisodes ++ text " one-check blips"

/-- The service's own log shows a fault at some of its blips. -/
def corroboratedRow (score : ReliabilityScore) (log : ServiceLog) (hit : Nat) :
    ServiceRecommendationInfo :=
  blipRow score (blipTitle score ++ text " — its own log shows a fault at " ++ intText hit)
    (score.service ++ text "'s journal (" ++ log.source ++
      text ") holds an error or critical line within " ++
      numbers.general blipLogWindowSeconds ++ text "s of " ++ intText hit ++ text " of its " ++
      intText score.outageEpisodes ++
      text (" one-check outages. The check is seeing the service fail, not misjudging it, and a longer interval " ++
        "would hide those failures. ") ++ chanceText numbers score log score.outageEpisodes)
    (text "Leave " ++ score.service ++ text "'s check as it is. Read " ++ log.source ++
      text "'s errors at the blip times: GET /api/logs/" ++ log.source ++ text ".") .logs

/-- The service logs faults, but none at its blips. -/
def quietRow (score : ReliabilityScore) (log : ServiceLog) : ServiceRecommendationInfo :=
  blipRow score (blipTitle score ++ text " — its own log is quiet at every one")
    (score.service ++ text "'s journal (" ++ log.source ++
      text ") holds no error or critical line within " ++
      numbers.general blipLogWindowSeconds ++ text "s of any of its " ++
        intText score.outageEpisodes ++
      text " one-check outages, though it logged " ++ intText log.windowFaults ++
      text (" this window. A service failing usually says so, so this points at the check: a timeout, or a " ++
        "health path slow while the service works. A gap in the journal at those times would read the same."))
    (text "Time " ++ score.service ++
      text ("'s health path. If it is slow while the service works, the check is what needs widening in " ++
        "services.yaml.")) .logs

/-- No evidence from a log. -/
def unreadRow (score : ReliabilityScore) (checkIntervalSeconds : Int) (unread step : Text) :
    ServiceRecommendationInfo :=
  blipRow score (blipTitle score ++ text " — check sensitivity or a real flap?")
    (text "Every one of " ++ score.service ++ text "'s " ++ intText score.outageEpisodes ++
      text " outages this window lasted a single check, so none was observed for longer than the " ++
      intText checkIntervalSeconds ++
      text ("s poll. That is either a service genuinely returning within one interval or a check too tight for " ++
        "it. ") ++ unread ++
      text (" Confirm which before changing anything: a longer interval hides a real fault just as well as it " ++
        "hides a false one."))
    (step ++
      text (" If the service was up throughout, the check is what needs widening; if it was not, leave the " ++
      "check alone.")) .rate

def undeclaredRow (score : ReliabilityScore) (checkIntervalSeconds : Int) :
    ServiceRecommendationInfo :=
  unreadRow score checkIntervalSeconds
    (score.service ++
      text (" declares no log: in services.yaml, so its own journal could not be read at the blip " ++
        "times."))
    (text "Declare a log: for " ++ score.service ++
      text " in services.yaml so this row can read it, or read its logs by hand at the blip times.")

def silentRow (score : ReliabilityScore) (checkIntervalSeconds : Int) (log : ServiceLog) :
    ServiceRecommendationInfo :=
  unreadRow score checkIntervalSeconds
    (score.service ++ text "'s journal (" ++ log.source ++
      text (") holds no error or critical line this window at all, so its silence at the blips cannot tell the two " ++
        "apart."))
    (text "Read " ++ score.service ++ text "'s logs by hand at the blip times.")

def checkIntervalRow (score : ReliabilityScore) (settings : ServiceActionsConfig)
    (checkIntervalSeconds : Int) (log : Option ServiceLog) : Option ServiceRecommendationInfo :=
  if !isBlipShaped score settings then none
  else match log with
    | none => some (undeclaredRow score checkIntervalSeconds)
    | some log =>
      let hit := corroboratedBlips score.episodeStarts log
      if hit ≠ 0 then some (corroboratedRow numbers score log hit)
      else if log.windowFaults ≠ 0 then some (quietRow numbers score log)
      else some (silentRow score checkIntervalSeconds log)

/-- The deduction of a kind that is applied. -/
def appliedPoints (score : ReliabilityScore) (kind : DeductionKind) : Option Int :=
  ((score.deductions.filter fun deduction => !deduction.waived &&
    deduction.kind = kind).getLast?).map Deduction.points

def serviceRows (score : ReliabilityScore) (settings : ServiceActionsConfig)
    (checkIntervalSeconds : Int) (log : Option ServiceLog) : List ServiceRecommendationInfo :=
  ((appliedPoints score .downtime).map (outageRow numbers score)).toList ++
    (if settings.flapMinEpisodes ≤ score.outageEpisodes then
      ((appliedPoints score .instability).map (flappingRow numbers score)).toList else []) ++
    (checkIntervalRow numbers score settings checkIntervalSeconds log).toList

/-- `_hours`. -/
def hoursText (seconds : ℚ) : Text :=
  let hours := roundToDouble (seconds / 3600)
  if hours < 1 then numbers.fixed 0 (roundToDouble (seconds / 60)) ++ text " min"
  else if hours < 48 then numbers.fixed 1 hours ++ text " h"
  else numbers.fixed 1 (roundToDouble (hours / 24)) ++ text " days"

def timerFailedRow (series : TimerSeries) (latest : TimerPoint) (result : Text) :
    ServiceRecommendationInfo :=
  let triggered := match latest.triggeredUnit with
    | some (first :: rest) => first :: rest
    | _ => removeSuffix series.unit (text ".timer") ++ text ".service"
  { kind := .timerFailed
    severity := .advice
    service := series.service
    title := series.service ++ text ": last scheduled run reported '" ++ result ++ text "'"
    detail := text "systemd records Result=" ++ result ++ text " for " ++ triggered ++
      text ", started by " ++ series.unit ++
      text (". The schedule is firing; what it starts is not succeeding, which an active-state check cannot see — " ++
        "an armed timer is 'active (waiting)' whether or not its last run worked.")
    action := text "journalctl --user -u " ++ triggered ++
      text " -n 100 — the failure is in the service the timer starts, not in the timer."
    recoverablePoints := 0
    grade := .reliable
    confidence := .high
    outageEpisodes := 0
    evidence := .event
    members := []
    actionFrom := none }

/-- `_timer_stale_row`, of points in order.  Two checks never have one stamp, so the cadence is
not zero. -/
def timerStaleRow (series : TimerSeries) (points : List TimerPoint)
    (settings : ServiceActionsConfig) (checkIntervalSeconds now : Int) :
    Option ServiceRecommendationInfo :=
  if !points.getLast?.any TimerPoint.isActive then none
  else
    let fires := observedFires (points.head?.bind TimerPoint.lastRun) (points.drop 1)
    match observedCadence checkIntervalSeconds fires points, fires.getLast? with
    | some cadence, some lastFire =>
      let elapsed := totalSeconds (now - lastFire)
      if elapsed ≤ roundToDouble (cadence * settings.timerStaleMultiplier) then none
      else some {
        kind := .timerStale
        severity := .advice
        service := series.service
        title := series.service ++ text ": armed but has not fired for " ++ hoursText numbers elapsed
        detail :=
          series.unit ++
            text " is active (waiting), so every check passes, but its last observed run was " ++
          hoursText numbers elapsed ++ text " ago against an observed cadence of " ++
            hoursText numbers cadence ++
          text " — about " ++ intText ⌊elapsed / cadence⌋ ++
          text (" firings missed. Measured by watching LastTriggerUSec change between checks, so the figure is " ++
            "dated to the check that noticed and a gap in the series makes it read short rather than long.")
        action := text "systemctl --user list-timers " ++ series.unit ++
          text (" and check OnCalendar= against the wall clock — a timer whose next elapse has passed without " ++
            "firing usually has a calendar expression that no longer matches.")
        recoverablePoints := 0
        grade := .reliable
        confidence := .high
        outageEpisodes := 0
        evidence := .absence
        members := []
        actionFrom := none }
    | _, _ => none

def timerRows (series : TimerSeries) (settings : ServiceActionsConfig)
    (checkIntervalSeconds now : Int) : List ServiceRecommendationInfo :=
  let points := series.points.insertionSort fun left right => left.checkedAt ≤ right.checkedAt
  match points.getLast? with
  | none => []
  | some latest =>
    (match latest.lastResult with
      | some result =>
        if result = [] ∨ result = text "success" then [] else [timerFailedRow series latest result]
      | none => []) ++
    (timerStaleRow numbers series points settings checkIntervalSeconds now).toList

end

/-- Members of a group in their order. -/
def ServiceRecommendationInfo.memberOrder (row : ServiceRecommendationInfo) : Nat ×ₗ Text :=
  toLex (row.kind.rank, row.title)

def groupFaults (rows : List ServiceRecommendationInfo) : List (List ServiceRecommendationInfo) :=
  let faults := rows.filter fun row => row.kind ∈ eventArgued
  let services := (faults.map ServiceRecommendationInfo.service).reverse.dedup.reverse
  ((rows.filter fun row => row.kind ∉ eventArgued).map fun row => [row]) ++
    services.map fun service =>
      (faults.filter fun row => row.service = service).insertionSort fun left right =>
      left.memberOrder ≤ right.memberOrder

def memberOf (row : ServiceRecommendationInfo) : ServiceRecommendationMemberInfo where
  kind := row.kind
  severity := row.severity
  title := row.title
  detail := row.detail
  action := row.action
  recoverablePoints := row.recoverablePoints

def loudest (rows : List ServiceRecommendationInfo) : Severity :=
  if rows.any fun row => row.severity = .risk then .risk else .advice

/-- `_folded_row`, of a group of several. -/
def foldedRow (anchor : ServiceRecommendationInfo) (others : List ServiceRecommendationInfo) :
    ServiceRecommendationInfo :=
  let group := anchor :: others
  let points := (group.map ServiceRecommendationInfo.recoverablePoints).sum
  let leader := others.find? fun row => row.kind ∈ stepSupersedes
  let lines := [anchor.detail,
      text "Also stands for " ++ intText others.length ++ text " other finding" ++
      plural others.length ++
        text " about " ++ anchor.service ++ text ", named below with its own step. The " ++
          intText points ++
        text " recoverable points are the sum across all " ++ intText group.length ++
        text "; one fix lapses them together."] ++
    (match leader with
      | none => []
      | some leader => [text "The step above is the " ++ leader.kind.word ++
          text " finding's, because it reaches a unit the " ++ anchor.kind.word ++
            text " step cannot. The " ++
          anchor.kind.word ++ text " finding's own step was: " ++ anchor.action]) ++
    others.flatMap fun row => [text "  - " ++ row.kind.word ++ text ": " ++ row.title,
      text "    " ++ row.detail, text "    Step: " ++ row.action]
  { anchor with
    severity := loudest group
    detail := (text "\n").intercalate lines
    action := (leader.map ServiceRecommendationInfo.action).getD anchor.action
    actionFrom := leader.map ServiceRecommendationInfo.kind
    recoverablePoints := points
    members := group.map memberOf }

/-- The row of a group; groups have an anchor. -/
def groupRow : List ServiceRecommendationInfo → Option ServiceRecommendationInfo
  | [] => none
  | [row] => some row
  | anchor :: others => some (foldedRow anchor others)

def ServiceRecommendationInfo.order (row : ServiceRecommendationInfo) : Int ×ₗ Int ×ₗ Nat ×ₗ Text :=
  toLex (-row.severity.rank, toLex (-row.recoverablePoints, toLex (row.kind.rank, row.service)))

section

variable (numbers : NumberText) (settings : ServiceActionsConfig) (timers : List TimerSeries)
  (logs : Dict Text ServiceLog) (checkIntervalSeconds now : Int)

/-- All the rows of a score, before the confidence gate. -/
def rowsOf (score : ReliabilityScore) : List ServiceRecommendationInfo :=
  if score.muted then []
  else serviceRows numbers score settings checkIntervalSeconds (logs.get? score.service) ++
    (match timers.reverse.find? fun series => series.service = score.service with
      | none => []
      | some series => timerRows numbers series settings checkIntervalSeconds now)

/-- A row that argues from a rate or an absence, in a window that was not watched enough. -/
def withheld (score : ReliabilityScore) (row : ServiceRecommendationInfo) : Bool :=
  row.kind ∈ rateArgued && score.confidence ≠ .high

def keptRows (score : ReliabilityScore) : List ServiceRecommendationInfo :=
  (rowsOf numbers settings timers logs checkIntervalSeconds now score).filter fun row =>
    !withheld score row

def suppressedRows (score : ReliabilityScore) : Nat :=
  ((rowsOf numbers settings timers logs checkIntervalSeconds now score).filter (withheld score)).length

def recommend (scores : List ReliabilityScore) : AdviceReport :=
  let rows := scores.flatMap (keptRows numbers settings timers logs checkIntervalSeconds now)
  let mutedSkipped := (scores.filter ReliabilityScore.muted).length
  { recommendations := ((groupFaults rows).filterMap groupRow).insertionSort fun left right =>
      left.order ≤ right.order
    mutedSkipped
    suppressedByConfidence :=
      (scores.map (suppressedRows numbers settings timers logs checkIntervalSeconds now)).sum
    servicesConsidered := scores.length - mutedSkipped }

end

def totalRecoverablePoints (rows : List ServiceRecommendationInfo) : Int :=
  (rows.map ServiceRecommendationInfo.recoverablePoints).sum

end SysadminAssistant.Monitor.Reliability
