import SysadminAssistant.Monitor.ReliabilityHistory
import SysadminAssistant.Python.Figures

namespace SysadminAssistant.Monitor.HealthReview

open Python Library Reliability

/-! The weekly health review: what is gathered, and the prompt
(`sysadmin/monitor/health_review.py`). -/

def topFlapping : Nat := 5

def topAnomalies : Nat := 5

def steadyFraction : ℚ := roundToDouble (1 / 10)

inductive AnomalyDirection where
  | above | below
deriving DecidableEq

/-- What the detector wrote of an anomaly; its row may lack the name or the direction. -/
structure AnomalyDetails where
  resource : Option Text
  direction : Option AnomalyDirection
  zScore : ℚ
  value : ℚ
  mean : ℚ

structure AlertRow where
  title : Text
  createdAt : Int
  anomaly : Option AnomalyDetails

structure SnapshotRow where
  recordedAt : Int
  cpuPercent : Option ℚ
  ramPercent : Option ℚ
  swapUsedMb : Option Int
  swapTotalMb : Option Int
  loadAvg15m : Option ℚ

/-- The tables of the review; of `agent_runs` the starts of the coverage agent. -/
structure ReviewTables where
  checks : Tables
  agentRuns : List Int
  alerts : List AlertRow
  snapshots : List SnapshotRow

structure CoverageFacts where
  runsObserved : Nat
  previousRunsObserved : Nat
  runsExpected : Int
  fraction : ℚ
  previousFraction : ℚ
  comparable : Bool

structure GradeSummary where
  servicesScored : Nat
  reliable : Nat
  degraded : Nat
  unreliable : Nat
  failing : Nat

structure FlappingFacts where
  service : Text
  episodes : Nat
  score : Int
  grade : Grade
  uptimePercent : ℚ
  longestOutageMinutes : ℚ
  confidence : Reliability.Confidence

structure AlertFacts where
  distinctTitles : Nat
  previousDistinctTitles : Nat
  titleDelta : Int
  rows : Nat
  previousRows : Nat
  newTitles : List Text
  clearedTitles : List Text

structure AnomalyItem where
  title : Text
  details : AnomalyDetails
  «at» : Int

structure MetricFacts where
  label : Text
  currentMean : Option ℚ
  previousMean : Option ℚ
  samples : Nat
  previousSamples : Nat

structure ReviewData where
  periodDays : Int
  generatedAt : Int
  windowStart : Int
  previousStart : Int
  confidence : Reliability.Confidence
  comparable : Bool
  coverage : CoverageFacts
  summary : GradeSummary
  flappiest : List FlappingFacts
  recommendationsTotal : Nat
  recoverablePoints : Int
  alerts : AlertFacts
  anomalyCount : Nat
  previousAnomalyCount : Nat
  anomalies : List AnomalyItem
  metrics : List MetricFacts

def coverageConfidence (fraction : ℚ) : Reliability.Confidence :=
  if fraction < Reliability.lowCoverageFraction then .low else .high

def gatherCoverage (runs : List Int) (window : Reliability.Window) : CoverageFacts :=
  let previousStart := window.start - window.days * day
  let inside := runs.filter fun started => previousStart ≤ started ∧ started < window.now
  let current := (inside.filter fun started => window.start ≤ started).length
  let previous := (inside.filter fun started => started < window.start).length
  let fraction := roundToDouble (current / window.checksExpected)
  let previousFraction := roundToDouble (previous / window.checksExpected)
  { runsObserved := current
    previousRunsObserved := previous
    runsExpected := window.checksExpected
    fraction := roundPlaces fraction 4
    previousFraction := roundPlaces previousFraction 4
    comparable := coverageConfidence fraction = .high && coverageConfidence previousFraction = .high }

def summaryOf (scores : List ReliabilityScore) : GradeSummary where
  servicesScored := scores.length
  reliable := (scores.filter fun score => score.grade = .reliable).length
  degraded := (scores.filter fun score => score.grade = .degraded).length
  unreliable := (scores.filter fun score => score.grade = .unreliable).length
  failing := (scores.filter fun score => score.grade = .failing).length

def flappingOrder (score : ReliabilityScore) : Int ×ₗ Int ×ₗ Text :=
  toLex (-(score.outageEpisodes : Int), toLex (score.score, score.service))

def flappingFacts (score : ReliabilityScore) : FlappingFacts where
  service := score.service
  episodes := score.outageEpisodes
  score := score.score
  grade := score.grade
  uptimePercent := score.uptimePercent
  longestOutageMinutes := score.longestOutageMinutes
  confidence := score.confidence

/-- The flappiest services of `_service_facts`. -/
def flappiestOf (scores : List ReliabilityScore) : List FlappingFacts :=
  (((scores.filter fun score => !score.muted && 0 < score.outageEpisodes).insertionSort
    fun left right =>
    flappingOrder left ≤ flappingOrder right).take topFlapping).map flappingFacts

def gatherAlerts (alerts : List AlertRow) (windowStart previousStart now : Int) : AlertFacts :=
  let counted := alerts.filter fun row => previousStart ≤ row.createdAt ∧ row.createdAt < now
  let rows := counted.filter fun row => windowStart ≤ row.createdAt
  let previousRows := counted.filter fun row => row.createdAt < windowStart
  let distinctTitles := (rows.map AlertRow.title).dedup.length
  let previousDistinctTitles := (previousRows.map AlertRow.title).dedup.length
  let current := alerts.filter fun row => windowStart ≤ row.createdAt ∧ row.createdAt < now
  let previous := alerts.filter fun row => previousStart ≤ row.createdAt ∧ row.createdAt < windowStart
  let currentTitles := (current.map AlertRow.title).dedup
  let previousTitles := (previous.map AlertRow.title).dedup
  { distinctTitles
    previousDistinctTitles
    titleDelta := distinctTitles - previousDistinctTitles
    rows := rows.length
    previousRows := previousRows.length
    newTitles := (currentTitles.filter fun title => title ∉ previousTitles).insertionSort (· ≤ ·)
    clearedTitles := (previousTitles.filter fun title => title ∉ currentTitles).insertionSort (· ≤ ·) }

/-- The anomalies of a span, the newest first. -/
def anomaliesWithin (alerts : List AlertRow) (start stop : Int) : List AnomalyItem :=
  ((alerts.filter fun row => start ≤ row.createdAt ∧
    row.createdAt < stop).insertionSort fun left right =>
    right.createdAt ≤ left.createdAt).filterMap fun row => row.anomaly.map fun details =>
      { title := row.title, details, «at» := row.createdAt }

def swapPercent (row : SnapshotRow) : Option ℚ :=
  let total := row.swapTotalMb.getD 0
  if total = 0 then none
  else some (roundToDouble (roundToDouble (100 * row.swapUsedMb.getD 0) / total))

/-- `_mean`. -/
def meanOf (values : List ℚ) : Option ℚ :=
  if values = [] then none else some (roundPlaces (roundToDouble (sumFloats values / values.length)) 2)

def metricFacts (label : String) (metric : SnapshotRow → Option ℚ)
    (current previous : List SnapshotRow) : MetricFacts :=
  let now := (current.filterMap metric).map roundToDouble
  let was := (previous.filterMap metric).map roundToDouble
  { label := text label
    currentMean := meanOf now
    previousMean := meanOf was
    samples := now.length
    previousSamples := was.length }

/-- The metrics of `_gather_resources`, by `NARRATED_METRICS`. -/
def gatherResources (snapshots : List SnapshotRow) (windowStart previousStart now : Int) :
    List MetricFacts :=
  let rows := snapshots.filter fun row => previousStart ≤ row.recordedAt ∧ row.recordedAt < now
  let current := rows.filter fun row => windowStart ≤ row.recordedAt
  let previous := rows.filter fun row => row.recordedAt < windowStart
  [metricFacts "CPU" SnapshotRow.cpuPercent current previous,
    metricFacts "RAM" SnapshotRow.ramPercent current previous,
    metricFacts "swap" swapPercent current previous,
    metricFacts "load" SnapshotRow.loadAvg15m current previous]

def gatherReviewData (numbers : NumberText) (config : ReliabilityConfig)
    (services : List MonitoredService) (tables : ReviewTables) (periodDays : Option Int)
    (now : Int) : Option ReviewData :=
  let days := (periodDays.filter (· ≠ 0)).getD config.windowDays
  let window : Reliability.Window := { windowOf config now with days }
  let previousStart := window.start - days * day
  let coverage := gatherCoverage tables.agentRuns window
  if coverage.runsObserved = 0 ∧ coverage.previousRunsObserved = 0 then none
  else
    let scores := computeReliability numbers config services tables.checks now
    let advice := reviewAdvice numbers config services tables.checks now
    let anomalies := anomaliesWithin tables.alerts window.start now
    some {
      periodDays := days
      generatedAt := now
      windowStart := window.start
      previousStart
      confidence := coverageConfidence coverage.fraction
      comparable := coverage.comparable
      coverage
      summary := summaryOf scores
      flappiest := flappiestOf scores
      recommendationsTotal := advice.recommendations.length
      recoverablePoints := totalRecoverablePoints advice.recommendations
      alerts := gatherAlerts tables.alerts window.start previousStart now
      anomalyCount := anomalies.length
      previousAnomalyCount := (anomaliesWithin tables.alerts previousStart window.start).length
      anomalies := anomalies.take topAnomalies
      metrics := gatherResources tables.snapshots window.start previousStart now }

def confidencePhrase (confidence : Reliability.Confidence) (comparable : Bool) : Text :=
  let thisWeek := match confidence with
    | .low =>
      text ("The monitoring service itself was not running for much of this period, so this record is " ++
      "incomplete. That says nothing about how the machine behaved — only about how much of it was seen. " ++
      "Everything below is a floor and nothing here should be read as quiet.")
    | .high =>
      text "The monitoring service ran for essentially the whole period, so the record is complete."
  if comparable then thisWeek
  else thisWeek ++
    text (" The two periods were not watched equally closely, so any change between them describes " ++
      "the watching as much as the machine.")

def directionPhrase (direction : Direction) (comparable : Bool) : Text :=
  match direction with
  | .up => text "raised more distinct faults"
  | .steady => text "raised the same number of distinct faults"
  | .down =>
    if comparable then text "raised fewer distinct faults"
    else text "recorded fewer distinct faults, which may be the watching rather than the machine"

inductive Movement where
  | notSampled | noEarlier | roseFromNothing | stayedAtNothing | higher | lower | steady
deriving DecidableEq

def movementOf (current previous : Option ℚ) : Movement :=
  match current, previous with
  | none, _ => .notSampled
  | some _, none => .noEarlier
  | some current, some previous =>
    if previous = 0 then (if 0 < current then .roseFromNothing else .stayedAtNothing)
    else
      let change := roundToDouble (roundToDouble (current - previous) / |previous|)
      if steadyFraction < change then .higher
      else if change < -steadyFraction then .lower
      else .steady

def movementPhrase : Movement → Text
  | .notSampled => text "was not sampled"
  | .noEarlier => text "has no earlier period to compare against"
  | .roseFromNothing => text "rose from nothing"
  | .stayedAtNothing => text "stayed at nothing"
  | .higher => text "ran higher than last period"
  | .lower => text "ran lower than last period"
  | .steady => text "held steady"

/-- The worst grade there is; `reliable` where there is none below it. -/
def worstGrade (summary : GradeSummary) : Grade :=
  if summary.failing ≠ 0 then .failing
  else if summary.unreliable ≠ 0 then .unreliable
  else if summary.degraded ≠ 0 then .degraded
  else .reliable

def gradePhrase : Grade → Text
  | .failing => text "at least one service failed outright"
  | .unreliable => text "at least one service was unreliable"
  | .degraded => text "some services were degraded"
  | .reliable => text "every service held up"

def reviewInstructions : Text :=
  text ("Write three brief plain-text sections: 1) The week: how the machine held up, judging from SERVICE " ++
    "RELIABILITY and ALERT ACTIVITY; 2) Look at first: at most three entries taken from SERVICE RELIABILITY only, " ++
    "named exactly as spelt above, or 'nothing' if that list is empty; 3) Watch: anything in RESOURCE TREND or " ++
    "ANOMALIES moving the wrong way that is not yet urgent, or 'nothing' if there is none. Do not discuss disk " ++
    "space; a separate review covers it. Figures are reported separately, so do not state any number, count, " ++
    "multiple, percentage or date — describe magnitude in words. Hard limit 150 words. Plain prose only: no " ++
    "markdown, no headings, no numbered or bulleted lists. Begin directly with the first section: do not " ++
    "introduce, acknowledge or restate the request.")

def repeated (row : FlappingFacts) : Bool := 1 < row.episodes

def flappingLine (row : FlappingFacts) : Text :=
  text "- " ++ row.service ++ text ": " ++
    (if repeated row then text "dropped out repeatedly" else text "dropped out once") ++
      text ", graded " ++
    row.grade.word ++ text "."

def AnomalyDirection.word : AnomalyDirection → Text
  | .above => text "above"
  | .below => text "below"

def anomalyResource (item : AnomalyItem) : Text :=
  (item.details.resource.filter (· ≠ [])).getD (text "a resource")

def anomalyWord (direction : Option AnomalyDirection) : Text :=
  (direction.map AnomalyDirection.word).getD (text "away from")

def anomalyLine (item : AnomalyItem) : Text :=
  text "- " ++ anomalyResource item ++ text " ran unusually " ++
    anomalyWord item.details.direction ++ text " its recent average."

def metricLine (row : MetricFacts) : Text :=
  text "- " ++ row.label ++ text ": " ++ movementPhrase
    (movementOf row.currentMean row.previousMean) ++ text "."

/-- The lines of the prompt that come from the data. -/
def dataLines (data : ReviewData) : List Text :=
  [text "Weekly system health report for one Linux workstation.",
    confidencePhrase data.confidence data.comparable, [],
      text "SERVICE RELIABILITY:", text "- Overall: " ++ gradePhrase (worstGrade data.summary) ++
      text "."] ++
    (if data.flappiest = [] then [text "- No service dropped out this period."]
      else data.flappiest.map flappingLine) ++
    [[], text "ALERT ACTIVITY:",
      text "- The machine " ++ directionPhrase (directionOf data.alerts.titleDelta)
      data.comparable ++ text "."] ++
    (if data.alerts.newTitles = [] then []
      else [text "- Some faults appeared for the first time this period."]) ++
    [[], text "ANOMALIES:"] ++
    (if data.anomalies = [] then [text "- No resource strayed from its recent average."]
      else data.anomalies.map anomalyLine) ++
    [[], text "RESOURCE TREND (disk is covered by a separate review):"] ++
    data.metrics.map metricLine

def buildReviewPrompt (data : ReviewData) : Text :=
  (text "\n").intercalate (dataLines data ++ [[], reviewInstructions])

/-! What the prompt shows. -/

/-- What is seen of a service that dropped out: its name, whether more than once, and its grade. -/
def FlappingFacts.view (row : FlappingFacts) : Text × Bool × Grade :=
  (row.service, repeated row, row.grade)

def AnomalyItem.view (item : AnomalyItem) : Option Text × Option AnomalyDirection :=
  (item.details.resource, item.details.direction)

def MetricFacts.view (row : MetricFacts) : Text × Movement :=
  (row.label, movementOf row.currentMean row.previousMean)

/-- The names and the grades, directions and bands of the counts: `comparable` is a band of the two
windows' coverages, and `newFaults` one of the number of new titles. -/
structure ReviewView where
  confidence : Reliability.Confidence
  comparable : Bool
  worst : Grade
  flappiest : List (Text × Bool × Grade)
  faults : Direction
  newFaults : Bool
  anomalies : List (Option Text × Option AnomalyDirection)
  metrics : List (Text × Movement)

def ReviewData.view (data : ReviewData) : ReviewView where
  confidence := data.confidence
  comparable := data.comparable
  worst := worstGrade data.summary
  flappiest := data.flappiest.map FlappingFacts.view
  faults := directionOf data.alerts.titleDelta
  newFaults := data.alerts.newTitles ≠ []
  anomalies := data.anomalies.map AnomalyItem.view
  metrics := data.metrics.map MetricFacts.view

/-- The names in the prompt: those of services and of resources. -/
def ReviewData.names (data : ReviewData) : List Text :=
  data.flappiest.map FlappingFacts.service ++ data.anomalies.filterMap
    (fun item => item.details.resource) ++ data.metrics.map MetricFacts.label

theorem flappingLine_of_view (first second : FlappingFacts) (same : first.view = second.view) :
    flappingLine first = flappingLine second := by
  simp only [FlappingFacts.view, Prod.mk.injEq] at same
  obtain ⟨service, often, grade⟩ := same
  rw [flappingLine, flappingLine, service, often, grade]

theorem anomalyLine_of_view (first second : AnomalyItem) (same : first.view = second.view) :
    anomalyLine first = anomalyLine second := by
  simp only [AnomalyItem.view, Prod.mk.injEq] at same
  obtain ⟨resource, direction⟩ := same
  rw [anomalyLine, anomalyLine, anomalyResource, anomalyResource, resource, direction]

theorem metricLine_of_view (first second : MetricFacts) (same : first.view = second.view) :
    metricLine first = metricLine second := by
  simp only [MetricFacts.view, Prod.mk.injEq] at same
  rw [metricLine, metricLine, same.1, same.2]

theorem healthPrompt_of_view {left right : ReviewData} (same : left.view = right.view) :
    buildReviewPrompt left = buildReviewPrompt right := by
  simp only [ReviewData.view, ReviewView.mk.injEq, decide_eq_decide, ne_eq, not_iff_not] at same
  obtain ⟨confidence, comparable, worst, flappiest, faults, newFaults, anomalies, metrics⟩ := same
  have dropped := map_of_view flappingLine_of_view flappiest
  have strayed := map_of_view anomalyLine_of_view anomalies
  have measured := map_of_view metricLine_of_view metrics
  simp only [buildReviewPrompt, dataLines, confidence, comparable, worst, faults, newFaults,
    dropped, strayed, measured, eq_nil_of_view flappiest, eq_nil_of_view anomalies]

theorem confidencePhrase_plain (confidence : Reliability.Confidence) (comparable : Bool) :
    (confidencePhrase confidence comparable).all isPlain = true := by
  have complete :
      (text "The monitoring service ran for essentially the whole period, so the record is complete.").all
      isPlain = true := plain_of_spelt rfl (by decide)
  have incomplete :
      (text ("The monitoring service itself was not running for much of this period, so this record is " ++
      "incomplete. That says nothing about how the machine behaved — only about how much of it was seen. " ++
      "Everything below is a floor and nothing here should be read as quiet.")).all isPlain =
        true := by
    rw [text_append, text_append]
    exact plain_append (plain_append (plain_of_spelt rfl (by decide))
      (plain_of_spelt rfl (by decide))) (plain_of_spelt rfl (by decide))
  have uneven :
      (text (" The two periods were not watched equally closely, so any change between them describes " ++
      "the watching as much as the machine.")).all isPlain = true := by
    rw [text_append]
    exact plain_append (plain_of_spelt rfl (by decide)) (plain_of_spelt rfl (by decide))
  cases confidence with
  | low =>
    cases comparable with
    | false => exact plain_append incomplete uneven
    | true => exact incomplete
  | high =>
    cases comparable with
    | false => exact plain_append complete uneven
    | true => exact complete

theorem directionPhrase_plain (direction : Direction) (comparable : Bool) :
    (directionPhrase direction comparable).all isPlain = true := by
  cases direction with
  | up => exact plain_of_spelt rfl (by decide)
  | steady => exact plain_of_spelt rfl (by decide)
  | down => cases comparable <;> exact plain_of_spelt rfl (by decide)

theorem movementPhrase_plain (movement : Movement) : (movementPhrase movement).all isPlain = true := by
  cases movement <;> exact plain_of_spelt rfl (by decide)

theorem gradePhrase_plain (grade : Grade) : (gradePhrase grade).all isPlain = true := by
  cases grade <;> exact plain_of_spelt rfl (by decide)

theorem gradeWord_plain (grade : Grade) : grade.word.all isPlain = true := by
  cases grade <;> exact plain_of_spelt rfl (by decide)

theorem anomalyWord_plain (direction : Option AnomalyDirection) :
    (anomalyWord direction).all isPlain = true := by
  rcases direction with _ | direction
  · exact plain_of_spelt rfl (by decide)
  · cases direction <;> exact plain_of_spelt rfl (by decide)

section

variable {database : CharDatabase} {names : List Text}

theorem onlyNames_flappingLine (noDigit : database.isDigit dash = false) {row : FlappingFacts}
    (named : row.service ∈ names) : OnlyNames database.isDigit names (flappingLine row) := by
  have plain : ∀ {value : Text}, value.all isPlain = true → OnlyNames database.isDigit names value :=
    fun free => onlyNames_plain noDigit free
  have often : OnlyNames database.isDigit names
      (if repeated row then text "dropped out repeatedly" else text "dropped out once") := by
    split <;> exact plain (plain_of_spelt rfl (by decide))
  exact ((((((plain (plain_of_spelt rfl (by decide))).append (.quoted named)).append
    (plain (plain_of_spelt rfl (by decide)))).append
    often).append (plain (plain_of_spelt rfl (by decide)))).append
      (plain (gradeWord_plain row.grade))).append
    (plain (plain_of_spelt rfl (by decide)))

theorem onlyNames_anomalyLine (noDigit : database.isDigit dash = false) {item : AnomalyItem}
    (named : ∀ resource ∈ item.details.resource, resource ∈ names) :
    OnlyNames database.isDigit names (anomalyLine item) := by
  have plain : ∀ {value : Text}, value.all isPlain = true → OnlyNames database.isDigit names value :=
    fun free => onlyNames_plain noDigit free
  have resource : OnlyNames database.isDigit names (anomalyResource item) := by
    rw [anomalyResource]
    cases shown : item.details.resource.filter (· ≠ []) with
    | none => exact plain (plain_of_spelt rfl (by decide))
    | some resource => exact .quoted (named resource (Option.filter_eq_some_iff.mp shown).1)
  exact ((((plain (plain_of_spelt rfl (by decide))).append resource).append
    (plain (plain_of_spelt rfl (by decide)))).append
    (plain (anomalyWord_plain _))).append (plain (plain_of_spelt rfl (by decide)))

theorem onlyNames_metricLine (noDigit : database.isDigit dash = false) {row : MetricFacts}
    (named : row.label ∈ names) : OnlyNames database.isDigit names (metricLine row) := by
  have plain : ∀ {value : Text}, value.all isPlain = true → OnlyNames database.isDigit names value :=
    fun free => onlyNames_plain noDigit free
  exact ((((plain (plain_of_spelt rfl (by decide))).append (.quoted named)).append
    (plain (plain_of_spelt rfl (by decide)))).append
    (plain (movementPhrase_plain _))).append (plain (plain_of_spelt rfl (by decide)))

theorem onlyNames_dataLines (noDigit : database.isDigit dash = false) (data : ReviewData) :
    ∀ line ∈ dataLines data, OnlyNames database.isDigit data.names line := by
  have plain : ∀ {value : Text}, value.all isPlain = true →
      OnlyNames database.isDigit data.names value :=
    fun free => onlyNames_plain noDigit free
  have service : ∀ row ∈ data.flappiest, row.service ∈ data.names := fun row member =>
    List.mem_append_left _ (List.mem_append_left _ (List.mem_map.mpr ⟨row, member, rfl⟩))
  have resource : ∀ item ∈ data.anomalies, ∀ resource ∈ item.details.resource, resource ∈ data.names :=
    fun item member resource found =>
      List.mem_append_left _ (List.mem_append_right _ (List.mem_filterMap.mpr ⟨item, member, found⟩))
  have label : ∀ row ∈ data.metrics, row.label ∈ data.names := fun row member =>
    List.mem_append_right _ (List.mem_map.mpr ⟨row, member, rfl⟩)
  have dropped : ∀ line ∈ (if data.flappiest = [] then [text "- No service dropped out this period."]
      else data.flappiest.map flappingLine), OnlyNames database.isDigit data.names line := by
    split
    · exact List.forall_mem_singleton.mpr (plain (plain_of_spelt rfl (by decide)))
    · exact List.forall_mem_map.mpr fun row member =>
        onlyNames_flappingLine noDigit (service row member)
  have appeared : ∀ line ∈ (if data.alerts.newTitles = [] then []
      else [text "- Some faults appeared for the first time this period."]),
      OnlyNames database.isDigit data.names line := by
    split
    · exact List.forall_mem_nil _
    · exact List.forall_mem_singleton.mpr (plain (plain_of_spelt rfl (by decide)))
  have strayed :
      ∀ line ∈ (if data.anomalies = [] then [text "- No resource strayed from its recent average."]
        else data.anomalies.map anomalyLine), OnlyNames database.isDigit data.names line := by
    split
    · exact List.forall_mem_singleton.mpr (plain (plain_of_spelt rfl (by decide)))
    · exact List.forall_mem_map.mpr fun item member =>
        onlyNames_anomalyLine noDigit (resource item member)
  have overall : OnlyNames database.isDigit data.names
      (text "- Overall: " ++ gradePhrase (worstGrade data.summary) ++ text ".") :=
    ((plain (plain_of_spelt rfl (by decide))).append (plain (gradePhrase_plain _))).append
      (plain (plain_of_spelt rfl (by decide)))
  have faults : OnlyNames database.isDigit data.names
      (text "- The machine " ++ directionPhrase (directionOf data.alerts.titleDelta)
        data.comparable ++ text ".") :=
    ((plain (plain_of_spelt rfl (by decide))).append (plain (directionPhrase_plain _ _))).append
      (plain (plain_of_spelt rfl (by decide)))
  simp only [dataLines, List.forall_mem_append, List.forall_mem_cons, List.forall_mem_map,
    List.not_mem_nil, false_implies, implies_true, and_true]
  exact ⟨⟨⟨⟨⟨⟨⟨⟨plain (plain_of_spelt rfl (by decide)), plain (confidencePhrase_plain _ _), .nil,
    plain (plain_of_spelt rfl (by decide)), overall⟩, dropped⟩, .nil,
    plain (plain_of_spelt rfl (by decide)), faults⟩, appeared⟩, .nil,
    plain (plain_of_spelt rfl (by decide))⟩, strayed⟩, .nil,
    plain (plain_of_spelt rfl (by decide))⟩, fun row member =>
    onlyNames_metricLine noDigit (label row member)⟩

theorem healthPrompt_onlyNames (noDigit : database.isDigit dash = false) (data : ReviewData) :
    ∃ half, buildReviewPrompt data = half ++ reviewInstructions ∧
      OnlyNames database.isDigit data.names half :=
  onlyNames_prompt noDigit (onlyNames_dataLines noDigit data) reviewInstructions

end

end SysadminAssistant.Monitor.HealthReview
