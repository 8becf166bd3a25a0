import SysadminAssistant.Monitor.Services
import SysadminAssistant.Python.Dict
import SysadminAssistant.Python.Rounding
import Mathlib.Data.List.Sort
import Mathlib.Data.Prod.Lex

namespace SysadminAssistant.Monitor.Reliability

open Python

/-! Scores off recorded health checks (`sysadmin/monitor/reliability.py`).  Instants and spans
are in microseconds. -/

structure HealthPoint where
  checkedAt : Int
  status : ServiceStatus
deriving DecidableEq

/-- In the order of their words. -/
inductive DeductionKind where
  | downtime | instability
deriving DecidableEq

structure Deduction where
  kind : DeductionKind
  points : Int
  detail : Text
  waived : Bool
deriving DecidableEq

inductive Grade where
  | reliable | degraded | unreliable | failing
deriving DecidableEq

inductive Confidence where
  | high | low
deriving DecidableEq

structure ReliabilityScore where
  service : Text
  score : Int
  grade : Grade
  uptimePercent : ℚ
  checksRecorded : Nat
  checksMeasured : Nat
  failedChecks : Nat
  errorChecks : Nat
  skippedChecks : Nat
  outageEpisodes : Nat
  longestOutageMinutes : ℚ
  meanHoursBetweenIncidents : Option ℚ
  episodeStarts : List Int
  checksExpected : Int
  coveragePercent : ℚ
  observedDays : ℚ
  confidence : Confidence
  confidenceReason : Option Text
  windowDays : Int
  windowStart : Int
  firstCheckAt : Option Int
  lastCheckAt : Option Int
  muted : Bool
  waivedPoints : Int
  deductions : List Deduction

/-- How a float is written: as `:g`, and to so many places. -/
structure NumberText where
  general : ℚ → Text
  fixed : Nat → ℚ → Text

structure GradeBands where
  reliableMin : Int
  degradedMin : Int
  unreliableMin : Int

structure Window where
  days : Int
  checkIntervalSeconds : Int
  now : Int
  gradeBands : GradeBands

def Window.start (window : Window) : Int := window.now - window.days * day

def Window.checksExpected (window : Window) : Int :=
  max 1 (truncate (roundToDouble (window.days * 86400 / max 1 window.checkIntervalSeconds)))

def downtimeCap : Int := 60

def instabilityPerEpisode : Int := 5

def instabilityCap : Int := 25

def unmeasuredStatuses : List ServiceStatus := [.error, .skipped]

def downStatuses : List ServiceStatus := [.degraded, .warning, .critical, .unreachable]

def lowCoverageFraction : ℚ := roundToDouble (1 / 2)

def minConfidentHistoryDays : ℚ := 2

/-- `_grade`. -/
def gradeOf (score : Int) (bands : GradeBands) : Grade :=
  if bands.reliableMin ≤ score then .reliable
  else if bands.degradedMin ≤ score then .degraded
  else if bands.unreliableMin ≤ score then .unreliable
  else .failing

/-- `_outage_episodes`, from the episode that is open. -/
def outageEpisodes : Option (Int × Int) → List HealthPoint → List (Int × Int)
  | running, [] => running.toList
  | running, point :: rest =>
    if point.status ∈ downStatuses then
      outageEpisodes (some ((running.map Prod.fst).getD point.checkedAt, point.checkedAt)) rest
    else running.toList ++ outageEpisodes none rest

/-- The longest of a list of seconds. -/
def longest : List ℚ → ℚ
  | [] => 0
  | first :: rest => rest.foldl max first

def DeductionKind.rank : DeductionKind → Nat
  | .downtime => 0
  | .instability => 1

def Deduction.order (deduction : Deduction) : Int ×ₗ Nat :=
  toLex (-deduction.points, deduction.kind.rank)

section

variable (numbers : NumberText)

/-- `_confidence`. -/
def confidenceOf (observedDays coveragePercent : ℚ) : Confidence × Option Text :=
  if observedDays < minConfidentHistoryDays then
    (.low, some (text "only " ++ numbers.general observedDays ++
      text " days of history — the service was added recently or checks have only just started"))
  else if coveragePercent < roundToDouble (lowCoverageFraction * 100) then
    (.low, some (numbers.general coveragePercent ++
      text "% of expected checks recorded — the monitor was down for much of the window"))
  else (.high, none)

/-- `_deductions`. -/
def deductionsOf (result : ReliabilityScore) (muted : Bool) : List Deduction :=
  let downtime := min downtimeCap (roundHalfEven (roundToDouble (100 - result.uptimePercent)))
  let raw := instabilityPerEpisode * result.outageEpisodes
  let instability := min instabilityCap raw
  let charged : List Deduction :=
    (if 0 < downtime then [{
        kind := .downtime
        points := downtime
        detail := numbers.general result.uptimePercent ++ text "% uptime across " ++
          intText result.checksMeasured ++
          text " measured checks — " ++ intText result.failedChecks ++ text " failed" ++
          (if downtime = downtimeCap then text " (capped)" else []) ++ text "."
        waived := muted }] else []) ++
    (if 0 < result.outageEpisodes then [{
        kind := .instability
        points := instability
        detail := intText result.outageEpisodes ++ text " separate outage" ++
          (if result.outageEpisodes = 1 then [] else text "s") ++
          (if result.longestOutageMinutes = 0 then []
            else text ", longest " ++ numbers.general result.longestOutageMinutes ++ text " min") ++
          text " — " ++ intText instabilityPerEpisode ++ text " points each" ++
          (if instability < raw then text " (capped)" else []) ++ text "."
        waived := muted }] else [])
  charged.insertionSort fun left right => left.order ≤ right.order

def pointsOf (deductions : List Deduction) : Int := (deductions.map Deduction.points).sum

/-- What a window of no checks leaves of a score. -/
def unmeasured (service : Text) (window : Window) (muted : Bool) : ReliabilityScore where
  service
  score := 100
  grade := gradeOf 100 window.gradeBands
  uptimePercent := 100
  checksRecorded := 0
  checksMeasured := 0
  failedChecks := 0
  errorChecks := 0
  skippedChecks := 0
  outageEpisodes := 0
  longestOutageMinutes := 0
  meanHoursBetweenIncidents := none
  episodeStarts := []
  checksExpected := window.checksExpected
  coveragePercent := 0
  observedDays := 0
  confidence := .low
  confidenceReason := some (text "no checks recorded in the window")
  windowDays := window.days
  windowStart := window.start
  firstCheckAt := none
  lastCheckAt := none
  muted
  waivedPoints := 0
  deductions := []

/-- The checks of a window, in order. -/
def checksInside (window : Window) (points : List HealthPoint) : List HealthPoint :=
  (points.filter fun point => window.start ≤ point.checkedAt).insertionSort fun left right =>
    left.checkedAt ≤ right.checkedAt

def seconds (spans : List (Int × Int)) : List ℚ := spans.map fun span => totalSeconds (span.2 - span.1)

def meanHours (starts : List Int) : Option ℚ :=
  let gaps := seconds (starts.zip (starts.drop 1))
  if gaps = [] then none
  else some (roundPlaces (roundToDouble (roundToDouble (sumFloats gaps / gaps.length) / 3600)) 1)

/-- What is known of a window before anything in it is measured. -/
def recorded (service : Text) (window : Window) (muted : Bool) (first last : HealthPoint)
    (inside : List HealthPoint) : ReliabilityScore :=
  let errorChecks := (inside.filter fun point => point.status = .error).length
  let skippedChecks := (inside.filter fun point => point.status = .skipped).length
  { unmeasured service window muted with
    checksRecorded := inside.length
    firstCheckAt := some first.checkedAt
    lastCheckAt := some last.checkedAt
    observedDays :=
      roundPlaces (roundToDouble (totalSeconds (last.checkedAt - first.checkedAt) / 86400)) 2
    coveragePercent :=
      roundPlaces (roundToDouble (roundToDouble (100 * inside.length) / window.checksExpected)) 2
    errorChecks
    skippedChecks
    checksMeasured := (inside.filter fun point => point.status ∉ unmeasuredStatuses).length
    confidenceReason := some (if skippedChecks ≠ 0 ∧ errorChecks = 0 then
        text "not monitored — services.yaml declares monitor: false, so all " ++
          intText skippedChecks ++ text " checks in the window recorded no evidence either way"
      else text "every check in the window was unmeasurable") }

/-- What the measured checks of a window add to it. -/
def measuredScore (window : Window) (muted : Bool) (result : ReliabilityScore)
    (measured : List HealthPoint) : ReliabilityScore :=
  let failedChecks := (measured.filter fun point => point.status ∈ downStatuses).length
  let episodes := outageEpisodes none measured
  let (confidence, confidenceReason) := confidenceOf numbers result.observedDays result.coveragePercent
  let rated : ReliabilityScore :=
    { result with
      failedChecks
      uptimePercent := roundPlaces
        (roundToDouble (roundToDouble (100 * (measured.length - failedChecks : Int)) /
          measured.length)) 2
      outageEpisodes := episodes.length
      episodeStarts := episodes.map Prod.fst
      longestOutageMinutes := roundPlaces (roundToDouble (longest (seconds episodes) / 60)) 1
      meanHoursBetweenIncidents := meanHours (episodes.map Prod.fst)
      confidence
      confidenceReason }
  let deductions := deductionsOf numbers rated muted
  let score := max 0 (100 - pointsOf (deductions.filter fun deduction => !deduction.waived))
  { rated with
    deductions
    waivedPoints := pointsOf (deductions.filter Deduction.waived)
    score
    grade := gradeOf score window.gradeBands }

def scoreService (window : Window) (service : Text) (points : List HealthPoint) (muted : Bool) :
    ReliabilityScore :=
  match checksInside window points with
  | [] => unmeasured service window muted
  | first :: rest =>
    let inside := first :: rest
    let result := recorded service window muted first (inside.getLast?.getD first) inside
    match inside.filter fun point => point.status ∉ unmeasuredStatuses with
    | [] => result
    | measured => measuredScore numbers window muted result measured

def ReliabilityScore.order (score : ReliabilityScore) : Int ×ₗ Text :=
  toLex (score.score, score.service)

def scoreServices (window : Window) (series : Dict Text (List HealthPoint)) (muted : List Text) :
    List ReliabilityScore :=
  (series.entries.map fun entry => scoreService numbers window entry.1 entry.2
    (entry.1 ∈ muted)).insertionSort fun left right => left.order ≤ right.order

end

@[simp] theorem scoreService_service (numbers : NumberText) (window : Window) (service : Text)
    (points : List HealthPoint) (muted : Bool) :
    (scoreService numbers window service points muted).service = service := by
  simp only [scoreService]
  split
  · rfl
  · split <;> rfl

@[simp] theorem scoreService_muted (numbers : NumberText) (window : Window) (service : Text)
    (points : List HealthPoint) (muted : Bool) :
    (scoreService numbers window service points muted).muted = muted := by
  simp only [scoreService]
  split
  · rfl
  · split <;> rfl

theorem scoreServices_nodup (numbers : NumberText) (window : Window)
    (series : Dict Text (List HealthPoint)) (muted : List Text) :
    ((scoreServices numbers window series muted).map ReliabilityScore.service).Nodup := by
  have sorted : ((scoreServices numbers window series muted).map ReliabilityScore.service).Perm
      (series.entries.map Prod.fst) := by
    refine ((List.perm_insertionSort _ _).map _).trans ?_
    simp [List.map_map, Function.comp_def]
  exact sorted.nodup_iff.mpr series.nodup

end SysadminAssistant.Monitor.Reliability
