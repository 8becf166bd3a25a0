import SysadminAssistant.Library.CensoredCounts
import SysadminAssistant.Monitor.HealthReview
import SysadminAssistant.Monitor.LogQuery
import SysadminAssistant.Monitor.LogReview
import SysadminAssistant.Python.DoubleBounds

namespace SysadminAssistant.Monitor.ClaimedDirections

open Python Library LogQuery

/-! What the reviews say of a movement from one period to the next, against what went unseen of
either. -/

theorem directionCertain_iff {current previous : CensoredCount} {more fewer same trusted : Prop}
    (rise : more ↔ previous.recorded < current.recorded)
    (fall : fewer ↔ current.recorded < previous.recorded ∧ trusted)
    (still : same ↔ current.recorded = previous.recorded) :
    DirectionCertain current previous more fewer same ↔
      (previous.recorded < current.recorded → previous.complete) ∧
      (current.recorded < previous.recorded → trusted → current.complete) ∧
      (current.recorded = previous.recorded → current.complete ∧ previous.complete) := by
  constructor
  · intro certain
    refine ⟨fun rose => ?_, fun fell trust => ?_, fun stayed => ?_⟩
    · exact (CensoredCount.more_iff.mp (certain.more (rise.mpr rose))).2
    · exact (CensoredCount.fewer_iff.mp (certain.fewer (fall.mpr ⟨fell, trust⟩))).2
    · exact (CensoredCount.same_iff.mp (certain.same (still.mpr stayed))).2
  · intro seen
    obtain ⟨rising, falling, staying⟩ := seen
    refine ⟨fun states => ?_, fun states => ?_, fun states => ?_⟩
    · exact CensoredCount.more_iff.mpr ⟨rise.mp states, rising (rise.mp states)⟩
    · obtain ⟨fell, trust⟩ := fall.mp states
      exact CensoredCount.fewer_iff.mpr ⟨fell, falling fell trust⟩
    · exact CensoredCount.same_iff.mpr ⟨still.mp states, staying (still.mp states)⟩

section Health

open HealthReview

/-- So many runs of those expected are at or above the threshold of coverage. -/
def Watched (runs : Nat) (expected : Int) : Prop :=
  coverageConfidence (roundToDouble (runs / expected)) = .high

def currentTitles (data : HealthReview.ReviewData) : CensoredCount :=
  ⟨data.alerts.distinctTitles, Watched data.coverage.runsObserved data.coverage.runsExpected⟩

def previousTitles (data : HealthReview.ReviewData) : CensoredCount :=
  ⟨data.alerts.previousDistinctTitles,
    Watched data.coverage.previousRunsObserved data.coverage.runsExpected⟩

def titlePhrase (data : HealthReview.ReviewData) : Text :=
  directionPhrase (directionOf data.alerts.titleDelta) data.comparable

/-- What the health review says of the machine's faults. -/
def HealthCertain (data : HealthReview.ReviewData) : Prop :=
  DirectionCertain (currentTitles data) (previousTitles data)
    (titlePhrase data = text "raised more distinct faults")
      (titlePhrase data = text "raised fewer distinct faults")
    (titlePhrase data = text "raised the same number of distinct faults")

/-- The earlier period was watched where more faults are recorded than in it, both where there are
as many. -/
def HealthSeen (data : HealthReview.ReviewData) : Prop :=
  ((previousTitles data).recorded < (currentTitles data).recorded → (previousTitles data).complete) ∧
    ((currentTitles data).recorded = (previousTitles data).recorded →
      (currentTitles data).complete ∧ (previousTitles data).complete)

theorem healthPhrase_iff (direction : Direction) (comparable : Bool) :
    (directionPhrase direction comparable = text "raised more distinct faults" ↔ direction = .up) ∧
      (directionPhrase direction comparable = text "raised fewer distinct faults" ↔
        direction = .down ∧ comparable = true) ∧
      (directionPhrase direction comparable = text "raised the same number of distinct faults" ↔
        direction = .steady) := by
  cases direction <;> cases comparable <;> decide

variable {numbers : Reliability.NumberText} {config : Reliability.ReliabilityConfig}
  {services : List Reliability.MonitoredService} {tables : ReviewTables} {periodDays : Option Int}
  {now : Int} {data : HealthReview.ReviewData}

theorem gathered_titles
    (gathered : gatherReviewData numbers config services tables periodDays now = some data) :
    data.alerts.titleDelta = (data.alerts.distinctTitles : Int) - data.alerts.previousDistinctTitles ∧
      (data.comparable = true ↔ (currentTitles data).complete ∧ (previousTitles data).complete) := by
  rw [gatherReviewData] at gathered
  simp only at gathered
  rw [Option.ite_none_left_eq_some] at gathered
  rw [← Option.some.inj gathered.2]
  refine ⟨rfl, ?_⟩
  simp only [gatherCoverage, currentTitles, previousTitles, Watched, Bool.and_eq_true,
    decide_eq_true_eq]

theorem healthCertain_iff
    (gathered : gatherReviewData numbers config services tables periodDays now = some data) :
    HealthCertain data ↔ HealthSeen data := by
  obtain ⟨delta, comparable⟩ := gathered_titles gathered
  obtain ⟨up, down, steady⟩ := directionOf_iff data.alerts.titleDelta
  obtain ⟨more, fewer, same⟩ := healthPhrase_iff (directionOf data.alerts.titleDelta) data.comparable
  have certain :=
    @directionCertain_iff (currentTitles data) (previousTitles data) _ _ _ (data.comparable = true)
    (more.trans (up.trans (by rw [delta]; exact sub_pos.trans Nat.cast_lt)))
    (fewer.trans (and_congr (down.trans (by rw [delta]; exact sub_neg.trans Nat.cast_lt)) Iff.rfl))
    (same.trans (steady.trans (by rw [delta]; exact sub_eq_zero.trans Nat.cast_inj)))
  refine certain.trans ⟨fun seen => ⟨seen.1, seen.2.2⟩, fun seen =>
    ⟨seen.1, fun _ trust => ?_, seen.2⟩⟩
  exact (comparable.mp trust).1

end Health

section Logs

open LogReview Advice

/-- All the polls expected, and none of them cut off. -/
def Read (config : LogAggregatorConfig) (runs : List PollRun) (days : Int) : Prop :=
  pollsExpected config days ≤ runs.length ∧ ∀ run ∈ runs, run.truncated = false

def currentPolls (runs : List PollRun) (days now : Int) : List PollRun :=
  runs.filter fun run => now - days * day ≤ run.startedAt

def previousPolls (runs : List PollRun) (days now : Int) : List PollRun :=
  runs.filter fun run => now - days * 2 * day ≤ run.startedAt ∧ run.startedAt < now - days * day

/-- What the polls of both windows show together. -/
structure ReadTogether (config : LogAggregatorConfig) (runs : List PollRun) (days now : Int) :
    Prop where
  expected : 0 < (trendCoverage config runs (now - days * 2 * day) days).runsExpected
  uncut : ∀ run ∈ runs, now - days * 2 * day ≤ run.startedAt → run.truncated = false
  enough : 1 ≤ roundToDouble ((trendCoverage config runs (now - days * 2 * day) days).runsObserved /
    (trendCoverage config runs (now - days * 2 * day) days).runsExpected)

theorem confidence_high_iff (coverage : WindowCoverage) : coverage.confidence = .high ↔
    0 < coverage.runsExpected ∧ coverage.runsTruncated ≤ 0 ∧
      1 ≤ roundToDouble (coverage.runsObserved / coverage.runsExpected) := by
  rw [WindowCoverage.confidence]
  by_cases expected : coverage.runsExpected ≤ 0
  · rw [if_pos expected]
    simp [not_lt.mpr expected]
  · rw [if_neg expected]
    by_cases cut : coverage.runsTruncated ≤ 0
    · have low : ¬ coverage.truncatedFraction > truncationLowFraction := by
        rw [WindowCoverage.truncatedFraction, if_pos cut, gt_iff_lt, not_lt]
        exact roundToDouble_nonneg (by norm_num)
      have fraction : coverage.fraction =
          min 1 (roundToDouble (coverage.runsObserved / coverage.runsExpected)) :=
        if_neg expected
      rw [if_neg low, if_neg (not_lt.mpr cut), fraction]
      by_cases enough : 1 ≤ roundToDouble (coverage.runsObserved / coverage.runsExpected)
      · rw [min_eq_left enough, if_neg (by norm_num [lowCoverageFraction]), if_neg (lt_irrefl _)]
        exact ⟨fun _ => ⟨not_le.mp expected, cut, enough⟩, fun _ => rfl⟩
      · rw [min_eq_right (not_le.mp enough).le, if_pos (not_le.mp enough), ite_self]
        simp [enough]
    · have demoted : (if coverage.truncatedFraction > truncationLowFraction then Confidence.low else
          if coverage.runsTruncated > 0 then .medium else if coverage.fraction < lowCoverageFraction
            then .medium else
            if coverage.fraction < 1 then .medium else .high) ≠ .high := by
        rw [if_pos (not_le.mp cut)]
        by_cases low : coverage.truncatedFraction > truncationLowFraction
        · rw [if_pos low]
          decide
        · rw [if_neg low]
          decide
      exact ⟨fun high => absurd high demoted, fun facts => absurd facts.2.1 cut⟩

theorem logPhrase_iff (direction : Direction) (confidence : Confidence) :
    (directionPhrase direction confidence = text "got louder" ↔ direction = .up) ∧
      (directionPhrase direction confidence = text "got quieter" ↔ direction = .down ∧
        confidence = .high) ∧
      (directionPhrase direction confidence = text "held steady" ↔ direction = .steady) := by
  cases direction <;> cases confidence <;> decide

def currentErrors (config : LogAggregatorConfig) (runs : List PollRun) (days now : Int)
    (row : SourceFacts) : CensoredCount :=
  ⟨row.currentErrors, Read config (currentPolls runs days now) days⟩

def previousErrors (config : LogAggregatorConfig) (runs : List PollRun) (days now : Int)
    (row : SourceFacts) : CensoredCount :=
  ⟨row.previousErrors, Read config (previousPolls runs days now) days⟩

/-- What the log review says of a source. -/
def LogCertain (config : LogAggregatorConfig) (runs : List PollRun) (days now : Int)
    (confidence : Confidence) (row : SourceFacts) : Prop :=
  DirectionCertain (currentErrors config runs days now row) (previousErrors config runs days now row)
    (moverLine confidence row = text "- " ++ row.source ++ text ": " ++ text "got louder")
    (moverLine confidence row = text "- " ++ row.source ++ text ": " ++ text "got quieter")
    (moverLine confidence row = text "- " ++ row.source ++ text ": " ++ text "held steady")

/-- The earlier window was read where more errors are recorded than in it; and the current one where
fewer are and the windows were read, as far as the polls of both together show. -/
def LogSeen (config : LogAggregatorConfig) (runs : List PollRun) (days now : Int)
    (row : SourceFacts) : Prop :=
  (row.previousErrors < row.currentErrors → Read config (previousPolls runs days now) days) ∧
    (row.currentErrors < row.previousErrors → ReadTogether config runs days now →
      Read config (currentPolls runs days now) days)

variable {database : CharDatabase} {tools : TitleTools} {wording : Advice.Wording}
  {config : LogAggregatorConfig} {runs : List PollRun} {groups : List MessageGroup}
  {truncated : Bool} {days : Option Int} {now : Int} {declaredNoise : List (Text × Text)}
  {scopes : Option Scopes} {related : Option Relations} {data : LogReview.ReviewData}

theorem trendCoverage_confidence (days : Int) :
    (trendCoverage config runs (now - days * 2 * day) days).confidence = .high ↔
      ReadTogether config runs days now := by
  have uncut : (trendCoverage config runs (now - days * 2 * day) days).runsTruncated ≤ 0 ↔
      ∀ run ∈ runs, now - days * 2 * day ≤ run.startedAt → run.truncated = false := by
    change (((runs.filter fun run => now - days * 2 * day ≤ run.startedAt).filter
      PollRun.truncated).length : Int) ≤ 0 ↔ _
    rw [Int.natCast_nonpos_iff, List.length_eq_zero_iff, List.filter_eq_nil_iff]
    constructor
    · intro none_ run member inside
      exact Bool.not_eq_true _ ▸ none_ run (List.mem_filter.mpr ⟨member, decide_eq_true inside⟩)
    · intro all run member
      obtain ⟨inside, since⟩ := List.mem_filter.mp member
      rw [all run inside (of_decide_eq_true since)]
      exact Bool.false_ne_true
  rw [confidence_high_iff, uncut]
  exact ⟨fun facts => ⟨facts.1, facts.2.1, facts.2.2⟩, fun facts => ⟨facts.expected, facts.uncut,
    facts.enough⟩⟩

theorem gathered_sources
    (gathered : gatherReviewData wording
    (buildTrendReport database tools config runs groups truncated days now)
      declaredNoise scopes related = some data) :
    data.confidence =
      (trendCoverage config runs (now - trendDays config days * 2 * day)
      (trendDays config days)).confidence ∧
      ∀ row ∈ movers data, row.errorDelta = (row.currentErrors : Int) - row.previousErrors ∧
        row.errorDelta ≠ 0 := by
  rw [gatherReviewData, Option.ite_none_left_eq_some] at gathered
  rw [← Option.some.inj gathered.2]
  refine ⟨rfl, fun row member => ?_⟩
  obtain ⟨inside, moved⟩ := List.mem_filter.mp (List.mem_of_mem_take member)
  obtain ⟨trend, _, own⟩ := List.mem_map.mp ((List.mem_insertionSort _).mp inside)
  rw [← own] at moved ⊢
  exact ⟨rfl, of_decide_eq_true moved⟩

theorem logCertain_iff
    (gathered : gatherReviewData wording
    (buildTrendReport database tools config runs groups truncated days now)
      declaredNoise scopes related = some data) {row : SourceFacts} (member : row ∈ movers data) :
    LogCertain config runs (trendDays config days) now data.confidence row ↔
      LogSeen config runs (trendDays config days) now row := by
  obtain ⟨confidence, facts⟩ := gathered_sources gathered
  obtain ⟨delta, moved⟩ := facts row member
  obtain ⟨up, down, steady⟩ := directionOf_iff row.errorDelta
  obtain ⟨more, fewer, same⟩ := logPhrase_iff (directionOf row.errorDelta) data.confidence
  have line : ∀ phrase, moverLine data.confidence row = text "- " ++ row.source ++
      text ": " ++ phrase ↔ directionPhrase (directionOf row.errorDelta) data.confidence = phrase :=
    fun phrase => List.append_cancel_left_eq _ _ _ |>.to_iff
  have together : data.confidence = .high ↔ ReadTogether config runs (trendDays config days) now := by
    rw [confidence]
    exact trendCoverage_confidence _
  have certain := @directionCertain_iff (currentErrors config runs (trendDays config days) now row)
    (previousErrors config runs (trendDays config days) now row) _ _ _
      (ReadTogether config runs (trendDays config days) now)
    ((line _).trans (more.trans (up.trans (by rw [delta]; exact sub_pos.trans Nat.cast_lt))))
    ((line _).trans
      (fewer.trans
      (and_congr (down.trans (by rw [delta]; exact sub_neg.trans Nat.cast_lt)) together)))
    ((line _).trans (same.trans (steady.trans (by rw [delta]; exact sub_eq_zero.trans Nat.cast_inj))))
  refine certain.trans ⟨fun seen => ⟨seen.1, seen.2.1⟩, fun seen => ⟨seen.1, seen.2, fun equal => ?_⟩⟩
  refine absurd ?_ moved
  rw [delta]
  exact sub_eq_zero.mpr (Nat.cast_inj.mpr equal)

end Logs

open Reliability in
/-- Both reviews state only what is certain, if and only if what they compare was seen. -/
theorem directions_certain_iff (numbers : NumberText) (config : ReliabilityConfig)
    (services : List MonitoredService) (tables : HealthReview.ReviewTables)
    (periodDays : Option Int) (database : CharDatabase) (tools : TitleTools)
    (wording : Advice.Wording) (logConfig : LogAggregatorConfig) (runs : List PollRun)
    (groups : List MessageGroup) (truncated : Bool) (days : Option Int)
    (declaredNoise : List (Text × Text)) (scopes : Option Advice.Scopes)
    (related : Option Relations) (now : Int) :
    ((∀ data, HealthReview.gatherReviewData numbers config services tables periodDays now = some data →
        HealthCertain data) ∧
      ∀ data, LogReview.gatherReviewData wording
        (buildTrendReport database tools logConfig runs groups truncated days now) declaredNoise
          scopes related = some data → ∀ row ∈ LogReview.movers data,
            LogCertain logConfig runs (trendDays logConfig days) now data.confidence row) ↔
    (∀ data, HealthReview.gatherReviewData numbers config services tables periodDays now = some data →
        HealthSeen data) ∧
      ∀ data, LogReview.gatherReviewData wording
        (buildTrendReport database tools logConfig runs groups truncated days now) declaredNoise
          scopes related =
          some data → ∀ row ∈ LogReview.movers data, LogSeen logConfig runs
            (trendDays logConfig days) now row :=
  and_congr (forall_congr' fun _ => forall_congr' fun gathered => healthCertain_iff gathered)
    (forall_congr' fun _ => forall_congr' fun gathered => forall_congr' fun _ =>
      forall_congr' fun member =>
      logCertain_iff gathered member)

theorem unwatched_nothing (expected : Int) : ¬ Watched 0 expected := by
  have half : 0 < Reliability.lowCoverageFraction := by
    have place : lastBit (1 / 2) = -1 - 52 := lastBit_of_power (by norm_num) (by norm_num) (by decide)
    exact lt_of_lt_of_le (by positivity) (power_le_roundToDouble (by norm_num) (by rw [place]; decide))
  have zero : roundToDouble (((0 : Nat) : ℚ) / expected) = 0 := by simp [roundToDouble]
  rw [Watched, zero, HealthReview.coverageConfidence, if_pos half]
  decide

/-- Monitoring began this week: one run of it, and one fault. -/
def firstWeek : HealthReview.ReviewTables where
  checks := ⟨[], []⟩
  agentRuns := [6 * 86400 * 1000000]
  alerts := [{ title := text "disk full", createdAt := 6 * 86400 * 1000000, anomaly := none }]
  snapshots := []

def reviewConfig : Reliability.ReliabilityConfig where
  windowDays := 7
  gradeBands := ⟨95, 85, 60⟩
  healthCheckIntervalSeconds := 300
  muteServices := []
  serviceActions := { flapMinEpisodes := 3, timerStaleMultiplier := 3, timerLookbackDays := 14 }

/-- A rise over a week that nobody watched. -/
theorem unwatched_week_raised :
    ¬ ∀ (numbers : Reliability.NumberText) (config : Reliability.ReliabilityConfig)
    (services : List Reliability.MonitoredService) (tables : HealthReview.ReviewTables)
    (periodDays : Option Int) (now : Int) (data : HealthReview.ReviewData),
      HealthReview.gatherReviewData numbers config services tables periodDays now = some data →
        HealthCertain data := by
  intro claimed
  have gathered : ∃ data, HealthReview.gatherReviewData ⟨fun _ => [], fun _ _ => []⟩ reviewConfig
      [] firstWeek none
      (7 * 86400 * 1000000) = some data ∧ (currentTitles data).recorded = 1 ∧
        (previousTitles data).recorded = 0 ∧ ¬ (previousTitles data).complete := by
    rw [HealthReview.gatherReviewData]
    simp only
    rw [if_neg (by decide)]
    exact ⟨_, rfl, by decide, by decide, unwatched_nothing _⟩
  obtain ⟨data, found, current, previous, unwatched⟩ := gathered
  have seen := (healthCertain_iff found).mp (claimed _ _ _ _ _ _ data found)
  exact unwatched (seen.1 (by rw [current, previous]; decide))

end SysadminAssistant.Monitor.ClaimedDirections
