import SysadminAssistant.Monitor.LogActions
import SysadminAssistant.Monitor.LogEntry

namespace SysadminAssistant.Monitor

open Python

/-! Week-on-week trends of the stored lines (`sysadmin/monitor/log_trends.py`): groups of
equal messages folded into signatures. -/

inductive ChangeKind where
  | new | returned | surged | rising | steady | falling | gone
deriving DecidableEq

inductive Confidence where
  | low | medium | high
deriving DecidableEq

/-- One `(source, severity, message)` group, as the grouped query returns it. -/
structure MessageGroup where
  source : Text
  severity : LogSeverity
  message : Text
  current : Nat
  previous : Nat
  total : Nat
  firstSeen : Int
  lastSeen : Int

structure WindowCoverage where
  runsObserved : Int
  runsExpected : Int
  runsTruncated : Int
  runsInstrumented : Int

structure SignatureTrend where
  signature : Text
  alertTitle : Text
  source : Text
  severity : LogSeverity
  sample : Text
  current : Nat
  previous : Nat
  total : Nat
  firstSeen : Int
  lastSeen : Int
  change : ChangeKind
  ratio : Option ℚ

structure SourceTrend where
  source : Text
  currentErrors : Nat
  previousErrors : Nat
  currentWarnings : Nat
  previousWarnings : Nat
  signatures : Nat
  newSignatures : Nat

structure LogTrendReport where
  windowDays : Int
  windowStart : Int
  previousStart : Int
  generatedAt : Int
  confidence : Confidence
  signatures : List SignatureTrend
  sources : List SourceTrend
  coverage : WindowCoverage
  truncated : Bool
  groupsRead : Nat

def ratioMinCount : Nat := 10

def surgeRatio : ℚ := 2

def lowCoverageFraction : ℚ := 1 / 2

/-- The double nearest to 0.05. -/
def truncationLowFraction : ℚ := roundToDouble (1 / 20)

namespace WindowCoverage

def fraction (coverage : WindowCoverage) : ℚ :=
  if coverage.runsExpected ≤ 0 then 0
  else min 1 (roundToDouble (coverage.runsObserved / coverage.runsExpected))

def truncatedFraction (coverage : WindowCoverage) : ℚ :=
  if coverage.runsTruncated ≤ 0 then 0
  else if coverage.runsInstrumented ≤ 0 then 1
  else min 1 (roundToDouble (coverage.runsTruncated / coverage.runsInstrumented))

def confidence (coverage : WindowCoverage) : Confidence :=
  if coverage.runsExpected ≤ 0 then .low
  else if coverage.truncatedFraction > truncationLowFraction then .low
  else if coverage.runsTruncated > 0 then .medium
  else if coverage.fraction < lowCoverageFraction then .medium
  else if coverage.fraction < 1 then .medium
  else .high

end WindowCoverage

/-- `_classify`: a first sighting is asked for before any comparison. -/
def classify (current previous : Nat) (firstSeen windowStart : Int) : ChangeKind × Option ℚ :=
  if firstSeen ≥ windowStart then (.new, none)
  else if current = 0 then (.gone, none)
  else if previous = 0 then (.returned, none)
  else if current < ratioMinCount ∧ previous < ratioMinCount then (.steady, none)
  else
    let ratio := roundToDouble (current / previous)
    if ratio ≥ surgeRatio then (.surged, some ratio)
    else if ratio > 1 then (.rising, some ratio)
    else if ratio < 1 then (.falling, some ratio)
    else (.steady, some ratio)

/-- What the groups of one signature add up to. -/
structure Accumulated where
  current : Nat
  previous : Nat
  total : Nat
  firstSeen : Int
  lastSeen : Int
  sample : Text

abbrev TrendKey := Text × LogSeverity × Text

section

variable (database : CharDatabase)

def MessageGroup.key (group : MessageGroup) : TrendKey :=
  (group.source, group.severity, signature database group.message)

/-- One group joins its signature; the newest line is the sample. -/
def accumulate (acc : Dict TrendKey Accumulated) (group : MessageGroup) : Dict TrendKey Accumulated :=
  match acc.get? (group.key database) with
  | none => acc.set (group.key database)
      { current := group.current
        previous := group.previous
        total := group.total
        firstSeen := group.firstSeen
        lastSeen := group.lastSeen
        sample := group.message }
  | some known => acc.set (group.key database)
      { current := known.current + group.current
        previous := known.previous + group.previous
        total := known.total + group.total
        firstSeen := min known.firstSeen group.firstSeen
        lastSeen := if group.lastSeen > known.lastSeen then group.lastSeen else known.lastSeen
        sample := if group.lastSeen > known.lastSeen then group.message else known.sample }

variable (tools : TitleTools) (windowStart : Int)

def trendOf (key : TrendKey) (known : Accumulated) : SignatureTrend :=
  let change := classify known.current known.previous known.firstSeen windowStart
  { signature := key.2.2
    alertTitle := alertTitle database tools key.2.1 key.1 known.sample
    source := key.1
    severity := key.2.1
    sample := known.sample
    current := known.current
    previous := known.previous
    total := known.total
    firstSeen := known.firstSeen
    lastSeen := known.lastSeen
    change := change.1
    ratio := change.2 }

/-- New first, then loudest. -/
def trendOrder (trend : SignatureTrend) : Bool ×ₗ Int ×ₗ Int ×ₗ Text :=
  toLex (decide (trend.change ≠ .new), toLex (-trend.current, toLex (-trend.total, trend.signature)))

def signatureTrends (groups : List MessageGroup) : List SignatureTrend :=
  ((groups.foldl (accumulate database) Dict.empty).entries.map fun entry =>
    trendOf database tools windowStart entry.1 entry.2).insertionSort fun left right =>
      trendOrder left ≤ trendOrder right

end

/-- The lines of one source, errors and warnings apart. -/
structure SourceTotals where
  currentErrors : Nat
  previousErrors : Nat
  currentWarnings : Nat
  previousWarnings : Nat

def addGroup (totals : Dict Text SourceTotals) (group : MessageGroup) : Dict Text SourceTotals :=
  let bucket := (totals.get? group.source).getD ⟨0, 0, 0, 0⟩
  totals.set group.source (match group.severity with
    | .error | .critical =>
      { bucket with
        currentErrors := bucket.currentErrors + group.current
        previousErrors := bucket.previousErrors + group.previous }
    | .warning =>
      { bucket with
        currentWarnings := bucket.currentWarnings + group.current
        previousWarnings := bucket.previousWarnings + group.previous }
    | .debug | .info => bucket)

def SourceTrend.errorDelta (trend : SourceTrend) : Int := trend.currentErrors - trend.previousErrors

/-- The biggest movement first, in either direction. -/
def sourceOrder (trend : SourceTrend) : Int ×ₗ Int ×ₗ Text :=
  toLex (-|trend.errorDelta|, toLex (-trend.currentErrors, trend.source))

/-- `_source_trends`: off the groups, not the signatures. -/
def sourceTrends (groups : List MessageGroup) (trends : List SignatureTrend) : List SourceTrend :=
  ((groups.foldl addGroup Dict.empty).entries.map fun entry =>
    let ours := trends.filter fun trend => trend.source = entry.1
    { source := entry.1
      currentErrors := entry.2.currentErrors
      previousErrors := entry.2.previousErrors
      currentWarnings := entry.2.currentWarnings
      previousWarnings := entry.2.previousWarnings
      signatures := ours.length
      newSignatures :=
        (ours.filter fun trend => trend.change = .new).length : SourceTrend }).insertionSort
        fun left right => sourceOrder left ≤ sourceOrder right

/-- What `build_report` is told beside the groups. -/
structure TrendWindow where
  windowDays : Int
  windowStart : Int
  previousStart : Int
  generatedAt : Int
  coverage : Option WindowCoverage
  truncated : Bool

def buildReport (database : CharDatabase) (tools : TitleTools) (window : TrendWindow)
    (groups : List MessageGroup) : LogTrendReport :=
  let coverage := window.coverage.getD ⟨0, 0, 0, 0⟩
  let trends := signatureTrends database tools window.windowStart groups
  { windowDays := window.windowDays
    windowStart := window.windowStart
    previousStart := window.previousStart
    generatedAt := window.generatedAt
    confidence := coverage.confidence
    signatures := trends
    sources := sourceTrends groups trends
    coverage
    truncated := window.truncated
    groupsRead := groups.length }

/-! A signature keeps its key whatever becomes its sample. -/

section

variable {database : CharDatabase}

/-- Every sample has the signature it stands under. -/
def Keyed (database : CharDatabase) (acc : Dict TrendKey Accumulated) : Prop :=
  ∀ key known, acc.get? key = some known → signature database known.sample = key.2.2

theorem accumulate_keyed {acc : Dict TrendKey Accumulated} (keyed : Keyed database acc)
    (group : MessageGroup) : Keyed database (accumulate database acc group) := by
  intro key known found
  unfold accumulate at found
  cases before : acc.get? (group.key database) with
  | none =>
    simp only [before, Dict.get?_set] at found
    split at found
    · rename_i same
      cases found
      rw [← same]
      rfl
    · exact keyed key known found
  | some earlier =>
    simp only [before, Dict.get?_set] at found
    split at found
    · rename_i same
      cases found
      subst same
      simp only
      split
      · rfl
      · exact keyed _ earlier before
    · exact keyed key known found

theorem accumulate_present {acc : Dict TrendKey Accumulated} (group : MessageGroup)
    (key : TrendKey) : ((accumulate database acc group).get? key).isSome ↔
      key = group.key database ∨ (acc.get? key).isSome := by
  unfold accumulate
  cases before : acc.get? (group.key database) <;>
    · simp only [Dict.get?_set]
      by_cases same : group.key database = key
      · simp [same]
      · simp [same, Ne.symm same]

theorem accumulated (groups : List MessageGroup) {acc : Dict TrendKey Accumulated}
    (keyed : Keyed database acc) :
    Keyed database (groups.foldl (accumulate database) acc) ∧
      ∀ key, ((groups.foldl (accumulate database) acc).get? key).isSome ↔
        (∃ group ∈ groups, group.key database = key) ∨ (acc.get? key).isSome := by
  induction groups generalizing acc with
  | nil => exact ⟨keyed, by simp⟩
  | cons group rest ih =>
    obtain ⟨later, present⟩ := ih (accumulate_keyed keyed group)
    refine ⟨later, fun key => ?_⟩
    rw [List.foldl_cons, present key, accumulate_present]
    simp only [List.mem_cons, exists_eq_or_imp]
    constructor
    · intro found
      rcases found with inRest | here | before
      · exact Or.inl (Or.inr inRest)
      · exact Or.inl (Or.inl here.symm)
      · exact Or.inr before
    · intro found
      rcases found with (here | inRest) | before
      · exact Or.inr (Or.inl here.symm)
      · exact Or.inl inRest
      · exact Or.inr (Or.inr before)

theorem mem_signatureTrends {tools : TitleTools} {windowStart : Int} {groups : List MessageGroup}
    {trend : SignatureTrend} :
    trend ∈ signatureTrends database tools windowStart groups ↔
      ∃ key known, (groups.foldl (accumulate database) Dict.empty).get? key = some known ∧
        trend = trendOf database tools windowStart key known := by
  rw [signatureTrends, (List.perm_insertionSort _ _).mem_iff, List.mem_map]
  constructor
  · intro listed
    obtain ⟨entry, member, same⟩ := listed
    exact ⟨entry.1, entry.2, Dict.get?_eq_some.mpr member, same.symm⟩
  · intro found
    obtain ⟨key, known, found, same⟩ := found
    exact ⟨(key, known), Dict.get?_eq_some.mp found, same.symm⟩

end

end SysadminAssistant.Monitor
