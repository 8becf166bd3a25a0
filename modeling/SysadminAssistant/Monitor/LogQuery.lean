import SysadminAssistant.Monitor.LogSources
import SysadminAssistant.Monitor.LogTrends

namespace SysadminAssistant.Monitor.LogQuery

open Python

/-! What the log surfaces read before they fold it (`sysadmin/monitor/log_query.py`). -/

/-- A run of the log aggregator.  A run from before it reported truncated sources has none of them,
and a null is not a list of them. -/
structure PollRun where
  startedAt : Int
  truncatedSources : Option (Option (List Text))

def PollRun.truncated (run : PollRun) : Bool :=
  match run.truncatedSources with
  | some (some sources) => sources ≠ []
  | some none | none => false

structure LogAggregatorConfig where
  trendWindowDays : Int
  pollIntervalSeconds : Int

/-- The polls that are expected in so many days. -/
def pollsExpected (config : LogAggregatorConfig) (days : Int) : Int :=
  truncate (roundToDouble (days * 86400 / max 1 config.pollIntervalSeconds))

/-- How thoroughly the log was polled since an instant, across both windows. -/
def trendCoverage (config : LogAggregatorConfig) (runs : List PollRun) (since windowDays : Int) :
    WindowCoverage :=
  let rows := runs.filter fun run => since ≤ run.startedAt
  { runsObserved := rows.length
    runsExpected :=
      truncate (roundToDouble (windowDays * 2 * 86400 / max 1 config.pollIntervalSeconds))
    runsTruncated := (rows.filter PollRun.truncated).length
    runsInstrumented := (rows.filter fun run => run.truncatedSources.isSome).length }

def trendDays (config : LogAggregatorConfig) (days : Option Int) : Int :=
  (days.filter (· ≠ 0)).getD config.trendWindowDays

/-- `build_trend_report`, of the groups that the database returned. -/
def buildTrendReport (database : CharDatabase) (tools : TitleTools) (config : LogAggregatorConfig)
    (runs : List PollRun) (groups : List MessageGroup) (truncated : Bool) (days : Option Int)
    (now : Int) :
    LogTrendReport :=
  let windowDays := trendDays config days
  let previousStart := now - windowDays * 2 * day
  buildReport database tools
    { windowDays
      windowStart := now - windowDays * day
      previousStart
      generatedAt := now
      coverage := some (trendCoverage config runs previousStart windowDays)
      truncated } groups

/-- Which manager a unit of services.yaml is of: of one declared twice, as the last entry says. -/
def logSourceScopes (file : Sources.ServicesFile) : Dict Text Bool :=
  (Sources.logSources file).foldl (fun scopes source =>
    match source.unitName with
    | some unit => scopes.set unit source.user
    | none => scopes) .empty

/-! ## The grouped query -/

/-- A row of `log_entries`, as far as the trend reads it. -/
structure LogLine where
  source : Text
  severity : LogSeverity
  message : Text
  loggedAt : Int
deriving DecidableEq

/-- `TREND_SEVERITIES`. -/
def trendSeverities : List LogSeverity := [.warning, .error, .critical]

abbrev GroupKey := Text × LogSeverity × Text

namespace LogLine

/-- What the query groups by. -/
def groupKey (line : LogLine) : GroupKey := (line.source, line.severity, line.message)

def trendKey (database : CharDatabase) (line : LogLine) : TrendKey :=
  (line.source, line.severity, signature database line.message)

end LogLine

/-- `(source, severity, message)` with the digit runs of `SHAPE_DIGITS` collapsed. -/
def shapeOf (key : GroupKey) : GroupKey :=
  (key.1, key.2.1, Text.collapseRuns isAsciiDigit (text "N") false key.2.2)

def groupKeyOf (group : MessageGroup) : GroupKey := (group.source, group.severity, group.message)

def covered (lines : List LogLine) : List LogLine :=
  lines.filter fun line => line.severity ∈ trendSeverities

section

variable (windowStart previousStart : Int)

/-- The aggregates over the lines of one group. -/
def messageGroup (lines : List LogLine) (key : GroupKey) : MessageGroup :=
  let instants := (lines.filter fun line => line.groupKey = key).map LogLine.loggedAt
  { source := key.1
    severity := key.2.1
    message := key.2.2
    current := instants.countP fun instant => windowStart ≤ instant
    previous := instants.countP fun instant => previousStart ≤ instant ∧ instant < windowStart
    total := instants.length
    firstSeen := instants.min?.getD 0
    lastSeen := instants.max?.getD 0 }

def messageGroups (lines : List LogLine) : List MessageGroup :=
  ((lines.map LogLine.groupKey).dedup).map (messageGroup windowStart previousStart lines)

/-- `row_number()` over the groups of a shape, the oldest first, then by the message in code points. -/
def shapeRank (groups : List MessageGroup) (group : MessageGroup) : Nat :=
  groups.countP (fun other => shapeOf (groupKeyOf other) = shapeOf (groupKeyOf group) ∧
    toLex (other.firstSeen, other.message) < toLex (group.firstSeen, group.message)) + 1

/-- The stated order: the oldest group of each shape ahead of the rest, then the loudest. -/
def groupOrder (groups : List MessageGroup) (group : MessageGroup) :
    Bool ×ₗ Int ×ₗ Int ×ₗ Int ×ₗ Int ×ₗ Text ×ₗ Text ×ₗ Text :=
  toLex (decide (shapeRank groups group > 1),
    toLex (-group.current, toLex (-group.previous, toLex (-group.total,
      toLex (-group.lastSeen, toLex (group.source, toLex (group.severity.name, group.message)))))))

/-- `trend_groups`: the groups that are served, and whether the cap cut any. -/
def trendGroups (lines : List LogLine) (cap : Nat) : List MessageGroup × Bool :=
  let groups := messageGroups windowStart previousStart (covered lines)
  let rows :=
    (groups.insertionSort fun left right => groupOrder groups left ≤ groupOrder groups right).take
      (cap + 1)
  (rows.take cap, rows.length > cap)

end

/-- `build_report` over `trend_groups`. -/
def trendReport (database : CharDatabase) (tools : TitleTools) (window : TrendWindow)
    (lines : List LogLine) (cap : Nat) : LogTrendReport :=
  let served := trendGroups window.windowStart window.previousStart lines cap
  buildReport database tools { window with truncated := served.2 } served.1

end SysadminAssistant.Monitor.LogQuery
