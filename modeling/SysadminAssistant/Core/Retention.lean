import Mathlib.Logic.Function.Basic
import SysadminAssistant.Library.FirstRows
import SysadminAssistant.Python.Float
import SysadminAssistant.Python.Text

namespace SysadminAssistant.Core.Retention

open Python Library

/-! The purge of old rows (`sysadmin/core/retention.py`).  Instants are microseconds. -/

/-- The tables of `TABLE_TIMESTAMP_MAP`, each with its timestamp column. -/
inductive TableName where
  | serviceHealth        -- checked_at
  | resourceSnapshots    -- recorded_at
  | logEntries           -- ingested_at
  | healthReviews        -- generated_at
  | logReviews           -- generated_at
  | alerts               -- created_at
  | filesystemAudits     -- scanned_at
  | unitAudits           -- scanned_at
  | reliabilityScores    -- computed_at
  | agentRuns            -- started_at
  | diskReviews          -- generated_at
  | desktopNotifications -- last_spoken_at
  | gameSpans            -- last_seen_at
deriving DecidableEq

def TableName.name : TableName → Text
  | .serviceHealth => text "service_health"
  | .resourceSnapshots => text "resource_snapshots"
  | .logEntries => text "log_entries"
  | .healthReviews => text "health_reviews"
  | .logReviews => text "log_reviews"
  | .alerts => text "alerts"
  | .filesystemAudits => text "filesystem_audits"
  | .unitAudits => text "unit_audits"
  | .reliabilityScores => text "reliability_scores"
  | .agentRuns => text "agent_runs"
  | .diskReviews => text "disk_reviews"
  | .desktopNotifications => text "desktop_notifications"
  | .gameSpans => text "game_spans"

def tableNames : List TableName :=
  [.serviceHealth, .resourceSnapshots, .logEntries, .healthReviews, .logReviews, .alerts,
    .filesystemAudits, .unitAudits, .reliabilityScores, .agentRuns, .diskReviews,
    .desktopNotifications, .gameSpans]

/-- `TABLE_TIMESTAMP_MAP.get(table_name)`. -/
def TableName.ofText? (name : Text) : Option TableName :=
  tableNames.find? fun table => table.name = name

structure AlertColumns where
  title : Text
  resolved : Bool

structure UnitAuditColumns where
  userUnitDir : Option Text
  systemUnitDir : Option Text

structure FilesystemAuditColumns where
  scanRoot : Text

structure ReliabilityColumns where
  serviceName : Text

structure NotificationColumns where
  title : Text

structure SpanColumns where
  endedAt : Option Int

/-- What is looked at beside a row's id and its timestamp. -/
abbrev Columns : TableName → Type
  | .alerts => AlertColumns
  | .unitAudits => UnitAuditColumns
  | .filesystemAudits => FilesystemAuditColumns
  | .reliabilityScores => ReliabilityColumns
  | .desktopNotifications => NotificationColumns
  | .gameSpans => SpanColumns
  | _ => Unit

/-- `stamp` is the table's timestamp column. -/
structure Row (table : TableName) where
  ident : Nat
  stamp : Int
  columns : Columns table

inductive Entity (ρ : Type) where
  | wholeTable
  | column (of : ρ → Option Text)

/-- `KEEP_LATEST_PER.get(table_name)`. -/
def keepLatestPer : (table : TableName) → Option (Entity (Row table))
  | .reliabilityScores => some (.column fun row => some row.columns.serviceName)
  | .unitAudits => some (.column fun row => row.columns.systemUnitDir)
  | .filesystemAudits => some (.column fun row => some row.columns.scanRoot)
  | .diskReviews => some .wholeTable
  | .healthReviews => some .wholeTable
  | .logReviews => some .wholeTable
  | _ => none

/-- How PostgreSQL orders a table by its timestamp, newest first. -/
abbrev Order (table : TableName) := NewestFirst fun row : Row table => row.stamp

def Entity.kept {table : TableName} (order : Order table) (rows : List (Row table)) :
    Entity (Row table) → List (Row table)
  | .wholeTable => (order.arrange rows).take 1
  | .column of => order.firstPer of rows

inductive PurgeStatement (table : TableName) where
  | resolvedOnly (resolved : Row table → Bool)
  | keepLatest (entity : Entity (Row table))
  | straight

def purgeStatement (table : TableName) : PurgeStatement table :=
  match table with
  | .alerts => .resolvedOnly fun row => row.columns.resolved
  | table =>
    match keepLatestPer table with
    | some entity => .keepLatest entity
    | none => .straight

/-- What a `DELETE` leaves. -/
def PurgeStatement.execute {table : TableName} (order : Order table) (cutoff : Int)
    (rows : List (Row table)) : PurgeStatement table → List (Row table)
  | .resolvedOnly resolved => rows.filter fun row => !(decide (row.stamp < cutoff) && resolved row)
  | .keepLatest entity =>
    sparing Row.ident (fun row => decide (row.stamp < cutoff)) (entity.kept order rows) rows
  | .straight => rows.filter fun row => !decide (row.stamp < cutoff)

structure RetentionConfig where
  tableName : Text
  retentionDays : Int
  lastPurgedAt : Option Int

structure Database where
  configs : List RetentionConfig
  configured : (configs.map RetentionConfig.tableName).Nodup
  rows : (table : TableName) → List (Row table)
  identified : ∀ table, ((rows table).map Row.ident).Nodup

/-- `datetime.now(UTC) - timedelta(days=retention_days)`; `none` is an `OverflowError`. -/
def cutoff? (now retentionDays : Int) : Option Int :=
  let cutoff := now - retentionDays * day
  if firstInstant ≤ cutoff ∧ cutoff ≤ lastInstant then some cutoff else none

/-- What a table's turn meets: the clock before the `DELETE` and before the `UPDATE`, and whether
a statement of its savepoint fails. -/
structure Turn (table : TableName) where
  now : Int
  stampedAt : Int
  failed : Bool
  order : Order table

structure Downsampling where
  now : Int
  failed : Bool
  order : NewestFirst fun row : Row .resourceSnapshots => -row.stamp

/-- One call of `run_retention`: whether its own `SELECT` and its `COMMIT` succeed, and its turns. -/
structure Run where
  selected : Bool
  committed : Bool
  turn : (table : TableName) → Turn table
  downsampling : Downsampling

theorem execute_sublist {table : TableName} (statement : PurgeStatement table) (order : Order table)
    (cutoff : Int) (rows : List (Row table)) : (statement.execute order cutoff rows).Sublist rows := by
  cases statement <;> exact List.filter_sublist

/-- A table with fewer rows. -/
def Database.withRows (db : Database) (table : TableName) (rows : List (Row table))
    (fewer : rows.Sublist (db.rows table)) : Database :=
  { db with
    rows := Function.update db.rows table rows
    identified := by
      intro other
      by_cases same : other = table
      · subst same
        rw [Function.update_self]
        exact (db.identified other).sublist (fewer.map _)
      · rw [Function.update_of_ne same]
        exact db.identified other }

theorem withRows_self (db : Database) (table : TableName) (rows : List (Row table))
    (fewer : rows.Sublist (db.rows table)) : (db.withRows table rows fewer).rows table = rows := by
  simp only [Database.withRows, Function.update_self]

theorem withRows_other (db : Database) (table : TableName) (rows : List (Row table))
    (fewer : rows.Sublist (db.rows table)) {other : TableName} (apart : other ≠ table) :
    (db.withRows table rows fewer).rows other = db.rows other := by
  simp only [Database.withRows, Function.update_of_ne apart]

/-- `UPDATE retention_config SET last_purged_at = … WHERE table_name = …`. -/
def RetentionConfig.stampedAs (tableName : Text) (instant : Int) (config : RetentionConfig) :
    RetentionConfig :=
  if config.tableName = tableName then { config with lastPurgedAt := some instant } else config

theorem stampedAs_tableName (tableName : Text) (instant : Int) (config : RetentionConfig) :
    (config.stampedAs tableName instant).tableName = config.tableName := by
  rw [RetentionConfig.stampedAs]
  split <;> rfl

def Database.stamped (db : Database) (tableName : Text) (instant : Int) : Database :=
  { db with
    configs := db.configs.map (RetentionConfig.stampedAs tableName instant)
    configured := by
      have same : RetentionConfig.tableName ∘ RetentionConfig.stampedAs tableName instant =
          RetentionConfig.tableName := funext (stampedAs_tableName tableName instant)
      rw [List.map_map, same]
      exact db.configured }

/-- One turn of the loop.  The cutoff is computed before the `try`; a failed savepoint leaves
no trace. -/
def visit (run : Run) (db : Database) (config : RetentionConfig) : Option Database :=
  match TableName.ofText? config.tableName with
  | none => some db
  | some table => do
    let turn := run.turn table
    let cutoff ← cutoff? turn.now config.retentionDays
    if turn.failed then return db
    let rows := (purgeStatement table).execute turn.order cutoff (db.rows table)
    return (db.withRows table rows (execute_sublist ..)).stamped config.tableName turn.stampedAt

/-- `date_trunc('hour', recorded_at)`, for a session whose `TimeZone` is whole hours from UTC. -/
def Row.hour {table : TableName} (row : Row table) : Int := row.stamp / (3600 * 1000000)

/-- `_downsample_resources`. -/
def downsampled (downsampling : Downsampling) (rows : List (Row .resourceSnapshots)) :
    List (Row .resourceSnapshots) :=
  let cutoff := downsampling.now - 7 * day
  let old := fun row : Row .resourceSnapshots => decide (row.stamp < cutoff)
  sparing Row.ident old (downsampling.order.firstPer Row.hour (rows.filter old)) rows

theorem downsampled_sublist (downsampling : Downsampling) (rows : List (Row .resourceSnapshots)) :
    (downsampled downsampling rows).Sublist rows := List.filter_sublist

def Database.downsample (db : Database) (downsampling : Downsampling) : Database :=
  if downsampling.failed then db
  else db.withRows .resourceSnapshots (downsampled downsampling (db.rows .resourceSnapshots))
    (downsampled_sublist ..)

/-- `run_retention`; `none` is an exception, on which the session rolls everything back. -/
def runRetention (run : Run) (db : Database) : Option Database := do
  if run.selected then
    let purged ← db.configs.foldlM (visit run) db
    let thinned := purged.downsample run.downsampling
    if run.committed then return thinned else none
  else none

/-- The tables after a call. -/
def Run.after (run : Run) (db : Database) : Database := (runRetention run db).getD db

end SysadminAssistant.Core.Retention
