import Mathlib.Data.List.Sort
import SysadminAssistant.Core.PatternResolve

namespace SysadminAssistant.Core.UnitFailures

open Python Library

/-! The schema guard (`sysadmin/core/schema_guard.py`) and the row that a systemd failure leaves
(`sysadmin/core/unit_failure.py`). -/

def joined (pieces : List Text) : Text := (text ", ").intercalate pieces

def sorted (pieces : List Text) : List Text := pieces.insertionSort fun left right => left ≤ right

/-- What a guard is stopped by: its own error, or whatever the driver raised. -/
inductive GuardError where
  | schemaRevision (message : Text)
  | driver (message : Text)

/-- What the two sides of the comparison answer: alembic's `get_heads`, and `alembic_version`, where
it is. -/
structure SchemaWorld where
  location : Text
  schema : Text
  heads : Except Text (List Text)
  versions : Except Text (Option (List Text))

def versionTable : Text := text "alembic_version"

def remedy : Text := text "run `uv run alembic upgrade head` and start the service again"

def packagedHead (world : SchemaWorld) : Except GuardError Text :=
  match world.heads with
  | .error problem =>
    .error (.schemaRevision (text "cannot read migration scripts at " ++ world.location ++
      text ": " ++
    problem ++
      text (". The service is started from its repository (WorkingDirectory), so this means the deployment " ++
      "is incomplete rather than merely unmigrated")))
  | .ok [head] => .ok head
  | .ok heads =>
    .error (.schemaRevision (text "migration history at " ++ world.location ++ text " has " ++
      intText heads.length ++ text " heads (" ++ (if heads = [] then text "none"
      else joined (sorted heads)) ++
    text ("); expected exactly one. `alembic upgrade head` cannot run against a branched history, so the schema could " ++
      "never be brought up to date")))

/-- `_interpret_version_rows`. -/
def interpretVersionRows (schema : Text) : List Text → Except GuardError (Option Text)
  | [] => .ok none
  | [row] => .ok (some row)
  | rows =>
    .error (.schemaRevision (schema ++ text "." ++ versionTable ++ text " holds " ++
      intText rows.length ++ text " rows (" ++ joined (sorted rows) ++
    text "); a stamped database has exactly one, so this schema was migrated along two branches"))

/-- `live_revision` and `live_revision_sync`, which differ in how they connect. -/
def liveRevision (world : SchemaWorld) : Except GuardError (Option Text) :=
  match world.versions with
  | .error problem => .error (.driver problem)
  | .ok none => .ok none
  | .ok (some rows) => interpretVersionRows world.schema rows

def describeMismatch (head : Text) : Option Text → Option Text
  | none => some (text "the database carries no alembic revision (expected " ++ head ++
      text "); it has never been migrated — " ++ remedy)
  | some current =>
    if current = head then none
    else some (text "database schema is at revision " ++ current ++
      text " but this code expects " ++ head ++
      text (". Serving against a schema this code was not written for is what caused SNAG-DB-001's 39-hour " ++
        "monitoring blackout — ") ++ remedy)

inductive SchemaVerdict where
  | matched | mismatch | unknown
deriving DecidableEq

def SchemaVerdict.name : SchemaVerdict → Text
  | .matched => text "match"
  | .mismatch => text "mismatch"
  | .unknown => text "unknown"

structure SchemaStatus where
  verdict : SchemaVerdict
  head : Option Text
  current : Option Text
  problem : Option Text

def schemaStatus (world : SchemaWorld) : SchemaStatus :=
  match packagedHead world with
  | .error (.schemaRevision problem) | .error (.driver problem) => ⟨.unknown, none, none, some problem⟩
  | .ok head =>
    match liveRevision world with
    | .error (.schemaRevision problem) => ⟨.unknown, some head, none, some problem⟩
    | .error (.driver problem) => ⟨.unknown, some head, none,
        some (text "could not read the live revision (expected " ++ head ++ text "): " ++ problem)⟩
    | .ok current =>
      match describeMismatch head current with
      | none => ⟨.matched, some head, current, none⟩
      | some problem => ⟨.mismatch, some head, current, some problem⟩

/-- `_schema_diagnosis`: the sentence, and the block.  An `.error` is what `schema_status` raises. -/
def schemaDiagnosis : Except Text SchemaWorld → Text × Json
  | .error problem =>
    ([], .obj [(text "verdict", .str SchemaVerdict.unknown.name), (text "problem", .str problem)])
  | .ok world =>
    let status := schemaStatus world
    let block :=
      Json.obj [(text "verdict", .str status.verdict.name), (text "head", .nullable status.head),
        (text "current", .nullable status.current), (text "problem", .nullable status.problem)]
    match status.verdict with
    | .mismatch => (text " CAUSE: " ++ status.problem.getD (text "None"), block)
    | .unknown => (text " The schema revision could not be checked.", block)
    | .matched => ([], block)

def filedUnder : Text := text "sysadmin"

def sourceName : Text := text "systemd_onfailure"

def ownUnit : Text := text "sysadmin.service"

def unitFailureTitle (unit : Text) : Text := unit ++ text " failed"

/-- What systemd says of the unit. -/
structure Failure where
  unit : Text
  result : Option Text
  exitStatus : Option Text
  restarts : Option Text

/-- `value or default`. -/
def orElse (value : Option Text) (default : Text) : Text :=
  if value.getD [] = [] then default else value.getD []

def failureDetails (failure : Failure) (schema : Json) : Details :=
  Dict.ofEntries [(text "kind", .str (text "unit_failure")), (text "unit", .str failure.unit),
    (text "source", .str sourceName), (text "raised_by", .str (text "scripts/notify-unit-failed.sh")),
    (text "systemd_result", .nullable failure.result),
    (text "exit_status", .nullable failure.exitStatus),
    (text "restarts", .nullable failure.restarts), (text "schema", schema)]

def failureDraft (failure : Failure) (world : Except Text SchemaWorld) : Draft where
  severity := .critical
  title := unitFailureTitle failure.unit
  message := text "systemd gave up restarting " ++ failure.unit ++ text " (result=" ++
    orElse failure.result (text "unknown") ++ text ", exit=" ++ orElse failure.exitStatus (text "?") ++
    text ", restarts=" ++ orElse failure.restarts (text "?") ++
    text "). Monitoring is down until it is started." ++ (schemaDiagnosis world).1
  details := failureDetails failure (schemaDiagnosis world).2

/-- What the handler meets: whether the select and the commit get through, and the database's clock. -/
structure HandlerWorld where
  reachable : Bool
  schema : Except Text SchemaWorld
  commits : Bool
  stamp : Int

/-- `record_unit_failure`: was a row written? -/
def recordUnitFailure (met : HandlerWorld) (table : AlertTable) (failure : Failure) :
    Bool × AlertTable :=
  if met.reachable = false then (false, table)
  else if (table.openRow? (filedUnder, unitFailureTitle failure.unit)).isSome then (false, table)
  else
    match raiseAlert table filedUnder met.stamp (failureDraft failure met.schema) with
    | some after => if met.commits then (true, after) else (false, table)
    | none => (false, table)

/-- `details ->> 'source' = 'systemd_onfailure'`. -/
def fromHandler (details : Details) : Bool :=
  match details.get? (text "source") with
  | some (.str value) => value = sourceName
  | _ => false

/-- An open row that the handler wrote. -/
def isStanding (row : Alert) : Bool := row.agent = filedUnder && fromHandler row.details

def standingRows (table : AlertTable) : List Alert := table.openRows.filter isStanding

structure PendingFailure where
  unit : Text
  title : Text
  message : Text
  createdAt : Int
  details : Details

/-- `str.removesuffix`. -/
def removeSuffix (value suffix : Text) : Text :=
  if suffix.reverse.isPrefixOf value.reverse then value.take (value.length - suffix.length) else value

def pendingFailure (row : Alert) : PendingFailure where
  unit := match row.details.get? (text "unit") with
    | some (.str (c :: rest)) => c :: rest
    | _ => removeSuffix row.title (text " failed")
  title := row.title
  message := row.message
  createdAt := row.createdAt
  details := row.details

/-- A read ordered by `created_at`; rows of one instant come in any order. -/
structure ReadInOrder (table : AlertTable) (rows : List Alert) : Prop where
  perm : rows.Perm (standingRows table)
  sorted : rows.Pairwise fun earlier later => earlier.createdAt ≤ later.createdAt

/-- `pending_unit_failures`, by the rows that were read, or nothing where the database could not be. -/
def pendingUnitFailures (rows : Option (List Alert)) : List PendingFailure :=
  (rows.getD []).map pendingFailure

/-- The rows that `resolve_unit_failures` closes. -/
def resolvedBy (unit : Text) (row : Alert) : Bool :=
  row.agent = filedUnder && row.title = unitFailureTitle unit && row.resolvedAt.isNone &&
    fromHandler row.details

/-- `resolve_unit_failures`: the table, and the number of rows closed. -/
def resolveUnitFailures (table : AlertTable) (unit : Text) (at_ : Int) : AlertTable × Nat :=
  (table.amend (resolving (resolvedBy unit) at_), table.rows.countP (resolvedBy unit))

/-! The two readers of the schema agree. -/

end SysadminAssistant.Core.UnitFailures
