import SysadminAssistant.Core.PatternResolve
import SysadminAssistant.Units.SweepBuckets

namespace SysadminAssistant.Units

open Python SysadminAssistant.Core

/-! `ServiceDiscoveryAgent` (`sysadmin/units/agent.py`): what a sweep raises, escalates, refreshes
and resolves. -/

def serviceDiscovery : Text := text "service_discovery"

def alertTitle : Text := text "Unmonitored systemd units"

def armedTitlePrefix : Text := text "Orphaned unit still enabled"

def portTitlePrefix : Text := text "Port collision on"

def portAlertSeverity : Severity := .warning

def portAlertTitle (port : Int) : Text := portTitlePrefix ++ text " " ++ intText port

def armedTitle (unit : Text) (scope : Scope) : Text :=
  armedTitlePrefix ++ text ": " ++ unit ++ text " (" ++ scope.name ++ text ")"

/-! ## The rows -/

def Category.name : Category → Text
  | .orphaned => text "orphaned"
  | .unmonitored => text "unmonitored"
  | .host => text "host"
  | .restartUnbounded => text "restart"

/-- `Path(path).parent / name`. -/
def siblingPath (path name : Text) : Text :=
  (path.reverse.dropWhile fun c => c ≠ codePoint '/').reverse ++ name

/-- `removal_command`: the timer of a folded service goes first. -/
def removalCommand (finding : UnitFinding) : Text :=
  let timed := finding.monitorUnit ≠ [] ∧ finding.monitorUnit ≠ finding.unit
  let units := (if timed then finding.monitorUnit ++ text " " else []) ++ finding.unit
  let files :=
    (if timed then siblingPath finding.path finding.monitorUnit ++ text " " else []) ++ finding.path
  match finding.scope with
  | .user => text "systemctl --user disable --now " ++ units ++ text " && rm " ++ files ++
      text " && systemctl --user daemon-reload"
  | .system => text "sudo systemctl disable --now " ++ units ++ text " && sudo rm " ++ files ++
      text " && sudo systemctl daemon-reload"

namespace UnitFinding

def armedAlertTitle (finding : UnitFinding) : Text := armedTitle finding.unit finding.scope

/-- `armed_alert_severity`: a loop that never ends is the louder fault. -/
def armedAlertSeverity (finding : UnitFinding) : Severity :=
  if finding.restartBounded then .warning else .critical

def armedAlertMessage (finding : UnitFinding) : Text :=
  finding.reason ++ text ". Fix: " ++ removalCommand finding

def armedAlertDetails (finding : UnitFinding) : Details :=
  Dict.ofEntries [(text "source", .str (text "unit_sweep")), (text "unit", .str finding.unit),
    (text "scope", .str finding.scope.name), (text "path", .str finding.path),
    (text "category", .str finding.category.name), (text "enabled", .bool finding.enabled),
    (text "restart", .nullable finding.restart),
    (text "restart_bounded", .bool finding.restartBounded),
    (text "dead_path", .nullable finding.deadPath), (text "project", .nullable finding.project),
    (text "project_path", .nullable finding.projectPath),
    (text "remedy", .str (removalCommand finding))]

def armedDraft (finding : UnitFinding) : Draft where
  severity := finding.armedAlertSeverity
  title := finding.armedAlertTitle
  message := finding.armedAlertMessage
  details := finding.armedAlertDetails

end UnitFinding

inductive PortKind where
  | wrongUnit | portShared | duplicateClaim | wrongProject
deriving DecidableEq

def PortKind.name : PortKind → Text
  | .wrongUnit => text "wrong_unit"
  | .portShared => text "port_shared"
  | .duplicateClaim => text "duplicate_claim"
  | .wrongProject => text "wrong_project"

/-- `KIND_ORDER`, worst first. -/
def kindOrder : List PortKind := [.wrongUnit, .portShared, .duplicateClaim, .wrongProject]

structure PortFinding where
  port : Int
  kind : PortKind
  summary : Text
  detail : Details

def PortFinding.isCollision (finding : PortFinding) : Bool :=
  finding.kind ∈ [PortKind.wrongUnit, .portShared]

def PortFinding.asDict (finding : PortFinding) : Json :=
  .obj [(text "port", .int finding.port), (text "kind", .str finding.kind.name),
    (text "summary", .str finding.summary), (text "detail", .obj finding.detail.entries),
    (text "collision", .bool finding.isCollision)]

structure PortReport where
  findings : List PortFinding
  error : Option Text

namespace PortReport

def ok (report : PortReport) : Bool := report.error.isNone

def collisions (report : PortReport) : List PortFinding :=
  report.findings.filter PortFinding.isCollision

/-- The ports of `by_port`, in order. -/
def contested (report : PortReport) : List Int :=
  (report.collisions.map PortFinding.port).dedup.insertionSort fun left right => left ≤ right

/-- What is wrong with a port, worst first. -/
def findingsOn (report : PortReport) (port : Int) : List PortFinding :=
  (report.collisions.filter fun finding => finding.port = port).insertionSort fun left right =>
    kindOrder.idxOf left.kind ≤ kindOrder.idxOf right.kind

def draft (report : PortReport) (port : Int) : Draft where
  severity := portAlertSeverity
  title := portAlertTitle port
  message := ((report.findingsOn port).head?.map PortFinding.summary).getD []
  details := Dict.ofEntries [(text "port", .int port),
    (text "kinds", .arr ((report.findingsOn port).map fun finding => .str finding.kind.name)),
    (text "findings", .arr ((report.findingsOn port).map PortFinding.asDict)),
    (text "source", .str (text "port_check"))]

end PortReport

namespace UnitScan

def actionable (scan : UnitScan) : Nat := scan.findings.length

def alertMessage (scan : UnitScan) : Text :=
  let said := fun (category : Category) (words : Text) =>
    if scan.count category = 0 then [] else [intText (scan.count category) ++ words]
  let live := if scan.armed = [] then [] else
    text ", " ++ intText scan.armed.length ++ text " of them enabled and failing now"
  let parts :=
    said .orphaned (text " orphaned (project gone — these fail on start" ++ live ++ text ")") ++
    said .unmonitored (text " unmonitored project units") ++
      said .host (text " host units with no project")
  List.intercalate (text ", ") parts ++ text ". " ++ intText scan.monitoredCount ++ text " of " ++
    intText scan.unitsScanned ++ text " units are wired. See GET /api/units/actions for snippets."

def alertDetails (scan : UnitScan) : Details :=
  Dict.ofEntries [(text "actionable", .int scan.actionable),
    (text "orphaned", .int (scan.count .orphaned)), (text "armed", .int scan.armed.length),
    (text "unmonitored", .int (scan.count .unmonitored)), (text "host", .int (scan.count .host)),
    (text "units_scanned", .int scan.unitsScanned), (text "monitored", .int scan.monitoredCount),
    (text "restart_unbounded", .int scan.restartFindings.length),
    (text "examples", .arr ((scan.findings.take 5).map fun finding => .str finding.unit))]

def rolledUpDraft (scan : UnitScan) : Draft where
  severity := .warning
  title := alertTitle ++ text ": " ++ intText scan.actionable ++ text " findings"
  message := scan.alertMessage
  details := scan.alertDetails

end UnitScan

/-! ## A run -/

/-- What a run finds, and the instants its statements stamp. -/
structure DiscoveryRun where
  units : List UnitFile
  /-- A directory has one entry of a name. -/
  distinct : (units.map UnitFile.place).Nodup
  excluded : List Text
  projects : List ProjectRef
  pathExists : Text → Bool
  wired : List Text
  report : PortReport
  alertThreshold : Int
  /-- Does the database take the audit row? -/
  auditStored : Bool
  stamp : Int
  escalatedAt : Text → Int
  disarmedAt : Int
  uncontestedAt : Int
  rolledUpAt : Int
  /-- Which of several rows an unordered `SELECT` gives first. -/
  picked : Nat

/-- The interpreter, the database's locale, and what its columns take. -/
structure Host where
  tools : CaseTools
  lowering : Lowering
  accepts : Draft → Bool

def DiscoveryRun.scan (host : Host) (run : DiscoveryRun) : Option UnitScan :=
  scanUnits host.tools run.projects run.pathExists run.units run.excluded run.wired

/-- The agent's open rows under `LIKE 'prefix%'`. -/
def familyRows (table : AlertTable) (titlePrefix : Text) : List Alert :=
  table.openRows.filter fun row => decide (row.agent = serviceDiscovery) &&
    like (titlePrefix ++ text "%") row.title

/-- An `UPDATE` over a family, less the titles that were judged. -/
def resolveUnjudged (table : AlertTable) (titlePrefix : Text) (judged : List Text) (at_ : Int) :
    AlertTable :=
  resolveWhere table serviceDiscovery
    (fun title => like (titlePrefix ++ text "%") title && decide (title ∉ judged)) at_

section

variable (host : Host)

def raiseRow (table : AlertTable) (stamp : Int) (draft : Draft) : Option AlertTable :=
  if host.accepts draft then raiseAlert table serviceDiscovery stamp draft else none

/-- One armed orphan, of the rows `openRows` that stood before the loop. -/
def maintainArmed (openRows : List Alert) (run : DiscoveryRun) (table : AlertTable)
    (finding : UnitFinding) : Option AlertTable :=
  let title := finding.armedAlertTitle
  let existing := openRows.find? fun row => row.title = title
  match stepFor finding.armedAlertSeverity (existing.map Alert.severity) with
  | .hold => some table
  | .escalate =>
    raiseRow host (resolveAlerts host.lowering table serviceDiscovery title
      (run.escalatedAt title)) run.stamp finding.armedDraft
  | .raise => raiseRow host table run.stamp finding.armedDraft

def maintainArmedAlerts (run : DiscoveryRun) (table : AlertTable) (scan : UnitScan) :
    Option AlertTable :=
  let openRows := familyRows table armedTitlePrefix
  (scan.armed.foldlM (maintainArmed host openRows run) table).map fun table =>
    resolveUnjudged table armedTitlePrefix (scan.armed.map UnitFinding.armedAlertTitle) run.disarmedAt

/-- One contested port, of the rows `standing` before the loop. -/
def maintainPort (standing : List Alert) (run : DiscoveryRun) (table : AlertTable) (port : Int) :
    Option AlertTable :=
  let draft := run.report.draft port
  match standing.find? fun row => row.title = draft.title with
  | some row =>
    match refreshAlert row draft with
    | none => some table
    | some updated => if host.accepts draft then some (table.amend (rewriting updated)) else none
  | none => raiseRow host table run.stamp draft

/-- `_maintain_port_alerts`: a report that failed judges nothing. -/
def maintainPortAlerts (run : DiscoveryRun) (table : AlertTable) : Option AlertTable :=
  if run.report.ok then
    let standing := familyRows table portTitlePrefix
    (run.report.contested.foldlM (maintainPort host standing run) table).map fun table =>
      resolveUnjudged table portTitlePrefix (run.report.contested.map portAlertTitle) run.uncontestedAt
  else some table

/-- The rows the roll-up takes for its own. -/
def rolledUpRows (table : AlertTable) : List Alert :=
  table.openRows.filter fun row =>
    decide (row.agent = serviceDiscovery) && patternTakes host.lowering alertTitle row.title

/-- `_maintain_alert`: one row for all findings, raised again when their count moves. -/
def maintainAlert (run : DiscoveryRun) (table : AlertTable) (scan : UnitScan) : Option AlertTable :=
  let resolved := resolveAlerts host.lowering table serviceDiscovery alertTitle run.rolledUpAt
  if run.alertThreshold ≤ 0 ∨ (scan.actionable : Int) < run.alertThreshold then some resolved
  else
    let rows := rolledUpRows host table
    match rows[run.picked % rows.length]? with
    | none => raiseRow host table run.stamp scan.rolledUpDraft
    | some existing =>
      if (existing.details.get? (text "actionable")).any fun previous =>
          Json.equal previous (.int scan.actionable) then some table
      else raiseRow host resolved run.stamp scan.rolledUpDraft

/-- `_execute`; `none` is an exception, which rolls the run back. -/
def executeSweep (table : AlertTable) (run : DiscoveryRun) : Option AlertTable := do
  let scan ← run.scan host
  if run.auditStored then
    let table ← maintainArmedAlerts host run table scan
    let table ← maintainPortAlerts host run table
    maintainAlert host run table scan
  else none

end

end SysadminAssistant.Units
