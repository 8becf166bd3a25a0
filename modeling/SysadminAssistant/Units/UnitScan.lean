import Mathlib.Data.Finset.Card
import Mathlib.Data.List.Sort
import Mathlib.Data.Prod.Lex
import SysadminAssistant.Units.UnitFiles

namespace SysadminAssistant.Units

open Python

/-! The sweep over the unit files (`sysadmin/units/scan.py`): what is folded, what is
monitored, and a finding for every other unit. -/

inductive Category where
  | orphaned | unmonitored | host | restartUnbounded
deriving DecidableEq

def categoryOrder : List Category := [.orphaned, .unmonitored, .host]

structure UnitFinding where
  unit : Text
  scope : Scope
  category : Category
  path : Text
  description : Option Text
  project : Option Text
  projectPath : Option Text
  matchedBy : Option MatchedBy
  monitorUnit : Text
  deadPath : Option Text
  manual : Bool
  reason : Text
  enabled : Bool
  restart : Option Text
  restartBounded : Bool
  restartSec : Option PyFloat
  startLimitInterval : Option PyFloat
  startLimitBurst : Option Int

/-- `armed`: an orphan systemd will start. -/
def UnitFinding.armed (finding : UnitFinding) : Bool :=
  decide (finding.category = .orphaned) && finding.enabled

def wiredKey (unit : Text) (scope : Scope) : Text := scope.name ++ text ":" ++ unit

def UnitFile.key (unit : UnitFile) : Text := wiredKey unit.name unit.scope

def UnitFinding.key (finding : UnitFinding) : Text := wiredKey finding.unit finding.scope

def byKey (units : List UnitFile) : Dict Text UnitFile :=
  Dict.ofEntries (units.map fun unit => (unit.key, unit))

/-! ## Timers and the oneshot services they start -/

structure Folding where
  folded : Finset Text
  timerFor : Dict Text Text

/-- The oneshot service a timer starts. -/
def foldTarget (known : Dict Text UnitFile) (unit : UnitFile) : Option UnitFile :=
  match unit.triggers with
  | none | some [] => none
  | some triggers =>
    if unit.isTimer then (known.get? (wiredKey triggers unit.scope)).filter UnitFile.isOneshot
    else none

def foldTimer (known : Dict Text UnitFile) (folding : Folding) (unit : UnitFile) : Folding :=
  match foldTarget known unit with
  | none => folding
  | some target =>
    { folded := insert unit.key folding.folded
      timerFor := folding.timerFor.set target.key unit.name }

def foldTimers (units : List UnitFile) : Folding := units.foldl (foldTimer (byKey units)) ⟨∅, .empty⟩

/-- `is_wired`: either end of a service/timer pair counts. -/
def isWired (unit : UnitFile) (wired : List Text) (timerFor : Dict Text Text) : Bool :=
  if unit.key ∈ wired then true
  else (timerFor.get? unit.key).any fun monitorUnit => wiredKey monitorUnit unit.scope ∈ wired

/-! ## Findings -/

def armingClause (finding : UnitFinding) : Text :=
  if !finding.enabled then text ". It is disabled, so nothing starts it"
  else if finding.restartBounded then
    text ". It is enabled, so systemd starts it and the start fails every time"
  else
    text ". It is enabled and sets Restart=" ++ finding.restart.getD (text "None") ++
      text (" with a start limit it can never reach, so the failed starts repeat for ever without the unit " ++
        "entering `failed` — nothing can fire OnFailure= and `systemctl is-failed` says it is fine")

def assignCategory (finding : UnitFinding) (found : UnitMatch) : UnitFinding :=
  match finding.deadPath, found.project with
  | some (c :: dead), _ =>
    { finding with
      category := .orphaned
      reason := text "WorkingDirectory " ++ (c :: dead) ++
        text " does not exist — systemd fails the start job, so this unit cannot run" ++
          armingClause finding }
  | _, none =>
    { finding with
      category := .host
      reason :=
        text ("hand-written unit that maps to no project — real infrastructure with nothing " ++
        "watching it") }
  | _, some project =>
    if !project.isLive then
      { finding with
        category := .orphaned
        reason :=
          text "belongs to " ++ project.name ++ text (", which is archived — the project was " ++
          "retired but its unit was left installed") ++ armingClause finding }
    else
      { finding with
        category := .unmonitored
        reason := (if found.matchedBy = some .path then text "its path is under " ++ project.path
          else text "its name matches the " ++ project.name ++ text " project") ++
            text ", but no services.yaml entry monitors it" }

def restartReason (finding : UnitFinding) : Text :=
  text "sets Restart=" ++ finding.restart.getD (text "None") ++
    text (" with a start limit its restart cadence can never reach, so failed starts repeat for ever without " ++
      "the unit entering `failed` — no OnFailure= can fire and `systemctl is-failed` reports it as fine")

section

variable (tools : CaseTools) (projects : List ProjectRef) (pathExists : Text → Bool)

/-- What the sweep says of a unit before it is put in a category. -/
def describe (timerFor : Dict Text Text) (known : Dict Text UnitFile) (unit : UnitFile)
    (bounded : Bool) (category : Category) : UnitFinding :=
  let monitorUnit := (timerFor.get? unit.key).getD unit.name
  let found := matchUnit tools unit projects pathExists
  let timerUnit := known.get? (wiredKey monitorUnit unit.scope)
  { unit := unit.name
    scope := unit.scope
    category
    path := unit.path
    description := unit.description
    project := found.project.map ProjectRef.name
    projectPath := found.project.map ProjectRef.path
    matchedBy := found.matchedBy
    monitorUnit
    deadPath := found.deadPaths.head?
    manual := unit.isOneshot && monitorUnit = unit.name && unit.static
    reason := []
    enabled := unit.enabled || timerUnit.any UnitFile.enabled
    restart := unit.restart
    restartBounded := bounded
    restartSec := unit.restartSec
    startLimitInterval := unit.startLimitInterval
    startLimitBurst := unit.startLimitBurst }

def classifyUnit (timerFor : Dict Text Text) (known : Dict Text UnitFile) (unit : UnitFile) :
    Option UnitFinding :=
  (unit.restartBounded tools).map fun bounded =>
    assignCategory (describe tools projects pathExists timerFor known unit bounded .host)
      (matchUnit tools unit projects pathExists)

/-- Broken first. -/
def findingOrder (finding : UnitFinding) : Nat ×ₗ Text ×ₗ Text :=
  toLex (categoryOrder.idxOf finding.category, toLex (finding.scope.name, finding.unit))

/-- `classify_units`: monitored units are dropped. -/
def classifyUnits (units : List UnitFile) (wired : List Text) : Option (List UnitFinding) :=
  let folding := foldTimers units
  let unwatched := units.filter fun unit =>
    !(decide (unit.key ∈ folding.folded) || isWired unit wired folding.timerFor)
  (unwatched.mapM (classifyUnit tools projects pathExists folding.timerFor (byKey units))).map
    fun findings =>
    findings.insertionSort fun left right => findingOrder left ≤ findingOrder right

/-- The finding of a unit whose restart loop never ends, or `none` where there is none. -/
def restartRisk (classified : Dict Text UnitFinding) (timerFor : Dict Text Text)
    (known : Dict Text UnitFile) (unit : UnitFile) : Option UnitFinding :=
  match classified.get? unit.key with
  | some existing =>
    if existing.category = .orphaned then none
    else some { existing with category := .restartUnbounded, reason := restartReason existing }
  | none =>
    let finding := describe tools projects pathExists timerFor known unit false .restartUnbounded
    some { finding with reason := restartReason finding }

def riskOrder (finding : UnitFinding) : Text ×ₗ Text := toLex (finding.scope.name, finding.unit)

/-- `restart_risk_findings`: a second pass over the same units. -/
def restartRiskFindings (units : List UnitFile) (findings : List UnitFinding) :
    Option (List UnitFinding) :=
  let classified := Dict.ofEntries (findings.map fun finding => (finding.key, finding))
  let folding := foldTimers units
  (units.mapM fun unit : UnitFile => (unit.restartBounded tools).map fun bounded =>
    if bounded then none
    else restartRisk tools projects pathExists classified folding.timerFor (byKey units) unit).map
      fun risky => (risky.filterMap id).insertionSort fun left right =>
        riskOrder left ≤ riskOrder right

structure UnitScan where
  findings : List UnitFinding
  unitsScanned : Nat
  unitsExcluded : Nat
  monitoredCount : Nat
  timersFolded : Nat
  excludedUnits : List Text
  restartFindings : List UnitFinding
  unitProjects : Dict Text Text

def UnitScan.count (scan : UnitScan) (category : Category) : Nat :=
  scan.findings.countP fun finding => finding.category = category

def UnitScan.armed (scan : UnitScan) : List UnitFinding := scan.findings.filter UnitFinding.armed

/-- `scan_units`, of what `discover_units` found. -/
def scanUnits (units : List UnitFile) (excluded : List Text) (wired : List Text) :
    Option UnitScan := do
  let findings ← classifyUnits tools projects pathExists units wired
  let risks ← restartRiskFindings tools projects pathExists units findings
  let folding := foldTimers units
  let monitored := units.countP fun unit =>
    decide (unit.key ∉ folding.folded) && isWired unit wired folding.timerFor
  some {
    findings
    restartFindings := risks
    unitsScanned := units.length
    unitsExcluded := excluded.length
    monitoredCount := monitored
    timersFolded := folding.folded.card
    excludedUnits := excluded
    unitProjects := Dict.ofEntries (units.filterMap fun unit =>
      (matchUnit tools unit projects pathExists).project.map fun project => (unit.key, project.name)) }

end

end SysadminAssistant.Units
