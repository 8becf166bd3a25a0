import SysadminAssistant.Python.Dict
import SysadminAssistant.Python.Float
import SysadminAssistant.Python.Text

namespace SysadminAssistant.Units

open Python

/-! Unit files as the sweep reads them, and the project each belongs to
(`sysadmin/units/scan.py`). -/

inductive Scope where
  | user | system
deriving DecidableEq

def Scope.name : Scope → Text
  | .user => text "user"
  | .system => text "system"

/-- `str.lower` and `str.casefold` of the interpreter. -/
structure CaseTools where
  lower : Text → Text
  casefold : Text → Text

structure UnitFile where
  name : Text
  scope : Scope
  path : Text
  description : Option Text := none
  serviceType : Text := text "simple"
  workingDirectory : Option Text := none
  execPaths : List Text := []
  triggers : Option Text := none
  static : Bool := true
  enabled : Bool := false
  restart : Option Text := none
  restartSec : Option PyFloat := none
  startLimitInterval : Option PyFloat := none
  startLimitBurst : Option Int := none

def defaultStartLimitInterval : PyFloat := .finite 10

def defaultStartLimitBurst : Int := 5

/-- The double nearest to `0.1`. -/
def defaultRestartSec : PyFloat := .finite (roundToDouble (1 / 10))

/-- `restart_is_bounded`; `none` is an `OverflowError`. -/
def restartIsBounded (tools : CaseTools) (restart : Option Text)
    (restartSec startLimitInterval : Option PyFloat) (startLimitBurst : Option Int) : Option Bool :=
  match restart with
  | none => some true
  | some restart =>
    if tools.lower restart.strip ∈ [text "", text "no"] then some true
    else
      let interval := startLimitInterval.getD defaultStartLimitInterval
      let burst := startLimitBurst.getD defaultStartLimitBurst
      if interval.isNonPositive || decide (burst ≤ 0) then some false
      else
        let cadence := restartSec.getD defaultRestartSec
        if cadence = .infinite false then some false
        else if burst = 1 then some true
        else (PyFloat.ofInt? (burst - 1)).map fun starts => (cadence.mul starts).less interval

namespace UnitFile

def restartBounded (tools : CaseTools) (unit : UnitFile) : Option Bool :=
  restartIsBounded tools unit.restart unit.restartSec unit.startLimitInterval unit.startLimitBurst

/-- `name.rsplit(".", 1)[0]`. -/
def stem (unit : UnitFile) : Text :=
  if codePoint '.' ∈ unit.name then
    ((unit.name.reverse.dropWhile fun c => c ≠ codePoint '.').drop 1).reverse
  else unit.name

def isTimer (unit : UnitFile) : Bool := (text ".timer").isSuffixOf unit.name

def isOneshot (unit : UnitFile) : Bool := unit.serviceType = text "oneshot"

/-- `working_directory`, where it is not empty. -/
def workingDirectories (unit : UnitFile) : List Text := (unit.workingDirectory.filter (· ≠ [])).toList

def declaredPaths (unit : UnitFile) : List Text :=
  unit.execPaths.foldl (fun paths path => if path ∈ paths then paths else paths ++ [path])
    unit.workingDirectories

end UnitFile

/-! ## Matching -/

structure ProjectRef where
  name : Text
  path : Text
  status : Text := text "active"

def ProjectRef.isLive (project : ProjectRef) : Bool := project.status ≠ text "archived"

def normalise (tools : CaseTools) (value : Text) : Text :=
  tools.casefold (value.filter fun c =>
    !(c.isSpace || c = codePoint '-' || c = codePoint '_' || c = codePoint '.'))

/-- `path.rstrip("/")`. -/
def rstripSlash (path : Text) : Text := (path.reverse.dropWhile fun c => c = codePoint '/').reverse

def under (path root : Text) : Bool :=
  rstripSlash path = rstripSlash root ||
    (rstripSlash root ++ text "/").isPrefixOf (rstripSlash path)

/-- `Path(path).name`: the last part. -/
def pathName (path : Text) : Text :=
  ((path.splitOn (codePoint '/')).filter fun part => part ≠ [] ∧ part ≠ text ".").getLast?.getD []

inductive MatchedBy where
  | path | name
deriving DecidableEq

structure UnitMatch where
  project : Option ProjectRef := none
  matchedBy : Option MatchedBy := none
  deadPaths : List Text := []

section

variable (tools : CaseTools)

/-- The longest project root that a declared path lies under. -/
def bestByPath (unit : UnitFile) (projects : List ProjectRef) : Option ProjectRef :=
  projects.foldl (fun best candidate =>
    if unit.declaredPaths.any fun declared => under declared candidate.path then
      if best.all fun best => candidate.path.length > best.path.length then some candidate else best
    else best) none

/-- The longest project name that the unit's begins with; of a name that folds to nothing
the directory's stands in. -/
def bestByName (unit : UnitFile) (projects : List ProjectRef) : Option ProjectRef :=
  projects.foldl (fun best candidate =>
    let own := normalise tools candidate.name
    let key := if own = [] then normalise tools (pathName candidate.path) else own
    if key ≠ [] ∧ key.isPrefixOf (normalise tools unit.stem) = true then
      if best.all fun best => key.length > (normalise tools best.name).length then some candidate
      else best
    else best) none

def matchUnit (unit : UnitFile) (projects : List ProjectRef) (pathExists : Text → Bool) : UnitMatch :=
  match bestByPath unit projects with
  | some best => { project := some best, matchedBy := some .path }
  | none =>
    let dead := unit.workingDirectories.filter fun path => !pathExists path
    match bestByName tools unit projects with
    | some best => { project := some best, matchedBy := some .name, deadPaths := dead }
    | none => { deadPaths := dead }

end

end SysadminAssistant.Units
