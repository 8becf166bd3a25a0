import SysadminAssistant.Python.DecimalText
import SysadminAssistant.Python.Dict

namespace SysadminAssistant.Monitor.HttpCheck

open Python

/-! What `systemctl show` answers (`sysadmin/monitor/systemd.py`). -/

/-- An exception, as far as the handlers of a check tell them apart. -/
inductive CheckError where
  | systemdQuery (message : Text)
  | osError (message : Text)
  | sqlAlchemy (message : Text)
  | other (message : Text)

def CheckError.message : CheckError → Text
  | .systemdQuery message | .osError message | .sqlAlchemy message | .other message => message

/-- The Unicode database, and how exceptions, moments and floats are written. -/
structure Wording where
  database : CharDatabase
  lower : Text → Text
  repr : Text → Text
  errorText : PyError → Text
  isoformat : Int → Text
  tenths : ℚ → Text

/-- An exception of the language, as a check meets it. -/
def raised (wording : Wording) : PyError → CheckError
  | .osError => .osError (wording.errorText .osError)
  | error => .other (wording.errorText error)

/-- `value.partition(separator)`: what is before it, whether it is there, what is after it. -/
def partitionAt (separator : CodePoint) (value : Text) : Text × Bool × Text :=
  let rest := value.dropWhile (· ≠ separator)
  (value.takeWhile (· ≠ separator), rest ≠ [], rest.tail)

structure CompletedProcess where
  returncode : Option Int
  stdout : Bytes
  stderr : Bytes

/-- The user's runtime directory, and what comes of a command that is started and waited for. -/
structure Systemctl where
  runtimeDir : Text
  runtimeDirExists : Bool
  run : List Text → Except CheckError CompletedProcess

def busFailureMarker : Text := text "failed to connect to"

def baseCmd (user : Bool) : List Text :=
  if user then [text "systemctl", text "--user"] else [text "systemctl"]

section

variable (wording : Wording) (systemctl : Systemctl)

def busUnreachable : Text :=
  text "systemd user bus unreachable: XDG_RUNTIME_DIR " ++ wording.repr systemctl.runtimeDir ++
    text " does not exist (no login session, and lingering is not enabled)"

/-- `build_env`, as far as it raises. -/
def buildEnv (user : Bool) : Except CheckError Unit :=
  if user && !systemctl.runtimeDirExists
    then .error (.systemdQuery (busUnreachable wording systemctl)) else .ok ()

def decoded (bytes : Bytes) : Except CheckError Text := (decode bytes).mapError (raised wording)

/-- `_run`. -/
def runSystemctl (args : List Text) (user : Bool) : Except CheckError (Int × Text × Text) := do
  buildEnv wording systemctl user
  let process ← systemctl.run (baseCmd user ++ args)
  let stdout ← decoded wording process.stdout
  let stderr ← decoded wording process.stderr
  return (process.returncode.getD 0, stdout, stderr)

def raiseOnBusFailure (stderr description : Text) : Except CheckError Unit :=
  if Text.contains busFailureMarker (wording.lower stderr) then
    .error (.systemdQuery (description ++ text " could not reach the systemd bus: " ++ stderr.strip))
  else .ok ()

def startInstantProp : Text := text "ActiveEnterTimestamp"

def unitProperties (startInstant : Bool) : List Text :=
  ["ActiveState", "SubState", "MainPID", "MemoryCurrent", "CPUUsageNSec", "LoadState",
    "LastTriggerUSec", "NextElapseUSecRealtime", "Result", "Unit", "ExecMainStatus"].map text ++
    (if startInstant then [startInstantProp] else [])

def showArgs (unit : Text) (startInstant : Bool) : List Text :=
  [text "show", unit] ++ (if startInstant then [text "--timestamp=unix"] else []) ++
    [text "--property=" ++ (text ",").intercalate (unitProperties startInstant)]

/-- The properties of a unit, under the names that `systemctl` gives them. -/
abbrev UnitInfo := Dict Text Text

def readLine (info : UnitInfo) (line : Text) : UnitInfo :=
  match partitionAt 0x3D line with
  | (key, true, value) => info.set key value
  | _ => info

def readProperties (unit stdout : Text) : UnitInfo :=
  (Text.splitOn 0x0A stdout.strip).foldl readLine (Dict.empty.set (text "unit") unit)

def UnitInfo.activeState (info : UnitInfo) : Option Text := info.get? (text "ActiveState")

def UnitInfo.isActive (info : UnitInfo) : Bool := info.activeState = some (text "active")

/-- What `get_unit_status` makes of an answer. -/
def statusFrom (unit : Text) (returncode : Int) (stdout stderr : Text) :
    Except CheckError UnitInfo := do
  raiseOnBusFailure wording stderr (text "show " ++ unit)
  if returncode ≠ 0 then
    throw (.systemdQuery (text "systemctl show " ++ unit ++ text " exited with code " ++
      intText returncode ++
      text ": " ++ if stderr.strip = [] then text "no output" else stderr.strip))
  let info := readProperties unit stdout
  if info.activeState = none then
    throw (.systemdQuery (text "systemctl show " ++ unit ++
      text (" returned no ActiveState — cannot " ++ "determine whether the unit is running")))
  return info

/-- `get_unit_status`, less the key `is_active`. -/
def getUnitStatus (unit : Text) (user startInstant : Bool) : Except CheckError UnitInfo := do
  let (returncode, stdout, stderr) ← runSystemctl wording systemctl (showArgs unit startInstant) user
  statusFrom wording unit returncode stdout stderr

def parseStartInstant (raw : Option Text) : Except CheckError (Option Int) :=
  let value := (raw.getD []).strip
  if value.head? = some 0x40 then
    match (wording.database.intOfText value.tail).bind fun second => fromTimestamp second with
    | .ok instant => .ok (some instant)
    | .error .valueError => .ok none
    | .error error => .error (raised wording error)
  else .ok none

end

/-! When a query gives the properties of the unit, and when it fails by `SystemdQueryError`. -/

/-- An answer that says how the unit is. -/
def Telling (wording : Wording) (unit : Text) (returncode : Int) (stdout stderr : Text) : Prop :=
  Text.contains busFailureMarker (wording.lower stderr) = false ∧ returncode = 0 ∧
    (readProperties unit stdout).activeState ≠ none

/-- The command cannot be sent, ends with a `SystemdQueryError`, or ran and wrote UTF-8. -/
inductive Understood (systemctl : Systemctl) (args : List Text) (user : Bool) : Prop
  | unsent (missing : user = true ∧ systemctl.runtimeDirExists = false)
  | refused {message : Text}
      (failed : systemctl.run (baseCmd user ++ args) = .error (.systemdQuery message))
  | ran {process : CompletedProcess} {stdout stderr : Text}
      (ended : systemctl.run (baseCmd user ++ args) = .ok process)
        (out : decode process.stdout = .ok stdout)
      (err : decode process.stderr = .ok stderr)

/-- The process ran, wrote UTF-8, and what it wrote says how the unit is. -/
structure Answers (wording : Wording) (systemctl : Systemctl) (unit : Text)
    (user startInstant : Bool) : Prop where
  reachable : user = true → systemctl.runtimeDirExists = true
  ran : ∃ process stdout stderr, systemctl.run (baseCmd user ++ showArgs unit startInstant) =
    .ok process ∧ decode process.stdout = .ok stdout ∧ decode process.stderr = .ok stderr ∧
    Telling wording unit (process.returncode.getD 0) stdout stderr

/-- A query gives the properties, or fails by `SystemdQueryError`, or by another exception where the
command is not understood. -/
inductive QueryOutcome (wording : Wording) (systemctl : Systemctl) (unit : Text)
    (user startInstant : Bool) : Except CheckError UnitInfo → Prop
  | told {info : UnitInfo} (answers : Answers wording systemctl unit user startInstant) :
      QueryOutcome wording systemctl unit user startInstant (.ok info)
  | untold {message : Text} (understood : Understood systemctl (showArgs unit startInstant) user)
      (silent : ¬ Answers wording systemctl unit user startInstant) :
      QueryOutcome wording systemctl unit user startInstant (.error (.systemdQuery message))
  | lost {error : CheckError} (unknown : ∀ message, error ≠ .systemdQuery message)
      (garbled : ¬ Understood systemctl (showArgs unit startInstant) user) :
      QueryOutcome wording systemctl unit user startInstant (.error error)

section

variable {wording : Wording} {systemctl : Systemctl} {unit : Text} {user startInstant : Bool}

theorem statusFrom_telling {returncode : Int} {stdout stderr : Text}
    (telling : Telling wording unit returncode stdout stderr) :
    statusFrom wording unit returncode stdout stderr = .ok (readProperties unit stdout) := by
  obtain ⟨unmarked, success, listed⟩ := telling
  simp [statusFrom, raiseOnBusFailure, unmarked, success, listed, bind, Except.bind, pure, Except.pure]

theorem statusFrom_untold {returncode : Int} {stdout stderr : Text}
    (untold : ¬ Telling wording unit returncode stdout stderr) :
    ∃ message, statusFrom wording unit returncode stdout stderr = .error (.systemdQuery message) := by
  cases marked : Text.contains busFailureMarker (wording.lower stderr) with
  | true => exact ⟨_, by simp [statusFrom, raiseOnBusFailure, marked, bind, Except.bind]; rfl⟩
  | false =>
    by_cases success : returncode = 0
    · have unlisted : (readProperties unit stdout).activeState = none := by
        by_contra listed
        exact untold ⟨marked, success, listed⟩
      exact ⟨_, by
        simp [statusFrom, raiseOnBusFailure, marked, success, unlisted, bind, Except.bind,
          throw, throwThe, MonadExceptOf.throw]; rfl⟩
    · exact ⟨_, by
        simp [statusFrom, raiseOnBusFailure, marked, success, bind, Except.bind, throw, throwThe,
          MonadExceptOf.throw]; rfl⟩

theorem raised_ne_systemdQuery (error : PyError) (message : Text) :
    raised wording error ≠ .systemdQuery message := by
  cases error <;> simp [raised]

variable (wording unit startInstant) in
theorem getUnitStatus_sent (reachable : user = true → systemctl.runtimeDirExists = true) :
    getUnitStatus wording systemctl unit user startInstant =
      (systemctl.run (baseCmd user ++ showArgs unit startInstant)).bind fun process =>
        (decoded wording process.stdout).bind fun stdout =>
          (decoded wording process.stderr).bind fun stderr =>
            statusFrom wording unit (process.returncode.getD 0) stdout stderr := by
  have sent : buildEnv wording systemctl user = .ok () := by
    cases user <;> simp_all [buildEnv]
  simp only [getUnitStatus, runSystemctl, sent, bind, Except.bind, pure, Except.pure]
  cases systemctl.run (baseCmd user ++ showArgs unit startInstant) with
  | error error => rfl
  | ok process =>
    cases out : decoded wording process.stdout with
    | error error => simp only [out]
    | ok stdout => cases err : decoded wording process.stderr <;> simp only [out, err]

section

variable {process : CompletedProcess} (reachable : user = true → systemctl.runtimeDirExists = true)
  (ended : systemctl.run (baseCmd user ++ showArgs unit startInstant) = .ok process)
include reachable ended

theorem not_understood_of_garbled
    (garbled : (∀ stdout, decode process.stdout ≠ .ok stdout) ∨
      ∀ stderr, decode process.stderr ≠ .ok stderr) :
    ¬ Understood systemctl (showArgs unit startInstant) user := by
  intro understood
  cases understood with
  | unsent missing => simp [reachable missing.1] at missing
  | refused failed => simp [ended] at failed
  | ran ran out err =>
    cases ended.symm.trans ran
    exact garbled.elim (fun none => none _ out) fun none => none _ err

theorem getUnitStatus_ran :
    QueryOutcome wording systemctl unit user startInstant
      (getUnitStatus wording systemctl unit user startInstant) := by
  have sent := getUnitStatus_sent wording unit startInstant reachable
  simp only [ended, Except.bind] at sent
  cases out : decode process.stdout with
  | error error =>
    have failed : getUnitStatus wording systemctl unit user startInstant =
        .error (raised wording error) := by
      simp [sent, decoded, out, Except.mapError]
    rw [failed]
    exact .lost (raised_ne_systemdQuery error) (not_understood_of_garbled reachable ended
      (Or.inl (by simp [out])))
  | ok stdout =>
    cases err : decode process.stderr with
    | error error =>
      have failed : getUnitStatus wording systemctl unit user startInstant =
          .error (raised wording error) := by
        simp [sent, decoded, out, err, Except.mapError]
      rw [failed]
      exact .lost (raised_ne_systemdQuery error) (not_understood_of_garbled reachable ended
        (Or.inr (by simp [err])))
    | ok stderr =>
      have judged : getUnitStatus wording systemctl unit user startInstant =
          statusFrom wording unit (process.returncode.getD 0) stdout stderr := by
        simp [sent, decoded, out, err, Except.mapError]
      by_cases telling : Telling wording unit (process.returncode.getD 0) stdout stderr
      · rw [judged, statusFrom_telling telling]
        exact .told ⟨reachable, process, stdout, stderr, ended, out, err, telling⟩
      · obtain ⟨message, failed⟩ := statusFrom_untold telling
        rw [judged, failed]
        refine .untold (.ran ended out err) fun answers => ?_
        obtain ⟨other, otherOut, otherErr, ran, outAgain, errAgain, told⟩ := answers.ran
        cases ended.symm.trans ran
        cases out.symm.trans outAgain
        cases err.symm.trans errAgain
        exact telling told

end

variable (wording systemctl unit user startInstant) in
theorem getUnitStatus_outcome :
    QueryOutcome wording systemctl unit user startInstant
      (getUnitStatus wording systemctl unit user startInstant) := by
  by_cases reachable : user = true → systemctl.runtimeDirExists = true
  · cases ended : systemctl.run (baseCmd user ++ showArgs unit startInstant) with
    | error error =>
      have sent := getUnitStatus_sent wording unit startInstant reachable
      rw [sent, ended]
      have silent : ¬ Answers wording systemctl unit user startInstant := by
        intro answers
        obtain ⟨process, _, _, ran, _⟩ := answers.ran
        simp [ended] at ran
      by_cases known : ∃ message, error = .systemdQuery message
      · obtain ⟨message, rfl⟩ := known
        exact .untold (.refused ended) silent
      · refine .lost (fun message same => known ⟨message, same⟩) fun understood => ?_
        cases understood with
        | unsent missing => simp [reachable missing.1] at missing
        | refused failed => exact known ⟨_, Except.error.inj (ended.symm.trans failed)⟩
        | ran ran => simp [ended] at ran
    | ok process => exact getUnitStatus_ran reachable ended
  · have missing : user = true ∧ systemctl.runtimeDirExists = false := by
      simpa using reachable
    have failed : getUnitStatus wording systemctl unit user startInstant =
        .error (.systemdQuery (busUnreachable wording systemctl)) := by
      simp [getUnitStatus, runSystemctl, buildEnv, missing.1, missing.2, bind, Except.bind]
    rw [failed]
    exact .untold (.unsent missing) fun answers => reachable answers.reachable

end

/-! The start instant of a unit. -/

/-- A start instant is written as `@` and a number of seconds that `gmtime` takes, or is no such
text. -/
def StartWithinReach (wording : Wording) (raw : Option Text) : Prop :=
  ∀ second, (raw.getD []).strip.head? = some 0x40 →
    wording.database.intOfText (raw.getD []).strip.tail = .ok second →
    -67768040609740800 ≤ second ∧ second ≤ 67768036191676799

theorem intOfText_error {database : CharDatabase} {value : Text} {error : PyError}
    (failed : database.intOfText value = .error error) : error = .valueError := by
  simp only [CharDatabase.intOfText] at failed
  split at failed
  · exact (Except.error.inj failed).symm
  · split at failed
    · exact (Except.error.inj failed).symm
    · contradiction

theorem fromTimestamp_whole (second : Int) : fromTimestamp second =
    if second < -(2 ^ 63) ∨ 2 ^ 63 ≤ second then .error .overflowError
    else if second < -67768040609740800 ∨ 67768036191676799 < second then .error .osError
    else if second < -62135596800 ∨ 253402300799 < second then .error .valueError
    else .ok (second * 1000000) := by
  have whole : truncate (second : ℚ) = second := by
    simp [truncate]
  simp [fromTimestamp, whole]

theorem parseStartInstant_answers {wording : Wording} {raw : Option Text} :
    (∃ found, parseStartInstant wording raw = .ok found) ↔ StartWithinReach wording raw := by
  simp only [parseStartInstant, StartWithinReach]
  by_cases marked : (raw.getD []).strip.head? = some 0x40
  · rw [if_pos marked]
    cases number : wording.database.intOfText (raw.getD []).strip.tail with
    | error error =>
      rw [intOfText_error number]
      simp [Except.bind]
    | ok second =>
      simp only [Except.bind, fromTimestamp_whole, marked, true_implies, Except.ok.injEq, forall_eq']
      by_cases overflow : second < -(2 ^ 63) ∨ 2 ^ 63 ≤ second
      · simp only [if_pos overflow, reduceCtorEq, exists_false, false_iff]
        omega
      · by_cases beyond : second < -67768040609740800 ∨ 67768036191676799 < second
        · simp only [if_neg overflow, if_pos beyond, reduceCtorEq, exists_false, false_iff]
          omega
        · have within : -67768040609740800 ≤ second ∧ second ≤ 67768036191676799 := by omega
          rw [if_neg overflow, if_neg beyond]
          by_cases year : second < -62135596800 ∨ 253402300799 < second
          · simp [year, within]
          · simp [year, within]
  · simp [marked]

end SysadminAssistant.Monitor.HttpCheck
