import SysadminAssistant.Estate.AuditFindings
import SysadminAssistant.Estate.QueueInvariants

namespace SysadminAssistant.Estate

open Python SysadminAssistant.Core SysadminAssistant.Units

/-! `EstateJudgeAgent` (`sysadmin/estate/agent.py`): judge what was read, raise what is new,
refresh what stands, resolve what has gone. -/

inductive SurfaceResult where
  | payload (fields : Payload)
  | error (reason : Text)

def SurfaceResult.read : SurfaceResult → Bool
  | .payload _ => true
  | .error _ => false

/-- `_target`: the file a `{path, resolves_to?}` pair names. -/
def targetOf (where_ : Payload) : Option Text :=
  let named := fun key => (payloadField where_ key).text?.filter fun value => value.strip ≠ []
  (named "resolves_to").or (named "path")

def fieldsOf : Json → Option Payload
  | .obj fields => some fields
  | _ => none

/-- The value one step down, where the step above is an object. -/
def below (value : Option Payload) (key : String) : Option Payload :=
  value.bind fun fields => fieldsOf (payloadField fields key)

def pathPair (where_ : Payload) : Json :=
  .obj (["path", "resolves_to"].filterMap fun key =>
    (Json.field? (text key) where_).map fun value => (text key, value))

/-- `compare_settings_paths`: read only when both halves were. -/
def compareSettingsPaths (audit local_ : SurfaceResult) : SurfaceResult :=
  match audit, local_ with
  | .error _, _ => .error (text "not compared: audit_invariants was not read")
  | _, .error _ => .error (text "not compared: hook_wiring was not read")
  | .payload published, .payload ours =>
    let last := fieldsOf (payloadField published "last_audit")
    let checks := below last "checks"
    let wiring := below checks "wiring"
    let inputs := below wiring "inputs"
    let theirs := below inputs "settings_file"
    match last, theirs, theirs.bind targetOf with
    | some last, some theirs, some theirsTarget =>
      match targetOf ours with
      | none => .error (text "not compared: hook_wiring published no path")
      | some oursTarget => .payload [(text "ours", pathPair ours), (text "theirs", pathPair theirs),
        (text "ours_target", .str oursTarget), (text "theirs_target", .str theirsTarget),
        (text "same_file", .bool (oursTarget = theirsTarget)),
        (text "audit_finished_at", payloadField last "finished_at")]
    | _, _, _ =>
      let missing := if last.isNone then "last_audit" else if checks.isNone then "last_audit.checks"
        else if wiring.isNone then "checks.wiring" else if inputs.isNone then "wiring.inputs"
        else if theirs.isNone then "inputs.settings_file" else "inputs.settings_file.path"
      .error (text "not compared: the estate's audit summary publishes no " ++ text missing)

/-- What a run has read before it opens its transaction. -/
structure Pulled where
  projectsInvariants : SurfaceResult
  projectsAttention : SurfaceResult
  auditInvariants : SurfaceResult
  auditFindings : SurfaceResult
  queueInvariants : SurfaceResult
  hookWiring : SurfaceResult

def Pulled.result (pulled : Pulled) : Surface → SurfaceResult
  | .projectsInvariants => pulled.projectsInvariants
  | .projectsAttention => pulled.projectsAttention
  | .auditInvariants => pulled.auditInvariants
  | .auditFindings => pulled.auditFindings
  | .queueInvariants => pulled.queueInvariants
  | .hookWiring => pulled.hookWiring
  | .settingsPath => compareSettingsPaths pulled.auditInvariants pulled.hookWiring

structure EstateConfig where
  scanMaxAgeHours : PyFloat
  attentionMaxRows : Int
  auditMaxAgeHours : PyFloat
  portBreachMaxRows : Int
  queueMaxDepth : Int
  queueMaxWaitSeconds : PyFloat

/-- What a run judges: its payloads, and the newest stored sweep's port holders. -/
structure EstateInputs where
  config : EstateConfig
  pulled : Pulled
  attribution : PortAttribution

section

variable (wording : Wording)

/-- A surface that was read, through its own rules; one that was not contributes nothing. -/
def judgeSurface (inputs : EstateInputs) (now : Int) (surface : Surface) : Option (List Judgement) :=
  match inputs.pulled.result surface with
  | .error _ => some []
  | .payload payload =>
    match surface with
    | .projectsInvariants => judgeProjectsInvariants wording payload inputs.config.scanMaxAgeHours
    | .projectsAttention => judgeAttention wording payload inputs.config.attentionMaxRows
    | .auditInvariants => judgeAuditInvariants wording payload inputs.config.auditMaxAgeHours
    | .auditFindings => do
      return (← judgeAuditFindings wording payload inputs.config.portBreachMaxRows
        inputs.attribution) ++ (← judgeAuditWiring wording payload)
    | .hookWiring => some (judgeHookWiring wording payload)
    | .settingsPath => some (judgeSettingsPath wording payload)
    | .queueInvariants =>
      judgeQueueInvariants wording payload inputs.config.queueMaxDepth
        inputs.config.queueMaxWaitSeconds now

/-- The order in which `_judge` asks. -/
def judgedSurfaces : List Surface :=
  [.projectsInvariants, .projectsAttention, .auditInvariants, .auditFindings, .hookWiring,
    .settingsPath, .queueInvariants]

def judge (inputs : EstateInputs) (now : Int) : Option (List Judgement) :=
  (judgedSurfaces.mapM (judgeSurface wording inputs now)).map List.flatten

end

def estateJudge : Text := text "estate_judge"

def surfaceDetailKey : Text := text "estate_surface"

/-- The row a judgement becomes, raised or refreshed. -/
def Judgement.draft (judgement : Judgement) : Draft where
  severity := judgement.severity
  title := judgement.title
  message := judgement.message
  details := judgement.details.set surfaceDetailKey (.str judgement.surface.name)

/-- The surface a row names, by what it says in its details. -/
def rowSurface (row : Alert) : Option Text := (row.details.get? surfaceDetailKey).bind Json.text?

/-- The loop over the judgements. -/
structure Judging where
  table : AlertTable
  openTitles : List Text
  raised : Nat
  refreshed : Nat

/-- One judgement.  `accepts` is what the columns of the table take; `none` is an exception. -/
def writeJudgement (accepts : Draft → Bool) (standing : List Text) (stamp : Int) (judging : Judging)
    (judgement : Judgement) : Option Judging :=
  let draft := judgement.draft
  if judgement.title ∈ judging.openTitles then
    if judgement.title ∈ standing then
      match (judging.table.openRow? (estateJudge, judgement.title)).bind fun held =>
        refreshAlert held draft with
      | none => some judging
      | some updated =>
        if accepts draft then
          some { judging with table := judging.table.amend (rewriting updated), refreshed := judging.refreshed + 1 }
        else none
    else some judging
  else if accepts draft then
    (raiseAlert judging.table estateJudge stamp draft).map fun table =>
      { table, openTitles := judgement.title :: judging.openTitles, raised := judging.raised + 1
        refreshed := judging.refreshed }
  else none

/-- The open rows of the surfaces that were read whose fault this run did not find. -/
def goneIds (pulled : Pulled) (openAlerts : List Alert) (current : List Text) : List Nat :=
  (openAlerts.filter fun row => decide (row.title ∉ current) &&
    judgedSurfaces.any fun surface => (pulled.result surface).read && rowSurface row =
      some surface.name).map Alert.id

structure EstateRun where
  inputs : EstateInputs
  now : Int
  stamp : Int
  closedAt : Int

structure EstateSummary where
  raised : Nat
  refreshed : Nat
  resolved : Nat
deriving DecidableEq

/-- `_execute`, after everything is read; `none` is an exception, which rolls the run back. -/
def execute (wording : Wording) (accepts : Draft → Bool) (before : AlertTable) (run : EstateRun) :
    Option (AlertTable × EstateSummary) := do
  let judged ← judge wording run.inputs run.now
  let openAlerts := activeAlerts before estateJudge
  let standing := openAlerts.map Alert.title
  let judging ← judged.foldlM (writeJudgement accepts standing run.stamp) ⟨before, standing, 0, 0⟩
  let gone := goneIds run.inputs.pulled openAlerts (judged.map Judgement.title)
  let after := if gone = [] then judging.table else resolveAlertIds judging.table gone run.closedAt
  return (after, ⟨judging.raised, judging.refreshed, gone.length⟩)

end SysadminAssistant.Estate
