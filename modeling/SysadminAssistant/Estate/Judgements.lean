import Mathlib.Data.List.Sort
import SysadminAssistant.Core.Alerts
import SysadminAssistant.Python.Json

namespace SysadminAssistant.Estate

open Python SysadminAssistant.Core

/-! What the estate's numbers mean (`sysadmin/estate/judgements.py`): a payload in, judgements
out.  `none` is an exception. -/

inductive Surface where
  | projectsInvariants | projectsAttention | auditInvariants | auditFindings | queueInvariants
  | hookWiring | settingsPath
deriving DecidableEq

def Surface.name : Surface → Text
  | .projectsInvariants => text "projects_invariants"
  | .projectsAttention => text "projects_attention"
  | .auditInvariants => text "audit_invariants"
  | .auditFindings => text "audit_findings"
  | .queueInvariants => text "queue_invariants"
  | .hookWiring => text "hook_wiring"
  | .settingsPath => text "settings_path"

def defaultSeverity : Severity := .warning

structure Judgement where
  surface : Surface
  title : Text
  message : Text
  severity : Severity := defaultSeverity
  details : Details

/-- The fields of a JSON object. -/
abbrev Payload := List (Text × Json)

/-- How the interpreter and the estate's library word a value. -/
structure Wording where
  str : Json → Text
  truncateAtWord : Text → Nat → Text
  /-- `f"{value:.<places>f}"`. -/
  fixed : Nat → PyFloat → Text
  /-- `f"{value:g}"`. -/
  general : PyFloat → Text
  /-- `f"{value:,}"`. -/
  grouped : Int → Text
  database : CharDatabase
  /-- `str.isdigit` on one code point. -/
  isDigit : CodePoint → Bool
  /-- `datetime.fromisoformat`: of a naive instant, or of what it cannot read, none. -/
  instant : Text → Option Int

/-- A wording for evaluation.  The superscripts are digits that are not decimal. -/
def bareWording : Wording where
  str := fun value => value.text?.getD []
  truncateAtWord := fun value count => value.take count
  fixed := fun _ _ => []
  general := fun _ => []
  grouped := intText
  database := .ascii
  isDigit := fun c => (48 ≤ c.val && c.val ≤ 57) || c = 0xB2 || c = 0xB3 || c = 0xB9
  instant := fun _ => none

def detailsOf (entries : List (String × Json)) : Details :=
  Dict.ofEntries (entries.map fun entry => (text entry.1, entry.2))

def payloadField (payload : Payload) (key : String) : Json := Json.field (text key) payload

/-- `payload.get(key) or []`, in a loop that keeps the objects in which `name` says something. -/
def namedEntries (payload : Payload) (key name : String) : Option (List Json) :=
  (((payloadField payload key).orElse (.arr [])).iterate).map fun entries =>
    entries.filter fun entry => ((entry.get name).map Json.truthy).getD false

/-- `float // 60`, as an `int`. -/
def wholeMinutes : Json → Option Int
  | .bool value => some ((if value then 1 else 0) / 60)
  | .int value => some (value / 60)
  | .float (.finite value) => some (truncate (roundToDouble ((value / 60).floor : Int)))
  | _ => none

/-- `value / 3600.0`. -/
def overHour : PyFloat → PyFloat
  | .finite value => PyFloat.round (value / 3600)
  | other => other

section

variable (wording : Wording)

/-- `_hours`. -/
def hoursText (seconds : Json) : Option Text :=
  match seconds with
  | .null => some (text "an unknown time")
  | seconds => do
    let hours := overHour (← seconds.toFloat?)
    if hours.less (.finite 1) then return intText (← wholeMinutes seconds) ++ text " minutes"
    else return wording.fixed 1 hours ++ text " hours"

/-- `value is not None and value > bound`. -/
def tooOld (age : Json) (bound : PyFloat) : Option Bool :=
  match age with
  | .null => some false
  | age => age.above bound

/-! ## The scan -/

def scanStale (payload : Payload) (last age : Json) (maxAgeHours : PyFloat) :
    Option (List Judgement) := do
  if ← tooOld age (PyFloat.mul 3600 maxAgeHours) then
    return [{
      surface := .projectsInvariants
      title := text "Estate scan stale"
      message := text "The last project scan started " ++ (← hoursText wording age) ++
        text " ago (threshold " ++ wording.general maxAgeHours ++ text "h, run type " ++
        wording.str (← last.getD "run_type" (.str (text "unknown"))) ++
        text "). Every project surface is serving snapshots from that scan."
      details := detailsOf [("age_seconds", age), ("max_age_hours", .float maxAgeHours),
        ("run_type", ← last.get "run_type"), ("started_at", ← last.get "started_at"),
        ("scans_total", payloadField payload "scans_total")] }]
  else return []

def scanFailed (last : Json) : Option (List Judgement) := do
  let error ← last.get "error"
  if error.truthy then
    return [{
      surface := .projectsInvariants
      title := text "Estate scan failed"
      message := text "The last project scan recorded: " ++ wording.str error
      details := detailsOf [("error", error), ("started_at", ← last.get "started_at")] }]
  else return []

def scanUnfinished (last age : Json) : Option (List Judgement) := do
  match ← last.get "finished_at" with
  | .null =>
    return [{
      surface := .projectsInvariants
      title := text "Estate scan did not finish"
      message := text "The last project scan started " ++ (← hoursText wording age) ++
        text " ago and recorded no finish. The process died mid-scan, or is still running."
      details := detailsOf [("started_at", ← last.get "started_at"), ("age_seconds", age)] }]
  | _ => return []

/-- The two counts of the scan that are faults when they are not zero. -/
def scanCounted (last : Json) (key title before after : String) : Option (List Judgement) := do
  let count := (← last.get key).orElse (.int 0)
  if count.truthy then
    return [{
      surface := .projectsInvariants
      title := text "Estate scan " ++ text title
      message := text before ++ wording.str count ++ text after
      details := detailsOf [(key, count), ("projects_scanned", ← last.get "projects_scanned")] }]
  else return []

def scanParseFailures (last : Json) : Option (List Judgement) :=
  scanCounted wording last "parse_failures" "parse failures" ""
    (" repositories' roadmap documents did not parse in the last scan. Those projects are scored and " ++
      "published without the findings the documents carry.")

def scanReposSkipped (last : Json) : Option (List Judgement) :=
  scanCounted wording last "repos_skipped" "skipped repositories" ""
    (" repositories threw during analysis and were skipped. A skipped repository writes no snapshot, so it " ++
      "disappears from every project surface without being reported as gone.")

def scanSources (last : Json) : Option (List Judgement) := do
  let sources := (← last.get "sources_unreachable").orElse (.arr [])
  if sources.truthy then
    let listed ← sources.iterate
    let one := listed.length = 1
    return [{
      surface := .projectsInvariants
      title := text "Estate scan could not reach sources"
      message := intText listed.length ++ text " data source" ++ text (if one then "" else "s") ++
        text " " ++ text (if one then "was" else "were") ++
        text " unreachable during the last scan, so it ran on degraded input. See details.sources."
      details := detailsOf [("sources", .arr listed), ("count", .int listed.length)] }]
  else return []

def scanUnwritten (last : Json) : Option (List Judgement) := do
  match ← last.get "estate_written" with
  | .bool false =>
    if (← last.get "error").truthy then return []
    else return [{
      surface := .projectsInvariants
      title := text "Estate scan did not write estate.json"
      message :=
        text ("The last project scan completed without rewriting estate.json, the scanner's output " ++
        "contract. Anything reading that file is on the previous scan's data.")
      details := detailsOf [("started_at", ← last.get "started_at")] }]
  | _ => return []

def scanNeverRan (payload : Payload) : Judgement where
  surface := .projectsInvariants
  title := text "Estate scan never ran"
  message :=
    text ("The estate's project scanner has no run on record. Every project surface — the board, " ++
    "/next, the briefing's project sections — is served from its snapshots. Check estate-manager-scan.timer.")
  details := detailsOf [("scans_total", (Json.field? (text "scans_total") payload).getD (.int 0))]

def judgeProjectsInvariants (payload : Payload) (maxAgeHours : PyFloat) : Option (List Judgement) := do
  let last := payloadField payload "last_scan"
  if !last.truthy then return [scanNeverRan payload]
  else
    let age ← last.get "age_seconds"
    let stale ← scanStale wording payload last age maxAgeHours
    let failed ← scanFailed wording last
    let unfinished ← scanUnfinished wording last age
    let parseFailures ← scanParseFailures wording last
    let skipped ← scanReposSkipped wording last
    let sources ← scanSources last
    let unwritten ← scanUnwritten last
    return stale ++ failed ++ unfinished ++ parseFailures ++ skipped ++ sources ++ unwritten

/-! ## Attention -/

def healthRollupTitle : Text := text "Estate project health breaches"

def nudgeRollupTitle : Text := text "Estate project next actions idle"

def manifestRollupTitle : Text := text "Estate project manifests refused"

def nextActionChars : Nat := 120

def manifestReasonChars : Nat := 300

def sortedTexts (names : List Text) : Json :=
  .arr ((names.insertionSort fun left right => left ≤ right).map .str)

/-- A dictionary from the subjects to one of their fields. -/
def perSubject (entries : List Json) (name key : String) : Option Json := do
  let pairs ← entries.mapM fun entry => do
    return (wording.str (← entry.get name), ← entry.get key)
  return .obj (Dict.ofEntries pairs).entries

def subjects (entries : List Json) (name : String) : Option (List Text) :=
  entries.mapM fun entry => (entry.get name).map wording.str

def healthRow (entry : Json) : Option Judgement := do
  let name := wording.str (← entry.get "project")
  let score ← entry.get "score"
  let threshold ← entry.get "threshold"
  return {
    surface := .projectsAttention
    title := text "Project " ++ name ++ text " health breach"
    message := name ++ text " scores " ++ wording.str score ++ text " against a threshold of " ++
      wording.str threshold ++ text " (status " ++
      wording.str (← entry.getD "status" (.str (text "unknown"))) ++
      text "). See the estate's project detail for the deductions."
    details :=
      detailsOf [("project", ← entry.get "project"), ("score", score), ("threshold", threshold),
        ("status", ← entry.get "status")] }

def healthRollup (health : List Json) (maxRows : Int) : Option Judgement := do
  return {
    surface := .projectsAttention
    title := healthRollupTitle
    message := intText health.length ++
      text " projects score below their attention threshold. That many at once is the estate's " ++
      text "scoring or its thresholds rather than that many repositories — check " ++
      text ":8400/api/projects/attention against alert_threshold in the .project.yaml manifests. " ++
      text "See details.projects."
    details := detailsOf [("projects", sortedTexts (← subjects wording health "project")),
      ("breach_count", .int health.length), ("max_rows", .int maxRows),
      ("scores", ← perSubject wording health "project" "score")] }

/-- `_nudge_severity`: the producer's rung, or the default if it is not one of the three. -/
def nudgeSeverity (nudge : Json) : Option Severity := do
  let severity ← nudge.get "severity"
  if !severity.isHashable then none
  else return (([.info, .warning, .critical] : List Severity).find? fun rung =>
    severity.text? = some rung.name).getD defaultSeverity

def nudgeRow (nudge : Json) : Option Judgement := do
  let name := wording.str (← nudge.get "project_name")
  let days ← nudge.get "days"
  let threshold ← nudge.get "threshold"
  let atLeast := if (← nudge.get "at_window_edge").truthy then text "at least " else []
  let plural := if Json.equal days (.int 1) then text "day" else text "days"
  let action :=
    wording.truncateAtWord (wording.str ((← nudge.get "next_action").orElse (.str [])))
      nextActionChars
  return {
    surface := .projectsAttention
    title := text "Project " ++ name ++ text " next action idle"
    message := name ++ text "'s next action has stood unchanged for " ++ atLeast ++ wording.str days ++
      text " " ++ plural ++ text " (nudges after " ++ wording.str threshold ++ text "): " ++ action
    severity := ← nudgeSeverity nudge
    details := detailsOf [("project", ← nudge.get "project_name"), ("days_unchanged", days),
      ("threshold_days", threshold), ("next_action", ← nudge.get "next_action"),
      ("next_action_source", ← nudge.get "next_action_source"), ("since", ← nudge.get "since"),
      ("unchanged_scans", ← nudge.get "scans"), ("at_window_edge", ← nudge.get "at_window_edge"),
      ("severity_source", .str (text "estate"))] }

/-- `max(..., key=SEVERITY_ORDER)`, whose default is for none at all. -/
def loudest : List Severity → Severity
  | [] => defaultSeverity
  | first :: rest => rest.foldl (fun loud rung => if rung.order > loud.order then rung else loud) first

/-- `_nudge_rollup`: at the loudest rung it swallows. -/
def nudgeRollup (nudges : List Json) (maxRows : Int) : Option Judgement := do
  return {
    surface := .projectsAttention
    title := nudgeRollupTitle
    message := intText nudges.length ++
      text " projects have a stated next action that has stood past its nudge threshold. That many " ++
      text "at once is the estate's streak query or its idle_nudges settings rather than that many " ++
      text "abandoned commitments. See details.projects."
    severity := loudest (← nudges.mapM nudgeSeverity)
    details := detailsOf [("projects", sortedTexts (← subjects wording nudges "project_name")),
      ("nudge_count", .int nudges.length), ("max_rows", .int maxRows),
      ("days_unchanged", ← perSubject wording nudges "project_name" "days"),
      ("severity_source", .str (text "estate"))] }

/-- The refusal's reason on one line, closed with a full stop. -/
def manifestReason (reason : Text) : Text :=
  let flat := wording.truncateAtWord reason.squeezed manifestReasonChars
  if flat ≠ [] ∧ !((text ".").isSuffixOf flat || (text "…").isSuffixOf flat) then flat ++ text "."
  else flat

/-- `_manifest_row`: titled by the tree, never by the reason. -/
def manifestRow (entry : Json) : Option Judgement := do
  let tree := wording.str (← entry.get "tree")
  let cause := (← entry.get "cause").orElse (.str (text "unknown"))
  let reason := wording.str ((← entry.get "reason").orElse (.str []))
  return {
    surface := .projectsAttention
    title := text "Project manifest " ++ tree ++ text " refused"
    message :=
      tree ++ text "/.project.yaml was refused by the estate registry (" ++ wording.str cause ++
      text "): " ++ manifestReason wording reason ++
      text " The repository is left out of the estate until the manifest loads; fix it in that " ++
      text "repository."
    details := detailsOf [("tree", .str tree), ("manifest", .str (tree ++ text "/.project.yaml")),
      ("cause", ← entry.get "cause"), ("reason", ← entry.get "reason")] }

def manifestRollup (refused : List Json) (maxRows : Int) : Option Judgement := do
  return {
    surface := .projectsAttention
    title := manifestRollupTitle
    message := intText refused.length ++
      text " project manifests are refused at once. That many is likelier one change than that many " ++
      text "typos — a key or value the running estate-lib does not know yet, or a shared template — " ++
      text "so compare the causes in details.causes before editing any of them."
    details := detailsOf [("trees", sortedTexts (← subjects wording refused "tree")),
      ("refused_count", .int refused.length), ("max_rows", .int maxRows),
      ("causes", ← perSubject wording refused "tree" "cause")] }

/-- A family collapses above `max_rows`, whatever the others do. -/
def rowsOrRollup (entries : List Json) (maxRows : Int) (row : Json → Option Judgement)
    (rollup : List Json → Int → Option Judgement) : Option (List Judgement) :=
  if entries.length > maxRows then (rollup entries maxRows).map fun judgement => [judgement]
  else entries.mapM row

def judgeAttention (payload : Payload) (maxRows : Int) : Option (List Judgement) := do
  let health ← namedEntries payload "health" "project"
  let nudges ← namedEntries payload "nudges" "project_name"
  let healthRows ← rowsOrRollup health maxRows (healthRow wording) (healthRollup wording)
  let nudgeRows ← rowsOrRollup nudges maxRows (nudgeRow wording) (nudgeRollup wording)
  let refused ← namedEntries payload "refused_manifests" "tree"
  let manifestRows ← rowsOrRollup refused maxRows (manifestRow wording) (manifestRollup wording)
  return healthRows ++ nudgeRows ++ manifestRows

/-! ## The audit -/

def checkErrorChars : Nat := 300

def erroredReasonsListed : Nat := 2

def auditStale (last : Json) (maxAgeHours : PyFloat) : Option (List Judgement) := do
  let age ← last.get "age_seconds"
  if ← tooOld age (PyFloat.mul 3600 maxAgeHours) then
    return [{
      surface := .auditInvariants
      title := text "Estate audit stale"
      message := text "The last conformance audit started " ++ (← hoursText wording age) ++
        text " ago (threshold " ++ wording.general maxAgeHours ++
        text "h). Port-registry drift, closed seams and pointer rot are unobserved until it runs."
      details := detailsOf [("age_seconds", age), ("max_age_hours", .float maxAgeHours),
        ("run_type", ← last.get "run_type"), ("verdict", ← last.get "verdict"),
        ("findings_total", ← last.get "findings_total")] }]
  else return []

/-- What each errored check says of itself. -/
def checkReasons (last : Json) : Option (List (Text × Text)) := do
  let checks ← ((← last.get "checks").orElse (.obj [])).items
  return (checks.insertionSort fun left right => left.1 ≤ right.1).filterMap fun check =>
    ((check.2.get "error").filter Json.truthy).map fun error => (check.1, wording.str error)

def namedReasons (reasons : List (Text × Text)) : Text :=
  if reasons ≠ [] ∧ reasons.length ≤ erroredReasonsListed then
    ((reasons.map fun reason => reason.1 ++ text " reported: " ++
      wording.truncateAtWord reason.2 checkErrorChars ++ text ".").intersperse (text " ")).flatten
  else
    text "(" ++ (if reasons = [] then text "unnamed"
      else ((reasons.map Prod.fst).intersperse (text ", ")).flatten) ++
      text "). The reasons are the producer's own and are in details.check_errors."

def auditErrored (last : Json) : Option (List Judgement) := do
  let errored := (← last.get "checks_errored").orElse (.int 0)
  if errored.truthy then
    let reasons ← checkReasons wording last
    return [{
      surface := .auditInvariants
      title := text "Estate audit checks errored"
      message := wording.str errored ++ text " of " ++
        wording.str (← last.getD "checks_run" (.str (text "?"))) ++
        text " audit checks errored. A check that errored filed no findings because it did not " ++
        text "complete, so a clean-looking dimension there is unjudged rather than clear. " ++
        namedReasons wording reasons
      details := detailsOf [("checks_errored", errored), ("checks_run", ← last.get "checks_run"),
        ("errored_checks", .arr (reasons.map fun reason => .str reason.1)),
        ("check_errors", .obj (reasons.map fun reason => (reason.1, .str reason.2)))] }]
  else return []

def auditPublishFailed (last : Json) : Option (List Judgement) := do
  let error ← last.get "publish_error"
  if error.truthy then
    return [{
      surface := .auditInvariants
      title := text "Estate audit publish failed"
      message := text "The audit ran but could not publish its findings to estate/audit/…: " ++
        wording.str error ++ text ". The findings are still served at :8400/api/audit/findings."
      details := detailsOf [("publish_error", error)] }]
  else return []

def auditFailed (last : Json) : Option (List Judgement) := do
  let error ← last.get "error"
  if error.truthy then
    return [{
      surface := .auditInvariants
      title := text "Estate audit failed"
      message := text "The last conformance audit recorded: " ++ wording.str error
      details := detailsOf [("error", error)] }]
  else return []

def auditNeverRan (payload : Payload) : Judgement where
  surface := .auditInvariants
  title := text "Estate audit never ran"
  message :=
    text "The estate's conformance audit has no run on record. Check estate-manager-audit.timer."
  details := detailsOf [("audits_total", (Json.field? (text "audits_total") payload).getD (.int 0))]

/-- `judge_audit_invariants`: never its findings. -/
def judgeAuditInvariants (payload : Payload) (maxAgeHours : PyFloat) : Option (List Judgement) := do
  let last := payloadField payload "last_audit"
  if !last.truthy then return [auditNeverRan payload]
  else
    let stale ← auditStale wording last maxAgeHours
    let errored ← auditErrored wording last
    let unpublished ← auditPublishFailed wording last
    let failed ← auditFailed wording last
    return stale ++ errored ++ unpublished ++ failed

end

end SysadminAssistant.Estate
