import SysadminAssistant.Estate.Judgements
import SysadminAssistant.Python.DecimalText
import SysadminAssistant.Units.SweptPorts

namespace SysadminAssistant.Estate

open Python SysadminAssistant.Core SysadminAssistant.Units

/-! The audit's findings that are judged here: ports, and the hook wiring; and the two
surfaces about `settings.json` (`sysadmin/estate/judgements.py`). -/

def portsCheck : Text := text "ports"

def wiringCheck : Text := text "wiring"

/-- `JUDGED_AUDIT_CHECKS`: the producer's severity each check is judged at. -/
def judgedAuditSeverity (check : Text) : Text :=
  if check = portsCheck then text "breach" else text "warn"

def transientHolderSeverity : Severity := .info

def holderBlob (holder : PortHolder) : Json :=
  .obj [(text "unit", .str holder.unit), (text "scope", .str holder.scope),
    (text "transient", .bool holder.transient), (text "observed_at", .nullable holder.observedAt)]

def readingBlob (attribution : PortAttribution) (port : Int) : Json :=
  .obj [(text "reading", .str (attribution.reading port).name),
    (text "observed_at", .nullable attribution.observedAt)]

def breachSeverity (holder : Option PortHolder) : Severity :=
  if holder.any PortHolder.transient then transientHolderSeverity else defaultSeverity

section

variable (wording : Wording)

/-- The findings of one check that are judged here. -/
def judgedFindings (payload : Payload) (check : Text) : List Json :=
  match payloadField payload "findings" with
  | .arr findings => findings.filter fun finding =>
    ((finding.get "check").bind Json.text?) = some check &&
      ((finding.get "severity").bind Json.text?) = some (judgedAuditSeverity check)
  | _ => []

/-- `_port_of`: `some none` is a port that cannot be trusted. -/
def portOf (finding : Json) : Option (Option Int) :=
  match finding.get "detail" with
  | some (.obj detail) =>
    match Json.field (text "port") detail with
    | .int port => some (some port)
    | .str digits =>
      if digits ≠ [] ∧ digits.all wording.isDigit = true then
        match wording.database.intOfText digits with
        | .ok port => some (some port)
        | .error _ => none
      else some none
    | _ => some none
  | _ => some none

/-- `text.rstrip("0").rstrip(".")`. -/
def trimFraction (value : Text) : Text :=
  ((value.reverse.dropWhile fun c => c = codePoint '0').dropWhile fun c => c = codePoint '.').reverse

def withStanding (summary : Text) (finding : Json) : Option Text := do
  match ← finding.get "standing_days" with
  | .int standing =>
    let days := trimFraction (wording.fixed 1 (← (Json.int standing).toFloat?))
    close days
  | .float standing => close (trimFraction (wording.fixed 1 standing))
  | _ => return summary
where
  close (days : Text) : Option Text := do
    if days = text "0" ∨ days = [] then return summary
    else
      let edge := if (← finding.get "age_truncated").truthy then text " at least" else []
      return summary ++ text ". Standing" ++ edge ++ text " " ++ days ++ text " days."

/-- What every row about a finding carries as evidence. -/
def evidence (finding : Json) : Option (List (String × Json)) := do
  return [("code", ← finding.get "code"), ("fingerprint", ← finding.get "fingerprint"),
    ("standing_days", ← finding.get "standing_days"), ("runs_observed", ← finding.get "runs_observed"),
    ("age_truncated", ← finding.get "age_truncated"),
    ("first_seen_at", ← finding.get "first_seen_at"), ("audit_summary", ← finding.get "summary")]

def breachTitle (port : Int) : Text := text "Estate port " ++ intText port ++ text " registry breach"

def breachRow (attribution : PortAttribution) (breach : Int × Json) : Option Judgement := do
  let (port, finding) := breach
  let summary := (← finding.get "summary").orElse
    (.str (text "port " ++ intText port ++ text " is listening unclaimed"))
  return {
    surface := .auditFindings
    title := breachTitle port
    message := ← withStanding wording (wording.str summary) finding
    severity := breachSeverity (attribution.of port)
    details := detailsOf ([("port", .int port)] ++ (← evidence finding) ++
      [("holder", (attribution.of port).elim .null holderBlob),
        ("attribution", readingBlob attribution port)]) }

def breachRollup (attribution : PortAttribution) (ports : List Int) (maxRows : Int) : Judgement where
  surface := .auditFindings
  title := text "Estate port registry breach"
  message :=
    intText ports.length ++
      text (" ports are listening with no row in the estate's port registry. " ++
      "That many at once is the registry itself being wrong — moved, truncated or re-formatted — rather than " ++
      "that many services. Check estate-manager/docs/guides/monitorable-project.md against the audit at " ++
        ":8400/api/audit/findings.")
  severity :=
    loudest
      ((Dict.ofEntries (ports.map fun port => (port, breachSeverity (attribution.of port)))).values)
  details := detailsOf [("ports", .arr (ports.map .int)), ("breach_count", .int ports.length),
    ("max_rows", .int maxRows),
    ("holders", .obj (Dict.ofEntries (ports.filterMap fun port =>
      (attribution.of port).map fun holder => (intText port, holderBlob holder))).entries),
    ("attribution", .obj (Dict.ofEntries (ports.map fun port =>
      (intText port, readingBlob attribution port))).entries)]

/-- `judge_audit_findings`: one row for each breach, until the count says that the registry
itself is the fault. -/
def judgeAuditFindings (payload : Payload) (maxRows : Int) (attribution : PortAttribution) :
    Option (List Judgement) := do
  let ported ← (judgedFindings payload portsCheck).mapM fun finding => do
    return (← portOf wording finding).map fun port => (port, finding)
  let breaches := (ported.filterMap id).insertionSort fun left right => left.1 ≤ right.1
  if breaches.length > maxRows then
    return if breaches = [] then [] else [breachRollup attribution (breaches.map Prod.fst) maxRows]
  else breaches.mapM (breachRow wording attribution)

def wiringEvent (finding : Json) : Option Text :=
  match finding.get "detail" with
  | some (.obj detail) => ((Json.field (text "event") detail).text?.map Text.strip).filter (· ≠ [])
  | _ => none

def wiringTitle (subject event : Text) : Text :=
  text "Estate hook " ++ subject ++ text " not wired for " ++ event

def wiringRow (finding : Json) : Option (List Judgement) := do
  match (((← finding.get "subject").text?.map Text.strip).filter (· ≠ [])), wiringEvent finding with
  | some subject, some event =>
    let summary :=
      (← finding.get "summary").orElse (.str (subject ++ text " declares it belongs behind " ++
      event ++ text " and nothing in ~/.claude/settings.json resolves to it"))
    return [{
      surface := .auditFindings
      title := wiringTitle subject event
      message := ← withStanding wording (wording.str summary) finding
      details :=
        detailsOf ([("subject", .str subject), ("event", .str event)] ++ (← evidence finding) ++
          [("audit_detail", ← finding.get "detail")]) }]
  | _, _ => return []

def judgeAuditWiring (payload : Payload) : Option (List Judgement) :=
  ((judgedFindings payload wiringCheck).mapM (wiringRow wording)).map List.flatten

/-! ## `settings.json` -/

def wiringFileTitle : Text := text "Estate hook wiring is broken"

def settingsPathTitle : Text :=
  text "Estate wiring check and this monitor read different settings files"

/-- A string that is not blank, stripped. -/
def saidText (value : Json) : Option Text := (value.text?.map Text.strip).filter (· ≠ [])

/-- `judge_hook_wiring`: a fault, never an absence. -/
def judgeHookWiring (payload : Payload) : List Judgement :=
  match saidText (payloadField payload "fault") with
  | none => []
  | some fault =>
    let path :=
      wording.str ((payloadField payload "path").orElse (.str (text "~/.claude/settings.json")))
    let target := match saidText (payloadField payload "resolves_to") with
      | none => []
      | some target => text " It is a symlink to " ++ target ++
          text (", so the edit that fixes it lands in a " ++ "tracked repository.")
    [{
      surface := .hookWiring
      title := wiringFileTitle
      message := path ++ text " does not present a JSON object (" ++ fault ++
        text ("), so every hook on this " ++
        "box is down — the blocking Stop hook included — and none of them can report it, because they all " ++
        "fail open.") ++ target
      details := Dict.ofEntries payload }]

def judgeSettingsPath (payload : Payload) : List Judgement :=
  match payloadField payload "same_file" with
  | .bool false => [{
      surface := .settingsPath
      title := settingsPathTitle
      message := text "estate-manager's wiring check read " ++
        wording.str (payloadField payload "theirs_target") ++
        text " while this monitor read " ++ wording.str (payloadField payload "ours_target") ++
          text (", so their " ++
          "two clean results are about different files and one of them is auditing a file the harness may not " ++
          "load. This repository's path is the constant hook_wiring.SETTINGS_PATH; the estate's is " ++
          "WiringConfig.settings_file in their audit config — file it at estate-manager rather than editing " ++
          "either blind.")
      details := Dict.ofEntries payload }]
  | _ => []

end

end SysadminAssistant.Estate
