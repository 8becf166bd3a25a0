import SysadminAssistant.Monitor.LogActions
import SysadminAssistant.Monitor.LogTrends

namespace SysadminAssistant.Monitor.Advice

open Python Library

/-! Ranked advice off a log trend (`recommend` of `sysadmin/monitor/log_actions.py`). -/

/-- In the order of their ranks. -/
inductive RecommendationKind where
  | new | surge | noise
deriving DecidableEq

def RecommendationKind.rank : RecommendationKind → Nat
  | .new => 0
  | .surge => 1
  | .noise => 2

inductive AdviceSeverity where
  | risk | advice
deriving DecidableEq

structure IncidentMember where
  source : Text
  signature : Text
  alertTitle : Text
  occurrences : Nat

structure LogRecommendation where
  kind : RecommendationKind
  severity : AdviceSeverity
  title : Text
  detail : Text
  action : Text
  source : Text
  signature : Text
  alertTitle : Text
  occurrences : Nat
  snippet : Option Text
  members : List IncidentMember

def noiseMinOccurrences : Nat := 100

def incidentWindowSeconds : PyFloat := .finite 5

def signatureDetailChars : Nat := 120

def sampleDetailChars : Nat := 200

/-- How times, numbers and literals are written. -/
structure Wording where
  tools : TitleTools
  day : Int → Text
  minute : Int → Text
  second : Int → Text
  tenths : ℚ → Text
  thousandths : ℚ → Text
  repr : Text → Text

instance : Correlatable SignatureTrend where
  source := SignatureTrend.source
  signature := SignatureTrend.signature
  firstSeen := SignatureTrend.firstSeen

abbrev Scopes := Dict Text Bool

def journalCommand (source : Text) (since : Int) (scopes : Option Scopes)
    (others : List Text) : Text :=
  let stamp := text "@" ++ intText (truncate (totalSeconds since))
  if source = text "kernel" then text "journalctl -k --since '" ++ stamp ++ text "'"
  else
    let scope := if ((scopes.getD .empty).get? source).getD false then text "--user " else []
    let units := (text " ").intercalate ((source :: others).map fun unit => text "-u " ++ unit)
    text "journalctl " ++ scope ++ units ++ text " --since '" ++ stamp ++ text "'"

section

variable (wording : Wording) (scopes : Option Scopes)

def cappedSignature (signature : Text) : Text :=
  let cut := wording.tools.truncateAtWord signature signatureDetailChars
  if cut = signature then cut
  else cut ++ text " [" ++ wording.tools.signatureDigest signature ++ text "]"

def quotedSignature (signature : Text) : Text :=
  text " — \"" ++ cappedSignature wording signature ++ text "\""

def latestLine (trend : SignatureTrend) : Text :=
  text "Latest line: " ++ wording.tools.truncateAtWord trend.sample sampleDetailChars

def newRecommendation (trend : SignatureTrend) : LogRecommendation where
  kind := .new
  severity := .risk
  title := text "New fault from " ++ trend.source ++ quotedSignature wording trend.signature
  detail := text "First seen " ++ wording.minute trend.firstSeen ++ text " UTC, " ++
    intText trend.current ++ text " occurrence(s) since. " ++ latestLine wording trend
  action := text "Read the source: " ++ journalCommand trend.source trend.firstSeen scopes []
  source := trend.source
  signature := trend.signature
  alertTitle := trend.alertTitle
  occurrences := trend.current
  snippet := none
  members := []

def memberOf (trend : SignatureTrend) : IncidentMember where
  source := trend.source
  signature := trend.signature
  alertTitle := trend.alertTitle
  occurrences := trend.current

/-- The distinct sources of a group, in its order. -/
def groupUnits (group : List SignatureTrend) : List Text :=
  group.foldl (fun units trend => if trend.source ∈ units then units else units ++ [trend.source]) []

def incidentTitle (anchor : SignatureTrend) : List Text → Text
  | [] => text "New incident on " ++ anchor.source
  | [other] => text "New incident: " ++ anchor.source ++ text " then " ++ other
  | others => text "New incident: " ++ anchor.source ++ text " then " ++ intText others.length ++
      text " related units"

/-- `_incident_recommendation`, for the group of an anchor. -/
def incidentRecommendation (anchor : SignatureTrend) (claimed : List SignatureTrend) :
    LogRecommendation :=
  let group := anchor :: claimed
  let units := groupUnits group
  let others := units.drop 1
  let last := (group.getLast?.getD anchor).firstSeen
  let occurrences := (group.map SignatureTrend.current).sum
  let summary := intText group.length ++ text " new signature(s) across " ++ intText units.length ++
    text " unit(s) within " ++ wording.thousandths (totalSeconds (last - anchor.firstSeen)) ++
      text "s of " ++
    wording.second anchor.firstSeen ++ text " UTC, " ++ intText occurrences ++
    text (" occurrence(s) in total. Grouped because they share a unit or a declared systemd " ++
      "dependency; ") ++ anchor.source ++ text " failed first."
  let lines := group.map fun trend =>
    text "  - " ++ trend.source ++ text ": " ++ cappedSignature wording trend.signature
  { kind := .new
    severity := .risk
    title := incidentTitle anchor others ++ quotedSignature wording anchor.signature
    detail := (text "\n").intercalate (summary :: lines)
    action :=
      text "Read the whole incident: " ++ journalCommand anchor.source anchor.firstSeen
        scopes others
    source := anchor.source
    signature := anchor.signature
    alertTitle := anchor.alertTitle
    occurrences
    snippet := none
    members := group.map memberOf }

def surgeRecommendation (previousStart : Int) (trend : SignatureTrend) : LogRecommendation where
  kind := .surge
  severity := .risk
  title := trend.source ++ text " fault up " ++ (match trend.ratio with
      | some ratio => wording.tenths ratio ++ text "x"
      | none => text "sharply") ++ quotedSignature wording trend.signature
  detail := intText trend.previous ++ text " occurrence(s) last window, " ++ intText trend.current ++
    text " this one. " ++ latestLine wording trend
  action := text "Compare the two windows: " ++ journalCommand trend.source previousStart scopes []
  source := trend.source
  signature := trend.signature
  alertTitle := trend.alertTitle
  occurrences := trend.current
  snippet := none
  members := []

def noiseSnippet (trend : SignatureTrend) : Text :=
  text "agents:\n  log_aggregator:\n    known_noise:\n      - source: " ++ trend.source ++
    text "\n        signature: " ++ wording.repr trend.signature ++
    text "\n        reason: \"<why this is safe to quieten>\"\n"

def noiseRecommendation (trend : SignatureTrend) : LogRecommendation where
  kind := .noise
  severity := .advice
  title := trend.source ++ text ": " ++ intText trend.current ++ text " occurrences" ++
    quotedSignature wording trend.signature
  detail := intText trend.current ++ text " this window against " ++ intText trend.previous ++
    text " last, " ++
    intText trend.total ++ text " in all retained history since " ++ wording.day trend.firstSeen ++
    text (". Fix it, or declare it noise and it drops to info — it keeps being counted either way.")
  action := text ("Add the block below to config.yaml, then reload without a restart: " ++
    "POST /api/sysadmin/reload")
  source := trend.source
  signature := trend.signature
  alertTitle := trend.alertTitle
  occurrences := trend.current
  snippet := some (noiseSnippet wording trend)
  members := []

/-- The row of a group; groups have an anchor. -/
def groupRow : List SignatureTrend → Option LogRecommendation
  | [] => none
  | [trend] => some (newRecommendation wording scopes trend)
  | anchor :: claimed => some (incidentRecommendation wording scopes anchor claimed)

end

def isNoiseCandidate (trend : SignatureTrend) (confidence : Confidence) : Bool :=
  if confidence = .low then false
  else if trend.current < noiseMinOccurrences then false
  else trend.change ∈ [ChangeKind.steady, .rising, .falling, .returned]

def groupIncidents (trends : List SignatureTrend) (related : Option Relations) :
    List (List SignatureTrend) :=
  correlate related incidentWindowSeconds (trends.filter fun trend => trend.change = .new)

def LogRecommendation.order (row : LogRecommendation) : Nat ×ₗ Int ×ₗ Text :=
  toLex (row.kind.rank, toLex (-(row.occurrences : Int), row.signature))

section

variable (wording : Wording) (report : LogTrendReport) (declaredNoise : Option (List (Text × Text)))
  (scopes : Option Scopes) (related : Option Relations)

def undeclared : List SignatureTrend :=
  report.signatures.filter fun trend => (trend.source, trend.signature) ∉ declaredNoise.getD []

/-- The row of a trend that is not a first sighting. -/
def standingRow (trend : SignatureTrend) : Option LogRecommendation :=
  if trend.change = .new then none
  else if trend.change = .surged
    then some (surgeRecommendation wording scopes report.previousStart trend)
  else if isNoiseCandidate trend report.confidence then some (noiseRecommendation wording trend)
  else none

def recommend : List LogRecommendation :=
  let trends := undeclared report declaredNoise
  ((groupIncidents trends related).filterMap (groupRow wording scopes) ++
    trends.filterMap (standingRow wording report scopes)).insertionSort fun left right =>
      left.order ≤ right.order

end

end SysadminAssistant.Monitor.Advice
