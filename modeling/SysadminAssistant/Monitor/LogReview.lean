import SysadminAssistant.Monitor.LogAdvice
import SysadminAssistant.Python.Figures

namespace SysadminAssistant.Monitor.LogReview

open Python Library Advice

/-! The weekly log review: what is gathered, and the prompt (`sysadmin/monitor/log_review.py`). -/

def topActions : Nat := 5

def topSources : Nat := 5

def stormOccurrences : Nat := 10000

/-- One of the recommendations that reach the prompt. -/
structure ActionFacts where
  kind : RecommendationKind
  severity : AdviceSeverity
  title : Text
  action : Text
  source : Text
  signature : Text
  alertTitle : Text
  occurrences : Nat
  members : List Text

def ActionFacts.memberCount (item : ActionFacts) : Nat := item.members.length

structure SourceFacts where
  source : Text
  currentErrors : Nat
  previousErrors : Nat
  errorDelta : Int
  currentWarnings : Nat
  previousWarnings : Nat
  warningDelta : Int
  newSignatures : Nat

structure ReviewData where
  periodDays : Int
  generatedAt : Int
  windowStart : Int
  confidence : Confidence
  truncated : Bool
  declaredNoise : Nat
  actionTotal : Nat
  riskCount : Nat
  top : List ActionFacts
  distinct : Nat
  groupsRead : Nat
  sources : List SourceFacts

def actionFacts (rec : LogRecommendation) : ActionFacts where
  kind := rec.kind
  severity := rec.severity
  title := rec.title
  action := rec.action
  source := rec.source
  signature := rec.signature
  alertTitle := rec.alertTitle
  occurrences := rec.occurrences
  members := rec.members.map IncidentMember.signature

def sourceFacts (trend : SourceTrend) : SourceFacts where
  source := trend.source
  currentErrors := trend.currentErrors
  previousErrors := trend.previousErrors
  errorDelta := trend.currentErrors - trend.previousErrors
  currentWarnings := trend.currentWarnings
  previousWarnings := trend.previousWarnings
  warningDelta := trend.currentWarnings - trend.previousWarnings
  newSignatures := trend.newSignatures

def SourceFacts.order (row : SourceFacts) : Int ×ₗ Int :=
  toLex (-|row.errorDelta|, -|row.warningDelta|)

/-- `gather_review_data`, off the trend report of the window. -/
def gatherReviewData (wording : Wording) (report : LogTrendReport)
    (declaredNoise : List (Text × Text)) (scopes : Option Scopes) (related : Option Relations) :
    Option ReviewData :=
  if report.signatures = [] then none
  else
    let recs := recommend wording report (some declaredNoise) scopes related
    some {
      periodDays := report.windowDays
      generatedAt := report.generatedAt
      windowStart := report.windowStart
      confidence := report.confidence
      truncated := report.truncated
      declaredNoise := declaredNoise.dedup.length
      actionTotal := recs.length
      riskCount := (recs.filter fun rec => rec.severity = .risk).length
      top := (recs.take topActions).map actionFacts
      distinct := report.signatures.length
      groupsRead := report.groupsRead
      sources :=
        (report.sources.map sourceFacts).insertionSort fun left right => left.order ≤ right.order }

/-- `KIND_PHRASES`. -/
def kindPhrase : RecommendationKind → Text
  | .new => text "a fault seen for the first time"
  | .surge => text "an established fault getting louder"
  | .noise => text "a long-standing fault nobody has silenced"

inductive OccurrenceBand where
  | storming | loud | repeated | handful
deriving DecidableEq

def occurrenceBand (count : Nat) : OccurrenceBand :=
  if stormOccurrences ≤ count then .storming
  else if noiseMinOccurrences ≤ count then .loud
  else if ratioMinCount ≤ count then .repeated
  else .handful

def OccurrenceBand.word : OccurrenceBand → Text
  | .storming => text "storming"
  | .loud => text "loud"
  | .repeated => text "repeated"
  | .handful => text "a handful"

def confidencePhrase : Confidence → Text
  | .low =>
    text ("Parts of this period went unread, so every count below is a floor and nothing here should be " ++
    "read as quiet.")
  | .medium => text "A small part of this period went unread, so counts are floors."
  | .high => text "The whole period was read."

def directionPhrase (direction : Direction) (confidence : Confidence) : Text :=
  match direction with
  | .up => text "got louder"
  | .steady => text "held steady"
  | .down =>
    if confidence = .high then text "got quieter"
    else text "reported less, which may be the reading rather than the fault"

def figureFree (database : CharDatabase) (value : Text) : Bool :=
  value.all fun c => !database.isDigit c

/-- `_quoted_signature`; its `quoted_signature` is the one that adds no digest. -/
def reviewedSignature (database : CharDatabase) (wording : Wording) (signature : Text) : Text :=
  if figureFree database signature then
    text " — \"" ++ wording.tools.truncateAtWord signature signatureDetailChars ++ text "\""
  else []

def reviewInstructions : Text :=
  text ("Write three brief plain-text sections: 1) What broke: which services and faults account for this week, " ++
    "judging from the OUTSTANDING FAULTS list; 2) Look at first: at most three entries taken from the OUTSTANDING " ++
    "FAULTS list only, never from VOLUME CHANGES, named by their service exactly as spelt above; 3) Watch: anything " ++
    "in VOLUME CHANGES moving the wrong way that is not yet urgent, or 'nothing' if there is none. Figures are " ++
    "reported separately, so do not state any number, count, multiple, percentage or date — describe magnitude in " ++
    "words. Hard limit 150 words. Plain prose only: no markdown, no headings, no numbered or bulleted lists.")

def riskMarker (severity : AdviceSeverity) : Text := if severity = .risk then text " [RISK]" else []

section

variable (database : CharDatabase) (wording : Wording)

def faultLine (item : ActionFacts) : Text :=
  text "- " ++ item.source ++ text ": " ++ kindPhrase item.kind ++ riskMarker item.severity ++
    text " — " ++
    (occurrenceBand item.occurrences).word ++ reviewedSignature database wording item.signature ++
    (if item.memberCount = 0 then [] else text " — one incident covering several related faults")

def movers (data : ReviewData) : List SourceFacts :=
  (data.sources.filter fun row => row.errorDelta ≠ 0).take topSources

def moverLine (confidence : Confidence) (row : SourceFacts) : Text :=
  text "- " ++ row.source ++ text ": " ++ directionPhrase (directionOf row.errorDelta) confidence

/-- The lines of the prompt that come from the data. -/
def dataLines (data : ReviewData) : List Text :=
  [text "Weekly log report for one Linux workstation.", confidencePhrase data.confidence, []] ++
    (if data.top = [] then [text "No fault met a threshold this period."]
      else text "OUTSTANDING FAULTS, most significant first:" ::
        data.top.map (faultLine database wording)) ++
    (if movers data = [] then []
      else [[], text "VOLUME CHANGES (context only, not a list of faults):"] ++
        (movers data).map (moverLine data.confidence))

def buildReviewPrompt (data : ReviewData) : Text :=
  (text "\n").intercalate (dataLines database wording data ++ [[], reviewInstructions])

end

/-! What the prompt shows. -/

/-- What is seen of an outstanding fault. -/
structure FaultView where
  source : Text
  kind : RecommendationKind
  severity : AdviceSeverity
  band : OccurrenceBand
  signature : Text
  members : List Text

def ActionFacts.view (item : ActionFacts) : FaultView where
  source := item.source
  kind := item.kind
  severity := item.severity
  band := occurrenceBand item.occurrences
  signature := item.signature
  members := item.members

def SourceFacts.view (row : SourceFacts) : Text × Direction := (row.source, directionOf row.errorDelta)

structure ReviewView where
  confidence : Confidence
  top : List FaultView
  sources : List (Text × Direction)

def ReviewData.view (data : ReviewData) : ReviewView where
  confidence := data.confidence
  top := data.top.map ActionFacts.view
  sources := data.sources.map SourceFacts.view

/-- The names in the prompt: those of services and of sources. -/
def ReviewData.names (data : ReviewData) : List Text :=
  data.top.map ActionFacts.source ++ data.sources.map SourceFacts.source

section

variable (database : CharDatabase) (wording : Wording)

theorem faultLine_of_view (first second : ActionFacts) (same : first.view = second.view) :
    faultLine database wording first = faultLine database wording second := by
  simp only [ActionFacts.view, FaultView.mk.injEq] at same
  obtain ⟨source, kind, severity, band, signature, members⟩ := same
  have count : first.memberCount = second.memberCount := congrArg List.length members
  rw [faultLine, faultLine, source, kind, severity, band, signature, count]

theorem changed_of_view (first second : SourceFacts) (same : first.view = second.view) :
    decide (first.errorDelta ≠ 0) = decide (second.errorDelta ≠ 0) := by
  have directions : directionOf first.errorDelta = directionOf second.errorDelta :=
    congrArg Prod.snd same
  have both : first.errorDelta = 0 ↔ second.errorDelta = 0 := by
    rw [← (directionOf_iff _).2.2, ← (directionOf_iff _).2.2, directions]
  simp [both]

theorem moverLine_of_view (confidence : Confidence) (first second : SourceFacts)
    (same : first.view = second.view) :
    moverLine confidence first = moverLine confidence second := by
  simp only [SourceFacts.view, Prod.mk.injEq] at same
  simp only [moverLine, same.1, same.2]

theorem movers_of_view {left right : ReviewData}
    (same : left.sources.map SourceFacts.view = right.sources.map SourceFacts.view) :
    (movers left).map SourceFacts.view = (movers right).map SourceFacts.view := by
  rw [movers, movers, List.map_take, List.map_take, filter_of_view changed_of_view same]

theorem logPrompt_of_view {left right : ReviewData} (same : left.view = right.view) :
    buildReviewPrompt database wording left = buildReviewPrompt database wording right := by
  simp only [ReviewData.view, ReviewView.mk.injEq] at same
  obtain ⟨confidence, top, sources⟩ := same
  have moved := movers_of_view sources
  have faults := map_of_view (faultLine_of_view database wording) top
  have moves := map_of_view (moverLine_of_view right.confidence) moved
  simp only [buildReviewPrompt, dataLines, confidence, faults, moves, eq_nil_of_view top,
    eq_nil_of_view moved]

theorem confidencePhrase_plain (confidence : Confidence) :
    (confidencePhrase confidence).all isPlain = true := by
  cases confidence with
  | low =>
    rw [confidencePhrase, text_append]
    exact plain_append (plain_of_spelt rfl (by decide)) (plain_of_spelt rfl (by decide))
  | medium => exact plain_of_spelt rfl (by decide)
  | high => exact plain_of_spelt rfl (by decide)

theorem directionPhrase_plain (direction : Direction) (confidence : Confidence) :
    (directionPhrase direction confidence).all isPlain = true := by
  cases direction with
  | up => exact plain_of_spelt rfl (by decide)
  | steady => exact plain_of_spelt rfl (by decide)
  | down => cases confidence <;> exact plain_of_spelt rfl (by decide)

theorem kindPhrase_plain (kind : RecommendationKind) : (kindPhrase kind).all isPlain = true := by
  cases kind <;> exact plain_of_spelt rfl (by decide)

theorem occurrenceBand_plain (band : OccurrenceBand) : band.word.all isPlain = true := by
  cases band <;> exact plain_of_spelt rfl (by decide)

theorem riskMarker_plain (severity : AdviceSeverity) : (riskMarker severity).all isPlain = true := by
  cases severity <;> decide

end

/-- `truncate_at_word` gives the text, or some of its beginning and a marker. -/
def CutsVisibly (cut : Text → Nat → Text) (marker : Text) : Prop :=
  ∀ value limit, cut value limit = value ∨
    ∃ kept, kept <+: value ∧ cut value limit = kept ++ text " " ++ marker

section

variable {database : CharDatabase} {wording : Wording} {marker : Text} {names : List Text}

theorem onlyNames_signature (noDigit : database.isDigit dash = false)
    (cuts : CutsVisibly wording.tools.truncateAtWord marker)
    (markerPlain : ∀ c ∈ marker, database.isDigit c = false) (signature : Text) :
    OnlyNames database.isDigit names (reviewedSignature database wording signature) := by
  simp only [reviewedSignature]
  split
  · rename_i free
    have digitless : ∀ c ∈ signature, database.isDigit c = false := by
      simpa [figureFree] using free
    have opened : OnlyNames database.isDigit names (text " — \"") :=
      onlyNames_plain noDigit (plain_of_spelt rfl (by decide))
    have closed : OnlyNames database.isDigit names (text "\"") :=
      onlyNames_plain noDigit (plain_of_spelt rfl (by decide))
    refine (opened.append ?_).append closed
    rcases cuts signature signatureDetailChars with whole | cut
    · rw [whole]
      exact OnlyNames.plain digitless
    · obtain ⟨kept, begins, shape⟩ := cut
      have blank : OnlyNames database.isDigit names (text " ") :=
        onlyNames_plain noDigit (plain_of_spelt rfl (by decide))
      rw [shape]
      exact ((OnlyNames.plain fun c member => digitless c (begins.subset member)).append
        blank).append (OnlyNames.plain markerPlain)
  · exact .nil

theorem onlyNames_faultLine (noDigit : database.isDigit dash = false)
    (cuts : CutsVisibly wording.tools.truncateAtWord marker)
    (markerPlain : ∀ c ∈ marker, database.isDigit c = false) {item : ActionFacts}
    (named : item.source ∈ names) :
    OnlyNames database.isDigit names (faultLine database wording item) := by
  have plain : ∀ {value : Text}, value.all isPlain = true → OnlyNames database.isDigit names value :=
    fun free => onlyNames_plain noDigit free
  have incident : OnlyNames database.isDigit names
      (if item.memberCount = 0 then []
        else text " — one incident covering several related faults") := by
    split
    · exact .nil
    · exact plain (plain_of_spelt rfl (by decide))
  exact ((((((((plain (plain_of_spelt rfl (by decide))).append (.quoted named)).append
    (plain (plain_of_spelt rfl (by decide)))).append
    (plain (kindPhrase_plain item.kind))).append (plain (riskMarker_plain item.severity))).append
    (plain (plain_of_spelt rfl (by decide)))).append (plain (occurrenceBand_plain _))).append
    (onlyNames_signature noDigit cuts markerPlain item.signature)).append incident

theorem onlyNames_moverLine (noDigit : database.isDigit dash = false) (confidence : Confidence)
    {row : SourceFacts} (named : row.source ∈ names) :
    OnlyNames database.isDigit names (moverLine confidence row) := by
  have plain : ∀ {value : Text}, value.all isPlain = true → OnlyNames database.isDigit names value :=
    fun free => onlyNames_plain noDigit free
  exact (((plain (plain_of_spelt rfl (by decide))).append (.quoted named)).append
    (plain (plain_of_spelt rfl (by decide)))).append (plain (directionPhrase_plain _ confidence))

theorem onlyNames_dataLines (noDigit : database.isDigit dash = false)
    (cuts : CutsVisibly wording.tools.truncateAtWord marker)
    (markerPlain : ∀ c ∈ marker, database.isDigit c = false) (data : ReviewData) :
    ∀ line ∈ dataLines database wording data, OnlyNames database.isDigit data.names line := by
  have plain : ∀ {value : Text}, value.all isPlain = true →
      OnlyNames database.isDigit data.names value :=
    fun free => onlyNames_plain noDigit free
  have service : ∀ item ∈ data.top, item.source ∈ data.names := fun item member =>
    List.mem_append_left _ (List.mem_map.mpr ⟨item, member, rfl⟩)
  have source : ∀ row ∈ movers data, row.source ∈ data.names := fun row member =>
    List.mem_append_right _ (List.mem_map.mpr ⟨row,
      List.mem_of_mem_filter (List.mem_of_mem_take member), rfl⟩)
  have faults : ∀ line ∈ (if data.top = [] then [text "No fault met a threshold this period."]
      else text "OUTSTANDING FAULTS, most significant first:" ::
        data.top.map (faultLine database wording)),
      OnlyNames database.isDigit data.names line := by
    split
    · exact List.forall_mem_singleton.mpr (plain (plain_of_spelt rfl (by decide)))
    · exact List.forall_mem_cons.mpr ⟨plain (plain_of_spelt rfl (by decide)),
        List.forall_mem_map.mpr fun item member =>
        onlyNames_faultLine noDigit cuts markerPlain (service item member)⟩
  have moved : ∀ line ∈ (if movers data = [] then []
      else [[], text "VOLUME CHANGES (context only, not a list of faults):"] ++
        (movers data).map (moverLine data.confidence)),
          OnlyNames database.isDigit data.names line := by
    split
    · exact List.forall_mem_nil _
    · simp only [List.forall_mem_append, List.forall_mem_cons, List.forall_mem_map,
        List.not_mem_nil, false_implies, implies_true, and_true]
      exact ⟨⟨.nil, plain (plain_of_spelt rfl (by decide))⟩, fun row member =>
        onlyNames_moverLine noDigit data.confidence (source row member)⟩
  simp only [dataLines, List.forall_mem_append, List.forall_mem_cons, List.not_mem_nil,
    false_implies, implies_true, and_true]
  exact ⟨⟨⟨plain (plain_of_spelt rfl (by decide)), plain (confidencePhrase_plain _), .nil⟩,
    faults⟩, moved⟩

theorem logPrompt_onlyNames (noDigit : database.isDigit dash = false)
    (cuts : CutsVisibly wording.tools.truncateAtWord marker)
    (markerPlain : ∀ c ∈ marker, database.isDigit c = false) (data : ReviewData) :
    ∃ half, buildReviewPrompt database wording data = half ++ reviewInstructions ∧
      OnlyNames database.isDigit data.names half :=
  onlyNames_prompt noDigit (onlyNames_dataLines noDigit cuts markerPlain data) reviewInstructions

end

end SysadminAssistant.Monitor.LogReview
