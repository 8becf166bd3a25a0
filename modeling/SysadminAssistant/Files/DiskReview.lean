import SysadminAssistant.Files.Recommendations
import SysadminAssistant.Python.Figures

namespace SysadminAssistant.Files.DiskReview

open Python Library Advice

/-! The weekly disk review: what is gathered, and the prompt (`sysadmin/files/review.py`). -/

/-- A `filesystem_audits` row, with the counts of its columns. -/
structure FilesystemAudit where
  id : Nat
  scannedAt : Int
  findings : Findings
  count : FindingsKey → Int

/-- The occupancy of the mount in a `resource_snapshots` row, where there is one. -/
structure OccupancySample where
  recordedAt : Int
  percent : Option ℚ

structure DiskFacts where
  currentPercent : Option ℚ
  baselinePercent : Option ℚ
  deltaPp : Option ℚ
  samples : Nat
  projection : Option ThresholdProjection

structure TopAction where
  kind : RecommendationKind
  title : Text
  severity : Severity
  reclaimableMb : ℚ
  action : Text

structure KindChange where
  nowMb : ℚ
  deltaMb : Option ℚ

structure ReviewData where
  periodDays : Int
  disk : DiskFacts
  top : List TopAction
  byKind : Dict RecommendationKind KindChange
  totalReclaimableMb : ℚ
  riskCount : Nat
  actionCount : Nat

/-- `disk_series_from`. -/
def diskSeries (samples : List OccupancySample) (cutoff : Int) : List (Int × ℚ) :=
  ((samples.filter fun row => cutoff ≤ row.recordedAt).filterMap fun row =>
    row.percent.map fun percent => (row.recordedAt, percent)).insertionSort fun left right =>
      left.1 ≤ right.1

/-- `_gather_disk`, with the projection chosen from those of its series. -/
def gatherDisk (series : List (Int × ℚ)) (projection : Option ThresholdProjection) : DiskFacts :=
  match series with
  | [] =>
    { currentPercent := none, baselinePercent := none, deltaPp := none, samples := 0, projection }
  | first :: rest =>
    let current := ((first :: rest).getLast?.getD first).2
    { currentPercent := some (roundPlaces current 1)
      baselinePercent := some (roundPlaces first.2 1)
      deltaPp := if rest = [] then none else some (roundPlaces (roundToDouble (current - first.2)) 1)
      samples := rest.length + 1
      projection }

def trueCounts (audit : FilesystemAudit) : FindingsKey → Option Int :=
  fun key => some (audit.count key)

def topAction (row : FileRecommendationInfo) : TopAction where
  kind := row.kind
  title := row.title
  severity := row.severity
  reclaimableMb := row.reclaimableMb
  action := row.action

/-- The newest audit. -/
def newest (audits : List FilesystemAudit) : Option FilesystemAudit :=
  (audits.insertionSort fun left right => right.scannedAt ≤ left.scannedAt).head?

/-- The oldest audit of the window, unless it is the newest of all. -/
def baselineOf (audits : List FilesystemAudit) (latest : FilesystemAudit) (cutoff : Int) :
    Option FilesystemAudit :=
  (((audits.filter fun audit => cutoff ≤ audit.scannedAt).insertionSort fun left right =>
    left.scannedAt ≤ right.scannedAt).head?).filter fun audit => audit.id ≠ latest.id

def gatherReviewData (wording : Wording) (config : Advice.FileOrganiserConfig)
    (audits : List FilesystemAudit) (samples : List OccupancySample)
    (projection : Option ThresholdProjection) (periodDays now : Int) :
    Option ReviewData :=
  let cutoff := now - periodDays * 86400 * 1000000
  (newest audits).map fun latest =>
    let recs := recommendationsForAudit wording config latest.findings projection (trueCounts latest)
    let wasByKind : Dict RecommendationKind ℚ := match baselineOf audits latest cutoff with
      | none => .empty
      | some baseline => .ofEntries ((recommendationsForAudit wording config baseline.findings none
          (trueCounts baseline)).map fun row => (row.kind, row.reclaimableMb))
    { periodDays
      disk := gatherDisk (diskSeries samples cutoff) projection
      top := (recs.take 5).map topAction
      byKind := .ofEntries (recs.map fun row => (row.kind,
        { nowMb := row.reclaimableMb
          deltaMb := (wasByKind.get? row.kind).map fun was =>
            roundPlaces (roundToDouble (row.reclaimableMb - was)) 1 }))
      totalReclaimableMb := roundPlaces (sumFloats (recs.map FileRecommendationInfo.reclaimableMb)) 1
      riskCount := (recs.filter fun row => row.severity = .risk).length
      actionCount := recs.length }

/-- `KIND_PHRASES`. -/
def kindPhrase : RecommendationKind → Text
  | .risk => text "a projected disk threshold crossing"
  | .duplicates => text "groups of duplicate files"
  | .downloads => text "stale downloads in ~/Downloads"
  | .staleCaches => text "stale build caches (__pycache__ and similar)"
  | .rebuildableDirs => text "rebuildable dependency directories (node_modules, .venv)"
  | .largeFiles => text "individually large files"
  | .misplaced => text "files sitting outside their category folders"
  | .emptyDirs => text "empty directories"
  | .similarFolders => text "similarly named folder pairs"

inductive SizeBand where
  | veryLarge | large | moderate | nothing
deriving DecidableEq

def sizeBand (mb : ℚ) : SizeBand :=
  if 10240 ≤ mb then .veryLarge
  else if 1024 ≤ mb then .large
  else if roundToDouble (1 / 10) ≤ mb then .moderate
  else .nothing

def SizeBand.word : SizeBand → Text
  | .veryLarge => text "very large"
  | .large => text "large"
  | .moderate => text "moderate"
  | .nothing => text "frees no space"

inductive Level where
  | nearlyFull | fillingUp | comfortable
deriving DecidableEq

inductive Trend where
  | unknown | risingNoticeably | creepingUp | falling | steady
deriving DecidableEq

inductive Horizon where
  | passed | soon | withinMonths | years | offCourse
deriving DecidableEq

def levelOf (percent : ℚ) : Level :=
  if 90 ≤ percent then .nearlyFull else if 75 ≤ percent then .fillingUp else .comfortable

def trendOf : Option ℚ → Trend
  | none => .unknown
  | some delta =>
    if 1 < delta then .risingNoticeably
    else if 0 < delta then .creepingUp
    else if delta < -1 then .falling
    else .steady

def horizonOf : Option ThresholdProjection → Horizon
  | none => .offCourse
  | some projection => match projection.state with
      | .exceeded => .passed
      | .projected =>
        let days := projection.daysFromNow.getD 0
        if days ≤ 30 then .soon else if days ≤ 365 then .withinMonths else .years
      | .notGrowing => .offCourse

def Level.word : Level → Text
  | .nearlyFull => text "nearly full"
  | .fillingUp => text "filling up"
  | .comfortable => text "comfortable"

def Trend.phrase : Trend → Text
  | .unknown => text "with no earlier reading to compare against"
  | .risingNoticeably => text "and rising noticeably"
  | .creepingUp => text "and creeping up"
  | .falling => text "and falling"
  | .steady => text "and holding steady"

def Horizon.phrase : Horizon → Text
  | .passed => text "A usage threshold has already been passed."
  | .soon => text "A threshold crossing is expected soon."
  | .withinMonths => text "A threshold crossing is expected within months."
  | .years => text "No threshold crossing is expected for years."
  | .offCourse => text "It is not on course to cross a threshold."

/-- Level, trend and horizon of a disk of which there are samples. -/
def occupancyOf (disk : DiskFacts) : Option (Level × Trend × Horizon) :=
  disk.currentPercent.map fun current =>
    (levelOf current, trendOf disk.deltaPp, horizonOf disk.projection)

def occupancyPhrase : Option (Level × Trend × Horizon) → Text
  | none => text "Disk occupancy is unknown — no samples were recorded."
  | some (level, trend, horizon) =>
    text "Disk occupancy is " ++ level.word ++ text " " ++ trend.phrase ++ text ". " ++ horizon.phrase

def reviewInstructions : Text :=
  text ("Write three brief plain-text sections: 1) Where the mess is coming from: which categories explain the " ++
    "growth, judging from the listed items; 2) Clear first: at most three of the listed items, named by their " ++
    "category; 3) Watch: anything trending the wrong way that is not yet urgent, or 'nothing' if there is none. " ++
    "Figures are reported separately, so do not state any number, size, count, percentage or date — describe " ++
    "magnitude in words. Hard limit 150 words. Plain prose only: no markdown, no headings, no numbered or " ++
    "bulleted lists.")

def riskMarker (severity : Severity) : Text := if severity = .risk then text " [RISK]" else []

def itemLine (item : TopAction) : Text :=
  text "- " ++ kindPhrase item.kind ++ riskMarker item.severity ++ text " — " ++
    (sizeBand item.reclaimableMb).word ++ text " — " ++ item.action

/-- The categories that changed, by the size of the change. -/
def movers (data : ReviewData) : List (RecommendationKind × ℚ) :=
  (data.byKind.entries.filterMap fun entry =>
    (entry.2.deltaMb.filter (· ≠ 0)).map fun delta => (entry.1, delta)).insertionSort fun left right =>
      |right.2| ≤ |left.2|

def moverLine (mover : RecommendationKind × ℚ) : Text :=
  text "- " ++ kindPhrase mover.1 ++ text ": " ++ (if 0 < mover.2 then text "grew" else text "shrank")

/-- The lines of the prompt that come from the data. -/
def dataLines (data : ReviewData) : List Text :=
  [text "Weekly disk report for one Linux workstation.", occupancyPhrase (occupancyOf data.disk), [],
      text "Outstanding items, most significant first:"] ++ data.top.map itemLine ++
    (if movers data = [] then []
      else [[], text "Categories that changed over the period:"] ++ (movers data).map moverLine)

def buildReviewPrompt (data : ReviewData) : Text :=
  (text "\n").intercalate (dataLines data ++ [[], reviewInstructions])

/-! What the prompt shows. -/

def TopAction.view (item : TopAction) : RecommendationKind × Severity × SizeBand × Text :=
  (item.kind, item.severity, sizeBand item.reclaimableMb, item.action)

/-- A category that changed, and whether it grew. -/
def moverView (mover : RecommendationKind × ℚ) : RecommendationKind × Bool := (mover.1, 0 < mover.2)

structure ReviewView where
  occupancy : Option (Level × Trend × Horizon)
  top : List (RecommendationKind × Severity × SizeBand × Text)
  /-- In the order of the rows. -/
  changed : List (RecommendationKind × Bool)

def ReviewData.view (data : ReviewData) : ReviewView where
  occupancy := occupancyOf data.disk
  top := data.top.map TopAction.view
  changed := (movers data).map moverView

theorem itemLine_of_view (first second : TopAction) (same : first.view = second.view) :
    itemLine first = itemLine second := by
  simp only [TopAction.view, Prod.mk.injEq] at same
  obtain ⟨kind, severity, band, action⟩ := same
  rw [itemLine, itemLine, kind, severity, band, action]

theorem moverLine_of_view (first second : RecommendationKind × ℚ)
    (same : moverView first = moverView second) : moverLine first = moverLine second := by
  simp only [moverView, Prod.mk.injEq, decide_eq_decide] at same
  simp only [moverLine, same.1, same.2]

theorem diskPrompt_of_view {left right : ReviewData} (same : left.view = right.view) :
    buildReviewPrompt left = buildReviewPrompt right := by
  simp only [ReviewData.view, ReviewView.mk.injEq] at same
  obtain ⟨occupancy, top, changed⟩ := same
  have items := map_of_view itemLine_of_view top
  have moves := map_of_view moverLine_of_view changed
  simp only [buildReviewPrompt, dataLines, occupancy, items, moves, eq_nil_of_view changed]

theorem kindPhrase_plain (kind : RecommendationKind) : (kindPhrase kind).all isPlain = true := by
  cases kind <;> exact plain_of_spelt rfl (by decide)

theorem riskMarker_plain (severity : Severity) : (riskMarker severity).all isPlain = true := by
  cases severity <;> decide

theorem sizeBand_plain (band : SizeBand) : band.word.all isPlain = true := by
  cases band <;> exact plain_of_spelt rfl (by decide)

theorem occupancyPhrase_plain (occupancy : Option (Level × Trend × Horizon)) :
    (occupancyPhrase occupancy).all isPlain = true := by
  cases occupancy with
  | none => exact plain_of_spelt rfl (by decide)
  | some words =>
    obtain ⟨level, trend, horizon⟩ := words
    have levelPlain : level.word.all isPlain = true := by
      cases level <;> exact plain_of_spelt rfl (by decide)
    have trendPlain : trend.phrase.all isPlain = true := by
      cases trend <;> exact plain_of_spelt rfl (by decide)
    have horizonPlain : horizon.phrase.all isPlain = true := by
      cases horizon <;> exact plain_of_spelt rfl (by decide)
    have opening : (text "Disk occupancy is ").all isPlain = true := plain_of_spelt rfl (by decide)
    have blank : (text " ").all isPlain = true := plain_of_spelt rfl (by decide)
    have stop : (text ". ").all isPlain = true := plain_of_spelt rfl (by decide)
    exact plain_append
      (plain_append
      (plain_append (plain_append (plain_append opening levelPlain) blank) trendPlain)
      stop) horizonPlain

theorem stepFor_plain (kind : RecommendationKind) : (stepFor kind).all isPlain = true := by
  cases kind <;> exact plain_of_spelt rfl (by decide)

section

variable {database : CharDatabase}

theorem onlyNames_dataLines (noDigit : database.isDigit dash = false) {data : ReviewData}
    (actions : ∀ item ∈ data.top, item.action.all isPlain = true) :
    ∀ line ∈ dataLines data, OnlyNames database.isDigit [] line := by
  have plain : ∀ {value : Text}, value.all isPlain = true → OnlyNames database.isDigit [] value :=
    fun free => onlyNames_plain noDigit free
  have items : ∀ item ∈ data.top, OnlyNames database.isDigit [] (itemLine item) := by
    intro item member
    exact ((((((plain (plain_of_spelt rfl (by decide))).append (plain (kindPhrase_plain _))).append
      (plain (riskMarker_plain _))).append (plain (plain_of_spelt rfl (by decide)))).append
        (plain (sizeBand_plain _))).append
      (plain (plain_of_spelt rfl (by decide)))).append (plain (actions item member))
  have moves : ∀ mover : RecommendationKind × ℚ, OnlyNames database.isDigit [] (moverLine mover) := by
    intro mover
    have grown : OnlyNames database.isDigit [] (if 0 < mover.2 then text "grew"
        else text "shrank") := by
      split <;> exact plain (plain_of_spelt rfl (by decide))
    exact (((plain (plain_of_spelt rfl (by decide))).append (plain (kindPhrase_plain _))).append
      (plain (plain_of_spelt rfl (by decide)))).append grown
  have changed : ∀ line ∈ (if movers data = [] then []
      else [[], text "Categories that changed over the period:"] ++ (movers data).map moverLine),
      OnlyNames database.isDigit [] line := by
    split
    · exact List.forall_mem_nil _
    · simp only [List.forall_mem_append, List.forall_mem_cons, List.forall_mem_map,
        List.not_mem_nil, false_implies, implies_true, and_true]
      exact ⟨⟨.nil, plain (plain_of_spelt rfl (by decide))⟩, fun mover _ => moves mover⟩
  simp only [dataLines, List.forall_mem_append, List.forall_mem_cons, List.forall_mem_map,
    List.not_mem_nil, false_implies, implies_true, and_true]
  exact ⟨⟨⟨plain (plain_of_spelt rfl (by decide)), plain (occupancyPhrase_plain _), .nil,
    plain (plain_of_spelt rfl (by decide))⟩, items⟩, changed⟩

theorem diskPrompt_onlyNames (noDigit : database.isDigit dash = false) {wording : Wording}
    {config : Advice.FileOrganiserConfig} {audits : List FilesystemAudit}
    {samples : List OccupancySample} {projection : Option ThresholdProjection}
    {periodDays now : Int} {data : ReviewData}
    (gathered : gatherReviewData wording config audits samples projection periodDays now = some data) :
    ∃ half, buildReviewPrompt data = half ++ reviewInstructions ∧ OnlyNames database.isDigit
      [] half := by
  refine onlyNames_prompt noDigit (onlyNames_dataLines noDigit ?_) reviewInstructions
  obtain ⟨latest, _, rfl⟩ := Option.map_eq_some_iff.mp gathered
  intro item member
  obtain ⟨row, inside, rfl⟩ := List.mem_map.mp member
  have step := action_eq_stepFor _ _ _ _ _ (List.mem_of_mem_take inside)
  rw [topAction, step]
  exact stepFor_plain row.kind

end

end SysadminAssistant.Files.DiskReview
