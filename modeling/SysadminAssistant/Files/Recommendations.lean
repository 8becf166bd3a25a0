import SysadminAssistant.Files.FileTree
import SysadminAssistant.Python.Rounding
import Mathlib.Data.Prod.Lex
import Mathlib.Data.List.Sort

namespace SysadminAssistant.Files.Advice

open Python

/-! Ranked disk advice off a filesystem audit (`sysadmin/files/recommendations.py`). -/

/-- A directory of `stale_project_dirs`; audits of before sizes were recorded have none. -/
structure StaleDir where
  path : Path
  type : Text
  sizeMb : Option ℚ
deriving DecidableEq

structure SizedFile where
  path : Path
  sizeMb : Option ℚ
deriving DecidableEq

structure DuplicateGroup where
  count : Int
  reclaimableMb : Option ℚ
deriving DecidableEq

structure Findings where
  similarFolders : List (List Path)
  misplacedFiles : Dict Text (List Path)
  oldDownloads : List SizedFile
  largeFiles : List SizedFile
  duplicates : List DuplicateGroup
  emptyDirs : List Path
  staleProjectDirs : List StaleDir

inductive FindingsKey where
  | duplicates | oldDownloads | misplacedFiles | largeFiles | emptyDirs | similarFolders
  | staleProjectDirs
deriving DecidableEq

inductive RecommendationKind where
  | risk | duplicates | downloads | staleCaches | rebuildableDirs | largeFiles | misplaced | emptyDirs
  | similarFolders
deriving DecidableEq

inductive Severity where
  | risk | advice
deriving DecidableEq

structure FileRecommendationInfo where
  kind : RecommendationKind
  severity : Severity
  title : Text
  detail : Text
  reclaimableMb : ℚ
  itemCount : Int
  action : Text
deriving DecidableEq

inductive ProjectionState where
  | projected | exceeded | notGrowing
deriving DecidableEq

structure ThresholdProjection where
  percent : ℚ
  state : ProjectionState
  daysFromNow : Option ℚ
  date : Option Text
  windowDays : Option ℚ

structure FileOrganiserConfig where
  downloadsStaleDays : Int
  largeFileMb : Int
  similarityThreshold : ℚ

/-- How numbers and paths are written: a float to so many places, a share in per cent. -/
structure Wording where
  fixed : Nat → ℚ → Text
  percent : ℚ → Text
  path : Path → Text

def riskHorizonDays : ℚ := 30

def cacheDirTypes : List Text := [text "__pycache__", text ".pytest_cache", text ".tox"]

def rebuildableDirTypes : List Text :=
  [text "node_modules", text ".venv", text "venv", text "target", text "build", text "dist"]

def isCache (entry : StaleDir) : Bool := entry.type ∈ cacheDirTypes

def isRebuildable (entry : StaleDir) : Bool := entry.type ∈ rebuildableDirTypes

def trueCount (counts : FindingsKey → Option Int) (key : FindingsKey) (listed : Nat) : Int :=
  match counts key with
  | some stored => if stored < 0 then listed else max stored listed
  | none => listed

def truncationNote (total : Int) (listed : Nat) (noun : String) (sortedBySize : Bool) : Text :=
  if total ≤ listed then []
  else
    text " Detail covers the " ++ text (if sortedBySize then "largest" else "first") ++ text " " ++
      intText listed ++ text " of " ++ intText total ++ text " " ++ text noun ++
      text " — findings are truncated before storage."

/-- `_sizes_missing`, of the sizes of a list. -/
def sizesMissing (sizes : List (Option ℚ)) : Bool := !sizes.isEmpty && sizes.all Option.isNone

def sizingCaveat (missing : Bool) : Text :=
  if missing then text " Sizes were not recorded by this scan — rescan to price it." else []

/-- `sum` of the `_number`s of a list. -/
def priced (sizes : List (Option ℚ)) : ℚ := sumFloats (sizes.map (Option.getD · 0))

/-- `", ".join(sorted({...}))` of the types of a list. -/
def typesListed (entries : List StaleDir) : Text :=
  (text ", ").intercalate ((entries.map StaleDir.type).dedup.insertionSort (· ≤ ·))

/-- The first entry of the greatest size, as `max` gives it. -/
def biggest {α : Type} (size : α → ℚ) (first : α) (rest : List α) : α :=
  rest.foldl (fun best entry => if size best < size entry then entry else best) first

section

variable (wording : Wording) (config : FileOrganiserConfig)

def formatMb (mb : ℚ) : Text :=
  if 1024 ≤ |mb| then wording.fixed 1 (roundToDouble (mb / 1024)) ++ text " GB"
  else wording.fixed 0 mb ++ text " MB"

def sizePhrase (mb : ℚ) (total : Int) (listed : Nat) (missing : Bool) : Text :=
  if missing then text "an unrecorded amount"
  else if (listed : Int) < total then text "at least " ++ formatMb wording mb
  else formatMb wording mb

def riskOf (percent : ℚ) (detail : Text) : FileRecommendationInfo where
  kind := .risk
  severity := .risk
  title := text "Disk crosses " ++ wording.fixed 0 percent ++ text "% soon"
  detail
  reclaimableMb := 0
  itemCount := 0
  action := text "Act on the reclaim items below, or move data to another volume"

def diskRisk : Option ThresholdProjection → Option FileRecommendationInfo
  | none => none
  | some projection =>
    match projection.state, projection.daysFromNow with
    | .notGrowing, _ => none
    | .exceeded, _ => some (riskOf wording projection.percent
        (text "Disk usage is already at or past " ++ wording.fixed 0 projection.percent ++
          text "%. Reclaiming space is no longer optional."))
    | .projected, none => none
    | .projected, some days =>
      if riskHorizonDays < days then none
      else
        let trend := match projection.windowDays with
          | none => text "current growth trend"
          | some window => text "growth of the last " ++ wording.fixed 0 window ++ text " days"
        let «when» := if days < 1 then text "today"
          else text "about " ++ wording.fixed 0 days ++ text " days away"
        some (riskOf wording projection.percent
          (text "Disk usage is projected to cross " ++ wording.fixed 0 projection.percent ++
            text "% on " ++
            projection.date.getD (text "None") ++ text " — " ++ «when» ++ text ", on the " ++
              trend ++ text "."))

section

variable (findings : Findings) (counts : FindingsKey → Option Int)

def duplicatesAdvice : Option FileRecommendationInfo :=
  let duplicates := findings.duplicates
  if duplicates = [] then none
  else
    let sizes := duplicates.map DuplicateGroup.reclaimableMb
    let reclaim := priced sizes
    let extraCopies := (duplicates.map fun group => max (group.count - 1) 0).sum
    let groups := trueCount counts .duplicates duplicates.length
    let missing := sizesMissing sizes
    some {
      kind := .duplicates
      severity := .advice
      title := text "Deduplicate " ++ intText groups ++ text " groups of identical files"
      detail := text "Deleting all but one copy of each frees " ++
        sizePhrase wording reclaim groups duplicates.length missing ++ text "; " ++
          intText extraCopies ++
        text " redundant copies across the " ++ intText duplicates.length ++
          text " groups measured." ++
        truncationNote groups duplicates.length "groups" (!missing) ++ sizingCaveat missing
      reclaimableMb := roundPlaces reclaim 1
      itemCount := groups
      action := text "POST /api/files/clean/duplicates (dry run; add confirm: true to execute)" }

def downloadsAdvice : Option FileRecommendationInfo :=
  let downloads := findings.oldDownloads
  if downloads = [] then none
  else
    let sizes := downloads.map SizedFile.sizeMb
    let reclaim := priced sizes
    let total := trueCount counts .oldDownloads downloads.length
    let missing := sizesMissing sizes
    some {
      kind := .downloads
      severity := .advice
      title := text "Clear " ++ intText total ++ text " stale downloads"
      detail :=
        text "Untouched for over " ++ intText config.downloadsStaleDays ++ text " days, holding " ++
        sizePhrase wording reclaim total downloads.length missing ++ text "." ++
        truncationNote total downloads.length "downloads" (!missing) ++ sizingCaveat missing
      reclaimableMb := roundPlaces reclaim 1
      itemCount := total
      action := text "POST /api/files/clean/downloads (dry run; add confirm: true to execute)" }

/-- The two halves of the stale directories share one stored count. -/
def staleNote : Text :=
  let staleDirs := findings.staleProjectDirs
  truncationNote (trueCount counts .staleProjectDirs staleDirs.length) staleDirs.length
    "stale directories" true

def staleCachesAdvice : Option FileRecommendationInfo :=
  let caches := findings.staleProjectDirs.filter isCache
  if caches = [] then none
  else
    let reclaim := priced (caches.map StaleDir.sizeMb)
    some {
      kind := .staleCaches
      severity := .advice
      title := text "Delete " ++ intText caches.length ++ text " stale cache directories"
      detail := typesListed caches ++ text " — " ++ formatMb wording reclaim ++
        text ", regenerated automatically on next run." ++ staleNote findings counts
      reclaimableMb := roundPlaces reclaim 1
      itemCount := caches.length
      action := text "POST /api/files/clean/stale-caches" }

def rebuildableAdvice : Option FileRecommendationInfo :=
  match findings.staleProjectDirs.filter isRebuildable with
  | [] => none
  | first :: rest =>
    let rebuildable := first :: rest
    let reclaim := priced (rebuildable.map StaleDir.sizeMb)
    let largest := biggest (fun entry => entry.sizeMb.getD 0) first rest
    some {
      kind := .rebuildableDirs
      severity := .advice
      title :=
        text "Delete " ++ intText rebuildable.length ++ text " rebuildable dependency directories"
      detail := formatMb wording reclaim ++ text " across " ++ typesListed rebuildable ++
        text "; largest is " ++
        wording.path largest.path ++ text " at " ++ formatMb wording (largest.sizeMb.getD 0) ++
        text ". No endpoint removes these — reinstall on next build." ++ staleNote findings counts
      reclaimableMb := roundPlaces reclaim 1
      itemCount := rebuildable.length
      action := text "Delete by hand; each is regenerated by its package manager" }

def spaceRecommendations : List FileRecommendationInfo :=
  (duplicatesAdvice wording findings counts).toList ++
    (downloadsAdvice wording config findings counts).toList ++
    (staleCachesAdvice wording findings counts).toList ++
      (rebuildableAdvice wording findings counts).toList

def largeFilesAdvice : Option FileRecommendationInfo :=
  match findings.largeFiles with
  | [] => none
  | first :: rest =>
    let large := first :: rest
    let total := priced (large.map SizedFile.sizeMb)
    let largest := biggest (fun entry => entry.sizeMb.getD 0) first rest
    let count := trueCount counts .largeFiles large.length
    some {
      kind := .largeFiles
      severity := .advice
      title := text "Review " ++ intText count ++ text " large files"
      detail := text "Each over " ++ intText config.largeFileMb ++ text " MB, " ++
        sizePhrase wording total count large.length false ++ text " in total; largest is " ++
        wording.path largest.path ++ text " at " ++ formatMb wording (largest.sizeMb.getD 0) ++
        text ". Not counted as reclaimable — only you know which are junk." ++
        truncationNote count large.length "large files" true
      reclaimableMb := 0
      itemCount := count
      action := text "Inspect GET /api/files/large and delete or archive by hand" }

def misplacedAdvice : Option FileRecommendationInfo :=
  let byCategory := (findings.misplacedFiles.entries.filter fun entry => entry.2 ≠ []).map fun entry =>
    (entry.1, entry.2.length)
  let listed := (byCategory.map Prod.snd).sum
  let count := trueCount counts .misplacedFiles listed
  if findings.misplacedFiles.entries = [] ∨ count = 0 then none
  else
    let breakdown := (byCategory.insertionSort fun left right => right.2 ≤ left.2).map fun entry =>
      intText entry.2 ++ text " " ++ entry.1
    some {
      kind := .misplaced
      severity := .advice
      title := text "File " ++ intText count ++ text " misplaced files into their categories"
      detail := (text ", ").intercalate breakdown ++ text ". Moving files frees no space." ++
        truncationNote count listed "files" false
      reclaimableMb := 0
      itemCount := count
      action := text "POST /api/files/organise (dry run; add confirm: true to execute)" }

def emptyDirsAdvice : Option FileRecommendationInfo :=
  let emptyDirs := findings.emptyDirs
  if emptyDirs = [] then none
  else
    let count := trueCount counts .emptyDirs emptyDirs.length
    some {
      kind := .emptyDirs
      severity := .advice
      title := text "Remove " ++ intText count ++ text " empty directories"
      detail :=
        text "Cleared by the stale-cache endpoint, which removes empty directories in the same pass." ++
        truncationNote count emptyDirs.length "directories" false
      reclaimableMb := 0
      itemCount := count
      action := text "POST /api/files/clean/stale-caches" }

def similarFoldersAdvice : Option FileRecommendationInfo :=
  let similar := findings.similarFolders
  if similar = [] then none
  else
    let count := trueCount counts .similarFolders similar.length
    some {
      kind := .similarFolders
      severity := .advice
      title := text "Merge " ++ intText count ++ text " similarly named folder groups"
      detail := text "Names within " ++ wording.percent config.similarityThreshold ++
        text (" similarity — likely the same thing kept twice. No executor: merging needs a judgement " ++
          "about which copy is current.") ++ truncationNote count similar.length "groups" false
      reclaimableMb := 0
      itemCount := count
      action := text "Inspect GET /api/files/report and merge by hand" }

def tidinessRecommendations : List FileRecommendationInfo :=
  (largeFilesAdvice wording config findings counts).toList ++
    (misplacedAdvice findings counts).toList ++
    (emptyDirsAdvice findings counts).toList ++
      (similarFoldersAdvice wording config findings counts).toList

end

def FileRecommendationInfo.order (row : FileRecommendationInfo) : Bool ×ₗ ℚ ×ₗ Int ×ₗ Text :=
  toLex (decide (row.severity ≠ .risk), toLex (-row.reclaimableMb, toLex (-row.itemCount, row.title)))

def recommendationsForAudit (findings : Findings) (projection : Option ThresholdProjection)
    (counts : FindingsKey → Option Int) : List FileRecommendationInfo :=
  ((diskRisk wording projection).toList ++ spaceRecommendations wording config findings counts ++
    tidinessRecommendations wording config findings counts).insertionSort fun left right =>
      left.order ≤ right.order

end

section

variable (wording : Wording) (config : FileOrganiserConfig) (findings : Findings)
  (projection : Option ThresholdProjection) (counts : FindingsKey → Option Int)

theorem mem_recommendationsForAudit {row : FileRecommendationInfo} :
    row ∈ recommendationsForAudit wording config findings projection counts ↔
      diskRisk wording projection = some row ∨
      (duplicatesAdvice wording findings counts = some row ∨
        downloadsAdvice wording config findings counts = some row ∨
        staleCachesAdvice wording findings counts = some row ∨
          rebuildableAdvice wording findings counts = some row) ∨
      (largeFilesAdvice wording config findings counts = some row ∨
        misplacedAdvice findings counts = some row ∨
        emptyDirsAdvice findings counts = some row ∨
          similarFoldersAdvice wording config findings counts = some row) := by
  simp only [recommendationsForAudit, spaceRecommendations, tidinessRecommendations,
    List.mem_insertionSort, List.mem_append, Option.mem_toList, or_assoc]

/-- The step that a recommendation of each kind names. -/
def stepFor : RecommendationKind → Text
  | .risk => text "Act on the reclaim items below, or move data to another volume"
  | .duplicates => text "POST /api/files/clean/duplicates (dry run; add confirm: true to execute)"
  | .downloads => text "POST /api/files/clean/downloads (dry run; add confirm: true to execute)"
  | .staleCaches => text "POST /api/files/clean/stale-caches"
  | .rebuildableDirs => text "Delete by hand; each is regenerated by its package manager"
  | .largeFiles => text "Inspect GET /api/files/large and delete or archive by hand"
  | .misplaced => text "POST /api/files/organise (dry run; add confirm: true to execute)"
  | .emptyDirs => text "POST /api/files/clean/stale-caches"
  | .similarFolders => text "Inspect GET /api/files/report and merge by hand"

theorem diskRisk_step {row : FileRecommendationInfo} (made : diskRisk wording projection = some row) :
    row.kind = .risk ∧ row.action = stepFor .risk := by
  cases projection with
  | none => simp [diskRisk] at made
  | some projection =>
    cases state : projection.state with
    | notGrowing => simp [diskRisk, state] at made
    | exceeded =>
      simp only [diskRisk, state, Option.some.injEq] at made
      rw [← made]
      exact ⟨rfl, rfl⟩
    | projected =>
      cases days : projection.daysFromNow with
      | none => simp [diskRisk, state, days] at made
      | some days =>
        simp only [diskRisk, state, days, Option.ite_none_left_eq_some, Option.some.injEq] at made
        rw [← made.2]
        exact ⟨rfl, rfl⟩

theorem steps_of_offered {silent : Prop} [Decidable silent] {offered row : FileRecommendationInfo}
    {kind : RecommendationKind} (made : (if silent then none else some offered) = some row)
    (about : offered.kind = kind) (step : offered.action = stepFor kind) :
    row.kind = kind ∧ row.action = stepFor kind := by
  split at made
  · contradiction
  · rw [← Option.some.inj made]
    exact ⟨about, step⟩

theorem advice_steps {row : FileRecommendationInfo} :
    (duplicatesAdvice wording findings counts = some row →
      row.kind = .duplicates ∧ row.action = stepFor .duplicates) ∧
    (downloadsAdvice wording config findings counts = some row →
      row.kind = .downloads ∧ row.action = stepFor .downloads) ∧
    (staleCachesAdvice wording findings counts = some row →
      row.kind = .staleCaches ∧ row.action = stepFor .staleCaches) ∧
    (rebuildableAdvice wording findings counts = some row →
      row.kind = .rebuildableDirs ∧ row.action = stepFor .rebuildableDirs) ∧
    (largeFilesAdvice wording config findings counts = some row →
      row.kind = .largeFiles ∧ row.action = stepFor .largeFiles) ∧
    (misplacedAdvice findings counts = some row → row.kind = .misplaced ∧
      row.action = stepFor .misplaced) ∧
    (emptyDirsAdvice findings counts = some row → row.kind = .emptyDirs ∧
      row.action = stepFor .emptyDirs) ∧
    (similarFoldersAdvice wording config findings counts = some row →
      row.kind = .similarFolders ∧ row.action = stepFor .similarFolders) := by
  refine ⟨?_, ?_, ?_, ?_, ?_, ?_, ?_, ?_⟩
  · exact fun made => steps_of_offered made rfl rfl
  · exact fun made => steps_of_offered made rfl rfl
  · exact fun made => steps_of_offered made rfl rfl
  · intro made
    simp only [rebuildableAdvice] at made
    split at made
    · contradiction
    · rw [← Option.some.inj made]
      exact ⟨rfl, rfl⟩
  · intro made
    simp only [largeFilesAdvice] at made
    split at made
    · contradiction
    · rw [← Option.some.inj made]
      exact ⟨rfl, rfl⟩
  · exact fun made => steps_of_offered made rfl rfl
  · exact fun made => steps_of_offered made rfl rfl
  · exact fun made => steps_of_offered made rfl rfl

theorem action_eq_stepFor {row : FileRecommendationInfo}
    (member : row ∈ recommendationsForAudit wording config findings projection counts) :
    row.action = stepFor row.kind := by
  have steps := @advice_steps wording config findings counts row
  have risk := @diskRisk_step wording projection row
  rw [mem_recommendationsForAudit] at member
  grind

end

end SysadminAssistant.Files.Advice
