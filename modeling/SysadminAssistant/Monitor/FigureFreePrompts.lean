import SysadminAssistant.Monitor.LogReview
import SysadminAssistant.Monitor.HealthReview
import SysadminAssistant.Files.DiskReview

namespace SysadminAssistant.Monitor

open Python Library

/-! No figure reaches a review prompt. -/

/-- A prompt that a review builds from what it gathered, and what of it is words. -/
structure ReviewPrompt (Data View : Type) where
  gathered : Data → Prop
  prompt : Data → Text
  instructions : Text
  names : Data → List Text
  view : Data → View

/-- Digits stand in names only, and nothing is shown beyond the view. -/
structure ReviewPrompt.FigureFree {Data View : Type} (review : ReviewPrompt Data View)
    (isDigit : CodePoint → Bool) : Prop where
  digits : ∀ data, review.gathered data → ∃ half, review.prompt data = half ++ review.instructions ∧
    OnlyNames isDigit (review.names data) half
  determined : ∀ left right, review.gathered left → review.gathered right →
    review.view left = review.view right → review.prompt left = review.prompt right

/-- `sysadmin/monitor/log_review.py`. -/
def logReview (database : CharDatabase) (wording : Advice.Wording) :
    ReviewPrompt LogReview.ReviewData LogReview.ReviewView where
  gathered data := ∃ report declaredNoise scopes related,
    LogReview.gatherReviewData wording report declaredNoise scopes related = some data
  prompt := LogReview.buildReviewPrompt database wording
  instructions := LogReview.reviewInstructions
  names := LogReview.ReviewData.names
  view := LogReview.ReviewData.view

/-- `sysadmin/monitor/health_review.py`. -/
def healthReview (numbers : Reliability.NumberText) :
    ReviewPrompt HealthReview.ReviewData HealthReview.ReviewView where
  gathered data := ∃ config services tables periodDays now,
    HealthReview.gatherReviewData numbers config services tables periodDays now = some data
  prompt := HealthReview.buildReviewPrompt
  instructions := HealthReview.reviewInstructions
  names := HealthReview.ReviewData.names
  view := HealthReview.ReviewData.view

/-- `sysadmin/files/review.py`; its prompt names nothing that has a digit. -/
def diskReview (wording : Files.Advice.Wording) :
    ReviewPrompt Files.DiskReview.ReviewData Files.DiskReview.ReviewView where
  gathered data := ∃ config audits samples projection periodDays now,
    Files.DiskReview.gatherReviewData wording config audits samples projection periodDays now =
      some data
  prompt := Files.DiskReview.buildReviewPrompt
  instructions := Files.DiskReview.reviewInstructions
  names _ := []
  view := Files.DiskReview.ReviewData.view

theorem reviewPrompts_figureFree {database : CharDatabase} {logWording : Advice.Wording}
    {diskWording : Files.Advice.Wording} {numbers : Reliability.NumberText} {marker : Text}
    (noDigit : database.isDigit dash = false)
    (cuts : LogReview.CutsVisibly logWording.tools.truncateAtWord marker)
    (markerPlain : ∀ c ∈ marker, database.isDigit c = false) :
    (logReview database logWording).FigureFree database.isDigit ∧
      (healthReview numbers).FigureFree database.isDigit ∧
        (diskReview diskWording).FigureFree database.isDigit := by
  refine ⟨⟨?_, ?_⟩, ⟨?_, ?_⟩, ⟨?_, ?_⟩⟩
  · dsimp only [logReview]
    intro data _
    exact LogReview.logPrompt_onlyNames noDigit cuts markerPlain data
  · dsimp only [logReview]
    intro left right _ _ same
    exact LogReview.logPrompt_of_view database logWording same
  · dsimp only [healthReview]
    intro data _
    exact HealthReview.healthPrompt_onlyNames noDigit data
  · dsimp only [healthReview]
    intro left right _ _ same
    exact HealthReview.healthPrompt_of_view same
  · dsimp only [diskReview]
    intro data gathered
    obtain ⟨config, audits, samples, projection, periodDays, now, found⟩ := gathered
    exact Files.DiskReview.diskPrompt_onlyNames noDigit found
  · dsimp only [diskReview]
    intro left right _ _ same
    exact Files.DiskReview.diskPrompt_of_view same

/-- A cut that keeps the beginning and says that it cut. -/
def markedCut (value : Text) (limit : Nat) : Text :=
  if value.length ≤ limit then value else value.take (limit - 2) ++ text " " ++ text "…"

theorem markedCut_visible : LogReview.CutsVisibly markedCut (text "…") := by
  intro value limit
  rw [markedCut]
  split
  · exact Or.inl rfl
  · exact Or.inr ⟨_, List.take_prefix _ _, rfl⟩

def plainLogWording : Advice.Wording where
  tools :=
    { truncateAtWord := markedCut, truncationMarker := text "…", signatureDigest := fun _ => text "00000000" }
  day moment := intText moment
  minute moment := intText moment
  second moment := intText moment
  tenths number := intText number.floor
  thousandths number := intText number.floor
  repr value := value

def plainDiskWording : Files.Advice.Wording where
  fixed _ number := intText number.floor
  percent number := intText number.floor
  path _ := text "/home"

def plainNumbers : Reliability.NumberText where
  general number := intText number.floor
  fixed _ number := intText number.floor

theorem reviewPrompts_figureFree_ascii :
    (logReview .ascii plainLogWording).FigureFree CharDatabase.ascii.isDigit ∧
      (healthReview plainNumbers).FigureFree CharDatabase.ascii.isDigit ∧
      (diskReview plainDiskWording).FigureFree CharDatabase.ascii.isDigit :=
  reviewPrompts_figureFree (by decide) markedCut_visible (List.forall_mem_singleton.mpr (by decide))

end SysadminAssistant.Monitor
