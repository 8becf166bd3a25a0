import SysadminAssistant.Core.KeptReviews
import SysadminAssistant.Core.WatchedReviews
import SysadminAssistant.Monitor.FigureFreePrompts

namespace SysadminAssistant.Monitor.WeeklyReviews

open Python Library SysadminAssistant.Core
  SysadminAssistant.Core.Reviews

/-! The three weekly reviews, by the schedule and by their routes. -/

inductive Kind where
  | log | health | disk
deriving DecidableEq

def Kind.Data : Kind → Type
  | .log => LogReview.ReviewData
  | .health => HealthReview.ReviewData
  | .disk => Files.DiskReview.ReviewData

/-- The deterministic texts of a review, and the wording its prompts take from the library. -/
structure Wordings where
  database : CharDatabase
  advice : Advice.Wording
  facts : (kind : Kind) → kind.Data → Text
  fallback : (kind : Kind) → kind.Data → Text

/-- `condense_instructions`. -/
def condenseInstructions (review parts : Text) : Text :=
  text "Shorten " ++ review ++
    text " below to at most 120 words. Keep its three parts in order: " ++ parts ++
    text (". Do not add anything that is not already in it, and do not state any number. Plain prose " ++
      "only: no markdown, no headings, no lists.")

def logConfidence : Confidence → Text
  | .low => text "low"
  | .medium => text "medium"
  | .high => text "high"

def healthConfidence : Reliability.Confidence → Text
  | .high => text "high"
  | .low => text "low"

/-- `sysadmin/monitor/log_review.py`. -/
def logReview (words : Wordings) : Review LogReview.ReviewData where
  requester := text "log_review"
  system :=
    text ("You are a pragmatic systems administrator reviewing one Linux workstation's logs. Write in UK " ++
    "English. Refer to services and faults by the names given. Do not invent facts not present in the data.")
  condense :=
    some (condenseInstructions (text "the log review")
      (text "what broke, what to look at first, and what to watch"))
  prompt := LogReview.buildReviewPrompt words.database words.advice
  facts := words.facts .log
  fallback := words.fallback .log
  periodDays := LogReview.ReviewData.periodDays
  confidence data := some (logConfidence data.confidence)
  missingStatus := 404
  routeCommits := true

/-- `sysadmin/monitor/health_review.py`, which no code holds to the word limit. -/
def healthReview (words : Wordings) : Review HealthReview.ReviewData where
  requester := text "health_review"
  system :=
    text ("You are a pragmatic systems administrator reviewing one Linux workstation's week. Write in UK " ++
    "English. Refer to services by the names given. Do not invent facts not present in the data.")
  condense := none
  prompt := HealthReview.buildReviewPrompt
  facts := words.facts .health
  fallback := words.fallback .health
  periodDays := HealthReview.ReviewData.periodDays
  confidence data := some (healthConfidence data.confidence)
  missingStatus := 404
  routeCommits := true

/-- `sysadmin/files/review.py`; its table has no confidence, and its route leaves the commit to the
session. -/
def diskReview (words : Wordings) : Review Files.DiskReview.ReviewData where
  requester := text "disk_review"
  system :=
    text ("You are a pragmatic systems administrator reviewing one Linux workstation's disk. Write in UK " ++
    "English. Be concrete and reference directories by name. Do not invent facts not present in the data.")
  condense := some (condenseInstructions (text "the disk review")
    (text "where the mess is coming from, what to clear first, and what to watch"))
  prompt := Files.DiskReview.buildReviewPrompt
  facts := words.facts .disk
  fallback := words.fallback .disk
  periodDays := Files.DiskReview.ReviewData.periodDays
  confidence _ := none
  missingStatus := 409
  routeCommits := false

def Kind.review (words : Wordings) : (kind : Kind) → Review kind.Data
  | .log => logReview words
  | .health => healthReview words
  | .disk => diskReview words

section

variable (words : Wordings) (settings : Settings) (tools : NarrativeTools) (kind : Kind)

/-- A dispatch of the scheduler at a time of the day, or a request. -/
inductive Dispatch where
  | weekly (timeOfDay : Int)
  | route

/-- What a dispatch asks of the world. -/
def exchangesOf (world : ReviewWorld kind.Data) : Dispatch → List (ReviewExchange kind.Data)
  | .weekly timeOfDay =>
    (((kind.review words).runWeeklyReview settings tools timeOfDay).run world []).1
  | .route => (((kind.review words).generateRoute settings tools).run world []).1

/-- How a dispatch ends. -/
def endOf (world : ReviewWorld kind.Data) : Dispatch → Except Raised (Option (StoredReview kind.Data))
  | .weekly timeOfDay =>
    (((kind.review words).runWeeklyReview settings tools timeOfDay).run world []).2
  | .route => (((kind.review words).generateRoute settings tools).run world []).2.map some

/-- How a dispatch ends that has this to review: a route with nothing to review answers a status. -/
def Dispatch.ending {Row : Type} (missingStatus : Nat) (row : Option Row) :
    Dispatch → Except Raised (Option Row)
  | .weekly _ => .ok row
  | .route => row.elim (.error (.http missingStatus)) fun row => .ok (some row)

/-- Whatever the world answers and wherever it raises, each call of a review is permitted by the
watch, the review ends with its queue client, its session and its model's client closed, and the
leases it gave back are those that it was granted. -/
theorem review_watched (dispatch : Dispatch) (world : ReviewWorld kind.Data) :
    ∃ watch, (exchangesOf words settings tools kind world dispatch).foldlM Watch.step Watch.start =
      some watch ∧ watch.Quiet ∧ released (exchangesOf words settings tools kind world dispatch) =
        granted (exchangesOf words settings tools kind world dispatch) ∧
      (granted (exchangesOf words settings tools kind world dispatch)).length ≤ 1 := by
  have started : ([] : List (ReviewExchange kind.Data)).foldlM Watch.step Watch.start =
      some Watch.start := rfl
  have accepted : ∃ watch,
      (exchangesOf words settings tools kind world dispatch).foldlM Watch.step Watch.start =
      some watch ∧ watch.Quiet := by
    cases dispatch with
    | weekly timeOfDay =>
      exact Tree.Respects.run (runWeeklyReview_watched timeOfDay) (fun _ _ _ _ => trivial) started
    | route => exact Tree.Respects.run generateRoute_watched (fun _ _ _ _ => trivial) started
  obtain ⟨watch, ran, quiet⟩ := accepted
  exact ⟨watch, ran, quiet, leases_of_quiet ran quiet⟩

/-- Where the database and the clients answer, the row that a review keeps is settled by what it
gathered and by what the model said: there is one if there was anything to review, whatever the
queue and the card do. -/
theorem review_kept (dispatch : Dispatch) {world : ReviewWorld kind.Data}
    (documented : ∀ history request, Documented ⟨request, world history request⟩) :
    ∃ (gathered : Option kind.Data) (answers : List Text),
      endOf words settings tools kind world dispatch =
        dispatch.ending (kind.review words).missingStatus
          (gathered.map ((kind.review words).rowFor settings tools answers)) ∧
      ledgerOf (exchangesOf words settings tools kind world dispatch) =
        ⟨[gathered], answers, [],
          (gathered.map ((kind.review words).rowFor settings tools answers)).toList⟩ := by
  cases dispatch with
  | weekly timeOfDay =>
    obtain ⟨answer, returned, gathered, answers, rfl, same⟩ :=
      (runWeeklyReview_recorded timeOfDay).run documented
    exact ⟨gathered, answers, returned, same⟩
  | route =>
    obtain ⟨answer, returned, gathered, answers, rfl, same⟩ := generateRoute_recorded.run documented
    refine ⟨gathered, answers, ?_, same⟩
    simp only [endOf, returned]
    cases gathered <;> rfl

end

/-! A night when the queue is down and the card is busy. -/

def plainWordings : Wordings where
  database := .ascii
  advice := plainLogWording
  facts _ _ := text "Facts."
  fallback _ _ := text "Digest."

def nightSettings : Settings := ⟨6, 0, 5, 600, text "model"⟩

def plainNarrative : NarrativeTools := ⟨id, text "…", fun _ => none⟩

def emptyLogWeek : LogReview.ReviewData := ⟨7, 0, 0, .high, false, 0, 0, 0, [], 0, 0, []⟩

def refusingAnswer : (request : Call LogReview.ReviewData) → Except Raised request.Answer
  | .acquire _ _ _ _ => .error .queueUnavailable
  | .ensureGpuIdle => .error .gpuBusy
  | .postChat _ _ => .error .llama
  | .gather => .ok (some emptyLogWeek)
  | .openQueue | .closeQueue | .release _ | .openSession | .commit | .rollback | .dispose
  | .closeSession | .store _
  | .openClient | .closeClient | .waitForOwnTail => .ok ()

theorem refusing_documented (_history : List (ReviewExchange LogReview.ReviewData))
    (request : Call LogReview.ReviewData) : Documented ⟨request, refusingAnswer request⟩ := by
  intro error raised
  cases request <;> cases raised <;> rfl

theorem review_kept_refused : ∃ (gathered : Option LogReview.ReviewData) (answers : List Text),
    endOf plainWordings nightSettings plainNarrative .log (fun _ => refusingAnswer)
      (.weekly 18000000000) =
      .ok (gathered.map ((logReview plainWordings).rowFor nightSettings plainNarrative answers)) ∧
    ledgerOf
      (exchangesOf plainWordings nightSettings plainNarrative .log (fun _ => refusingAnswer)
      (.weekly 18000000000)) =
      ⟨[gathered], answers, [],
        (gathered.map
        ((logReview plainWordings).rowFor nightSettings plainNarrative answers)).toList⟩ :=
  review_kept plainWordings nightSettings plainNarrative .log (.weekly 18000000000) refusing_documented

end SysadminAssistant.Monitor.WeeklyReviews
