import SysadminAssistant.Core.HeldNarratives
import SysadminAssistant.Library.EffectTrees
import SysadminAssistant.Library.LocalSteps

namespace SysadminAssistant.Core.Reviews

open Python Library

/-! A review's run as a tree of what it calls: `generate_review` and `run_weekly_review` of the
three reviews, the estate's GPU lease (`sysadmin/core/gpu_lease.py`), the client they infer through
(`sysadmin/core/llm_client.py`) and the sessions of `sysadmin/core/database.py`. -/

/-- A row of `disk_reviews`, `log_reviews` or `health_reviews`. -/
structure StoredReview (Data : Type) where
  periodDays : Int
  narrative : Text
  llmUsed : Bool
  modelUsed : Option Text
  confidence : Option Text
  stats : Data

inductive Call (Data : Type) where
  | openQueue | closeQueue
  | acquire (profile requester : Text) (maxHoldSeconds waitSeconds : Int)
  | release (lease : Int)
  | openSession | gather | commit | rollback | dispose | closeSession
  | store (row : StoredReview Data)
  | openClient | closeClient
  | waitForOwnTail | ensureGpuIdle
  | postChat (model : Text) (messages : List (Text × Text))

def Call.Answer {Data : Type} : Call Data → Type
  | .acquire _ _ _ _ => Int
  | .gather => Option Data
  | .postChat _ _ => Text
  | _ => Unit

/-- What a call may raise.  `cancelled` is not an `Exception`. -/
inductive Raised where
  | queueUnavailable | acquireDropped | acquireTimeout
  | gpuBusy
  | llama
  | http (status : Nat)
  | other
  | cancelled
deriving DecidableEq

abbrev Program (Data α : Type) := Tree (@Call.Answer Data) Raised α

abbrev ReviewWorld (Data : Type) := World (@Call.Answer Data) Raised

abbrev ReviewExchange (Data : Type) := Exchange (@Call.Answer Data) Raised

/-- The settings that a review reads. -/
structure Settings where
  briefingHour : Nat
  briefingMinute : Nat
  reviewLeaseMarginMinutes : Nat
  holdSeconds : Int
  model : Text

/-- One of the three reviews.  A review that is not held to the word limit has no `condense`. -/
structure Review (Data : Type) where
  requester : Text
  system : Text
  condense : Option Text
  prompt : Data → Text
  facts : Data → Text
  fallback : Data → Text
  periodDays : Data → Int
  confidence : Data → Option Text
  missingStatus : Nat
  routeCommits : Bool

def reviewProfile : Text := text "sysadmin-review"

/-- `wait_budget_seconds`: `timeOfDay` is the wall clock's, in microseconds. -/
def waitBudgetSeconds (settings : Settings) (timeOfDay : Int) : Option Int :=
  let deadline : Int :=
    (settings.briefingHour * 60 + settings.briefingMinute - settings.reviewLeaseMarginMinutes) *
      60 * 1000000
  let budget := (deadline - timeOfDay).tdiv 1000000
  if 0 < budget then some budget else none

variable {Data : Type}

def ask (request : Call Data) : Program Data request.Answer := Tree.perform request

/-- `acquire_review_lease`. -/
def acquireReviewLease (settings : Settings) (requester : Text) (timeOfDay : Int) :
    Program Data (Option Int) :=
  match waitBudgetSeconds settings timeOfDay with
  | none => .done none
  | some budget =>
    ((ask (.acquire reviewProfile requester settings.holdSeconds budget)).bind fun lease =>
        .done (some lease)).handling fun error =>
      if error = .queueUnavailable ∨ error = .acquireDropped ∨
        error = .acquireTimeout then some (.done none) else none

/-- The wait for this service's own tail, where a call follows one of ours. -/
def ownTail (followsOwnInference : Bool) : Program Data Unit :=
  if followsOwnInference then ask .waitForOwnTail else .done ()

/-- `ensure_gpu_idle`: is the card idle? -/
def gate : Program Data Bool :=
  ((ask .ensureGpuIdle).bind fun _ => .done true).handling fun error =>
    if error = .gpuBusy then some (.done false) else none

def chatMessages (prompt system : Text) : List (Text × Text) :=
  (if system = [] then [] else [(text "system", system)]) ++ [(text "user", prompt)]

/-- `post_chat` and `extract_content`; every `Exception` is no answer. -/
def chat (settings : Settings) (prompt system : Text) : Program Data (Option Text) :=
  ((ask (.postChat settings.model (chatMessages prompt system))).bind fun answer =>
    .done (some answer)).handling fun error =>
    if error = .cancelled then none else some (.done none)

/-- `LLMClient.generate`. -/
def generate (settings : Settings) (prompt system : Text)
    (gpuLeaseHeld followsOwnInference : Bool) : Program Data (Option Text) :=
  if gpuLeaseHeld then chat settings prompt system
  else do
    ownTail followsOwnInference
    let idle ← gate
    if idle then chat settings prompt system else .done none

/-- `hold_to_word_limit`, whose second answer is the client's. -/
def heldToWordLimit (settings : Settings) (tools : NarrativeTools)
    (instructions system prose : Text) (gpuLeaseHeld : Bool) : Program Data Text :=
  if wordCount prose ≤ narrativeWordLimit then .done prose
  else do
    let second ← generate settings (buildCondensePrompt instructions prose) system gpuLeaseHeld true
    .done (holdToWordLimit { tools with generate := fun _ => second } instructions system
      gpuLeaseHeld prose)

/-- The row that is stored for a narrative or for none. -/
def Review.row (review : Review Data) (settings : Settings) (data : Data)
    (narrative : Option Text) : StoredReview Data where
  periodDays := review.periodDays data
  narrative := match narrative with
    | some prose => review.facts data ++ text "\n\n" ++ prose
    | none => review.fallback data
  llmUsed := narrative.isSome
  modelUsed := if narrative.isSome then some settings.model else none
  confidence := review.confidence data
  stats := data

/-- The prose of a review whose first answer this is. -/
def Review.prose (review : Review Data) (settings : Settings) (tools : NarrativeTools)
    (answer : Text) (gpuLeaseHeld : Bool) : Program Data Text :=
  match review.condense with
  | none => .done (tools.stripMarkdown answer)
  | some instructions =>
    heldToWordLimit settings tools instructions review.system (tools.stripMarkdown answer) gpuLeaseHeld

/-- The narrative of a review, or `None` where the model was not heard. -/
def Review.narrative (review : Review Data) (settings : Settings) (tools : NarrativeTools) (data : Data)
    (gpuLeaseHeld : Bool) : Program Data (Option Text) := do
  match ← generate settings (review.prompt data) review.system gpuLeaseHeld false with
  | none => .done none
  | some answer => (review.prose settings tools answer gpuLeaseHeld).bind fun prose => .done (some prose)

/-- `generate_review`. -/
def Review.generateReview (review : Review Data) (settings : Settings) (tools : NarrativeTools)
    (gpuLeaseHeld : Bool) : Program Data (Option (StoredReview Data)) := do
  match ← (ask .gather) with
  | none => .done none
  | some data => do
    ask .commit
    ask .openClient
    let narrative ← (review.narrative settings tools data gpuLeaseHeld).ensuring (ask .closeClient)
    ask (.store (review.row settings data narrative))
    .done (some (review.row settings data narrative))

/-- `get_db_session` around a body: what the body raises, and what the commit raises, is rolled
back. -/
def inSession {α : Type} (body : Program Data α) : Program Data α := do
  ask .openSession
  ((body.bind fun value => (ask .commit).bind fun _ => .done value).handling fun error =>
    if error = .cancelled then none
    else some ((ask .rollback).bind fun _ => .raised error)).ensuring (ask .closeSession)

/-- `get_scheduler_session`, which disposes of its own engine too. -/
def inSchedulerSession {α : Type} (body : Program Data α) : Program Data α := do
  ask .openSession
  (((body.bind fun value => (ask .commit).bind fun _ => .done value).handling fun error =>
    if error = .cancelled then none
    else some ((ask .rollback).bind fun _ => .raised error)).ensuring (ask .dispose)).ensuring
      (ask .closeSession)

/-- `run_weekly_review`. -/
def Review.runWeeklyReview (review : Review Data) (settings : Settings) (tools : NarrativeTools)
    (timeOfDay : Int) : Program Data (Option (StoredReview Data)) := do
  ask .openQueue
  ((acquireReviewLease settings review.requester timeOfDay).bind fun lease =>
    (inSchedulerSession (review.generateReview settings tools lease.isSome)).ensuring
      (match lease with
        | some id => ask (.release id)
        | none => .done ())).ensuring (ask .closeQueue)

/-- What the route answers: a status where there was nothing to review, and a row that is there to
stay where the route commits it itself. -/
def Review.respond (review : Review Data) :
    Option (StoredReview Data) → Program Data (StoredReview Data)
  | none => .raised (.http review.missingStatus)
  | some row => if review.routeCommits then (ask .commit).bind fun _ => .done row else .done row

/-- `POST …/review/generate`. -/
def Review.generateRoute (review : Review Data) (settings : Settings) (tools : NarrativeTools) :
    Program Data (StoredReview Data) :=
  inSession ((review.generateReview settings tools false).bind review.respond)

/-! What a review may call when: a lease is given back once and last, no transaction is open while
the review waits or infers, and an inference has a lease or a gate that was just read idle. -/

inductive Lease where
  | none
  | held (id : Int)
  | givenBack
deriving DecidableEq

inductive Connection where
  | closed | idle | transaction
deriving DecidableEq

structure Watch where
  queueOpen : Bool
  lease : Lease
  session : Connection
  clientOpen : Bool
  idleRead : Bool
deriving DecidableEq

def Lease.isHeld : Lease → Bool
  | .held _ => true
  | _ => false

def Watch.permits (watch : Watch) : Call Data → Bool
  | .openQueue => !watch.queueOpen && watch.lease = .none && watch.session = .closed
  | .closeQueue => watch.queueOpen && !watch.lease.isHeld && watch.session = .closed
  | .acquire _ _ _ wait => watch.queueOpen && watch.lease = .none && watch.session =
      .closed && 0 < wait
  | .release lease => watch.queueOpen && watch.lease = .held lease && watch.session = .closed
  | .openSession => watch.session = .closed
  | .gather => watch.session = .idle && !watch.clientOpen
  | .store _ => watch.session = .idle && !watch.clientOpen
  | .commit | .rollback | .dispose | .closeSession => watch.session ≠ .closed && !watch.clientOpen
  | .openClient => watch.session = .idle && !watch.clientOpen
  | .closeClient => watch.session = .idle && watch.clientOpen
  | .waitForOwnTail | .ensureGpuIdle => watch.session = .idle && watch.clientOpen &&
      !watch.lease.isHeld
  | .postChat _ _ => watch.session = .idle && watch.clientOpen &&
      (watch.lease.isHeld || watch.idleRead)

/-- What a call leaves.  A commit or a rollback that raised may have left its transaction open. -/
def Watch.after (watch : Watch) : (request : Call Data) → Except Raised request.Answer → Watch
  | .openQueue, .ok _ => { watch with queueOpen := true, idleRead := false }
  | .closeQueue, _ => { watch with queueOpen := false, idleRead := false }
  | .acquire _ _ _ _, .ok lease => { watch with lease := .held lease, idleRead := false }
  | .release _, _ => { watch with lease := .givenBack, idleRead := false }
  | .openSession, .ok _ => { watch with session := .idle, idleRead := false }
  | .gather, _ => { watch with session := .transaction, idleRead := false }
  | .store _, _ => { watch with session := .transaction, idleRead := false }
  | .commit, .ok _ => { watch with session := .idle, idleRead := false }
  | .rollback, .ok _ => { watch with session := .idle, idleRead := false }
  | .closeSession, _ => { watch with session := .closed, idleRead := false }
  | .openClient, .ok _ => { watch with clientOpen := true, idleRead := false }
  | .closeClient, _ => { watch with clientOpen := false, idleRead := false }
  | .ensureGpuIdle, .ok _ => { watch with idleRead := true }
  | _, _ => { watch with idleRead := false }

def Watch.step (watch : Watch) (exchange : ReviewExchange Data) : Option Watch :=
  if watch.permits exchange.request then some (watch.after exchange.request exchange.answer) else none

/-- The watch accepts a program that starts here, whatever it is answered, and it ends as owed. -/
def Watched {α : Type} (program : Program Data α) (watch : Watch)
    (owed : Except Raised α → Watch → Prop) : Prop :=
  program.Respects Watch.step (fun _ _ => True) watch owed

/-! The leases of accepted exchanges. -/

def grantedBy : ReviewExchange Data → Option Int
  | ⟨.acquire _ _ _ _, .ok lease⟩ => some lease
  | _ => none

def releasedBy : ReviewExchange Data → Option Int
  | ⟨.release lease, _⟩ => some lease
  | _ => none

def granted (exchanges : List (ReviewExchange Data)) : List Int := exchanges.filterMap grantedBy

def released (exchanges : List (ReviewExchange Data)) : List Int := exchanges.filterMap releasedBy

/-- What has been granted and released when the lease is as it is. -/
def Lease.Accounts : Lease → List Int → List Int → Prop
  | .none, grants, releases => grants = [] ∧ releases = []
  | .held lease, grants, releases => grants = [lease] ∧ releases = []
  | .givenBack, grants, releases => releases = grants ∧ grants.length = 1

theorem Lease.Accounts.step {watch next : Watch} {exchange : ReviewExchange Data}
    {grants releases : List Int} (accounts : watch.lease.Accounts grants releases)
    (stepped : watch.step exchange = some next) :
    next.lease.Accounts (grants ++ (grantedBy exchange).toList)
      (releases ++ (releasedBy exchange).toList) := by
  obtain ⟨request, answer⟩ := exchange
  simp only [Watch.step] at stepped
  split at stepped
  · rename_i permitted
    cases stepped
    cases request with
    | acquire profile requester hold wait =>
      have unheld : watch.lease = .none := by
        simp only [Watch.permits, Bool.and_eq_true, decide_eq_true_eq] at permitted
        exact permitted.1.1.2
      rw [unheld] at accounts
      obtain ⟨rfl, rfl⟩ := accounts
      cases answer with
      | ok lease => exact ⟨rfl, rfl⟩
      | error _ =>
        show watch.lease.Accounts _ _
        rw [unheld]
        exact ⟨rfl, rfl⟩
    | release lease =>
      have held : watch.lease = .held lease := by
        simp only [Watch.permits, Bool.and_eq_true, decide_eq_true_eq] at permitted
        exact permitted.1.2
      rw [held] at accounts
      obtain ⟨rfl, rfl⟩ := accounts
      cases answer <;> exact ⟨rfl, rfl⟩
    | openQueue | closeQueue | openSession | gather | commit | rollback | dispose | closeSession
    | store _ | openClient
    | closeClient | waitForOwnTail | ensureGpuIdle | postChat _ _ =>
      cases answer <;> simpa [grantedBy, releasedBy, Watch.after] using accounts
  · cases stepped

theorem Lease.Accounts.run {watch final : Watch} {exchanges : List (ReviewExchange Data)}
    {grants releases : List Int} (accounts : watch.lease.Accounts grants releases)
    (ran : exchanges.foldlM Watch.step watch = some final) :
    final.lease.Accounts (grants ++ granted exchanges) (releases ++ released exchanges) := by
  induction exchanges generalizing watch grants releases with
  | nil =>
    rw [List.foldlM_nil] at ran
    cases ran
    simpa [granted, released] using accounts
  | cons exchange rest ih =>
    obtain ⟨next, stepped, later⟩ := foldlM_cons_some.mp ran
    have onward := ih (accounts.step stepped) later
    have consGranted : granted (exchange :: rest) = (grantedBy exchange).toList ++ granted rest := by
      rw [granted, granted, List.filterMap_cons]
      cases grantedBy exchange <;> rfl
    have consReleased : released (exchange :: rest) = (releasedBy exchange).toList ++
        released rest := by
      rw [released, released, List.filterMap_cons]
      cases releasedBy exchange <;> rfl
    rw [consGranted, consReleased, ← List.append_assoc, ← List.append_assoc]
    exact onward

section

variable {α β : Type} {watch : Watch}

theorem watched_ask {request : Call Data} {owed : Except Raised request.Answer → Watch → Prop}
    (permitted : watch.permits request = true)
    (owes : ∀ answer, owed answer (watch.after request answer)) :
    Watched (ask request) watch owed :=
  Tree.respects_perform.mpr fun answer _ => ⟨_, if_pos permitted, owes answer⟩

theorem watched_bind {program : Program Data α} {onward : α → Program Data β}
    {owed : Except Raised β → Watch → Prop}
    (first : Watched program watch (onOutcome (fun value after => Watched (onward value) after owed)
      fun error after => owed (.error error) after)) : Watched (program >>= onward) watch owed :=
  Tree.respects_bind.mpr first

theorem watched_handling {program : Program Data α} {clauses : Raised → Option (Program Data α)}
    {owed : Except Raised α → Watch → Prop}
    (body : Watched program watch (onOutcome (fun value after => owed (.ok value) after)
      fun error after => Watched ((clauses error).getD (.raised error)) after owed)) :
    Watched (program.handling clauses) watch owed :=
  Tree.respects_handling.mpr body

theorem watched_ensuring {program : Program Data α} {cleanup : Program Data Unit}
    {owed : Except Raised α → Watch → Prop}
    (body : Watched program watch fun outcome after => Watched cleanup after
      (onOutcome (fun _ => owed outcome) fun error => owed (.error error))) :
    Watched (program.ensuring cleanup) watch owed :=
  Tree.respects_ensuring.mpr body

theorem Watched.imp {program : Program Data α} {owed weaker : Except Raised α → Watch → Prop}
    (watched : Watched program watch owed)
    (implies : ∀ outcome after, owed outcome after → weaker outcome after) :
    Watched program watch weaker :=
  Tree.Respects.mono watched implies

end

variable {settings : Settings} {tools : NarrativeTools} {review : Review Data}

/-- A connection at rest with the client open: whether the gate was just read is all that changes. -/
def inferring (queueOpen : Bool) (lease : Lease) (idleRead : Bool) : Watch :=
  ⟨queueOpen, lease, .idle, true, idleRead⟩

def StillInferring {α : Type} (queueOpen : Bool) (lease : Lease) : Except Raised α → Watch → Prop :=
  fun _ after => ∃ idleRead, after = inferring queueOpen lease idleRead

section

variable {queueOpen idleRead : Bool} {lease : Lease}

theorem gate_watched (unheld : lease.isHeld = false) :
    Watched (gate : Program Data Bool) (inferring queueOpen lease idleRead)
      (onOutcome (fun idle after => after = inferring queueOpen lease idle)
        fun _ after => after = inferring queueOpen lease false) := by
  refine watched_handling (watched_bind (watched_ask (by simp [inferring, Watch.permits, unheld]) ?_))
  intro answer
  cases answer with
  | ok _ => exact rfl
  | error error =>
    show Watched _ (inferring queueOpen lease false) _
    by_cases busy : error = .gpuBusy
    · rw [if_pos busy]
      exact rfl
    · rw [if_neg busy]
      exact rfl

theorem chat_watched (prompt system : Text) (cleared : lease.isHeld = true ∨ idleRead = true) :
    Watched (chat settings prompt system : Program Data (Option Text))
      (inferring queueOpen lease idleRead) (StillInferring queueOpen lease) := by
  refine watched_handling
    (watched_bind (watched_ask (by simpa [inferring, Watch.permits] using cleared) ?_))
  intro answer
  cases answer with
  | ok _ => exact ⟨false, rfl⟩
  | error error =>
    show Watched _ (inferring queueOpen lease false) _
    by_cases cancelled : error = .cancelled
    · rw [if_pos cancelled]
      exact ⟨false, rfl⟩
    · rw [if_neg cancelled]
      exact ⟨false, rfl⟩

theorem gatedChat_watched (prompt system : Text) (unheld : lease.isHeld = false) :
    Watched
      (gate >>= fun idle => if idle then chat settings prompt system
      else .done none : Program Data (Option Text))
      (inferring queueOpen lease idleRead) (StillInferring queueOpen lease) := by
  refine watched_bind ((gate_watched unheld).imp ?_)
  intro outcome after reached
  cases outcome with
  | error error => exact ⟨false, reached⟩
  | ok idle =>
    cases reached
    cases idle with
    | true => exact chat_watched prompt system (Or.inr rfl)
    | false => exact ⟨false, rfl⟩

theorem generate_watched (prompt system : Text) (followsOwnInference : Bool) :
    Watched
      (generate settings prompt system lease.isHeld followsOwnInference : Program Data
      (Option Text)) (inferring queueOpen lease idleRead) (StillInferring queueOpen lease) := by
  by_cases held : lease.isHeld = true
  · rw [generate, if_pos held]
    exact chat_watched prompt system (Or.inl held)
  · have unheld : lease.isHeld = false := Bool.eq_false_of_not_eq_true held
    rw [generate, if_neg held]
    refine watched_bind ?_
    cases followsOwnInference with
    | false => exact gatedChat_watched prompt system unheld
    | true =>
      refine watched_ask (by simp [inferring, Watch.permits, unheld]) ?_
      intro answer
      cases answer with
      | ok _ => exact gatedChat_watched prompt system unheld
      | error error => exact ⟨false, rfl⟩

theorem narrative_watched (data : Data) :
    Watched (review.narrative settings tools data lease.isHeld) (inferring queueOpen lease idleRead)
      (StillInferring queueOpen lease) := by
  refine watched_bind ((generate_watched _ _ _).imp ?_)
  intro outcome after reached
  obtain ⟨read, rfl⟩ := reached
  cases outcome with
  | error error => exact ⟨read, rfl⟩
  | ok answer =>
    cases answer with
    | none => exact ⟨read, rfl⟩
    | some answer =>
      refine watched_bind ?_
      show Watched (review.prose settings tools answer lease.isHeld) _ _
      cases condensing : review.condense with
      | none =>
        simp only [Review.prose, condensing]
        exact ⟨read, rfl⟩
      | some instructions =>
        simp only [Review.prose, condensing, heldToWordLimit]
        split
        · exact ⟨read, rfl⟩
        · refine watched_bind ((generate_watched _ _ _).imp ?_)
          intro second later reached
          obtain ⟨readAgain, rfl⟩ := reached
          cases second with
          | ok _ => exact ⟨readAgain, rfl⟩
          | error _ => exact ⟨readAgain, rfl⟩

end

/-- No client is open; a session may be. -/
def resting (queueOpen : Bool) (lease : Lease) (session : Connection) : Watch :=
  ⟨queueOpen, lease, session, false, false⟩

/-- What a body leaves in its session. -/
def InSession {α : Type} (queueOpen : Bool) (lease : Lease) : Except Raised α → Watch → Prop :=
  fun _ after => ∃ session, session ≠ .closed ∧ after = resting queueOpen lease session

section

variable {queueOpen : Bool} {lease : Lease}

theorem store_watched (row : StoredReview Data) :
    Watched (do ask (.store row); .done (some row) : Program Data (Option (StoredReview Data)))
      (resting queueOpen lease .idle) (InSession queueOpen lease) := by
  refine watched_bind (watched_ask (by simp [resting, Watch.permits]) ?_)
  intro answer
  cases answer with
  | ok _ => exact ⟨.transaction, by simp, rfl⟩
  | error _ => exact ⟨.transaction, by simp, rfl⟩

theorem narrated_watched (data : Data) :
    Watched ((review.narrative settings tools data lease.isHeld).ensuring (ask .closeClient))
      (inferring queueOpen lease false) fun _ after => after = resting queueOpen lease .idle := by
  refine watched_ensuring ((narrative_watched data).imp ?_)
  intro outcome after reached
  obtain ⟨read, rfl⟩ := reached
  refine watched_ask (by simp [inferring, Watch.permits]) ?_
  intro answer
  cases answer with
  | ok _ => exact rfl
  | error _ => exact rfl

theorem generateReview_watched :
    Watched (review.generateReview settings tools lease.isHeld) (resting queueOpen lease .idle)
      (InSession queueOpen lease) := by
  refine watched_bind (watched_ask (by simp [resting, Watch.permits]) ?_)
  intro gathered
  cases gathered with
  | error _ => exact ⟨.transaction, by simp, rfl⟩
  | ok found =>
    cases found with
    | none => exact ⟨.transaction, by simp, rfl⟩
    | some data =>
      refine watched_bind (watched_ask (by simp [resting, Watch.permits, Watch.after]) ?_)
      intro committed
      cases committed with
      | error _ => exact ⟨.transaction, by simp, rfl⟩
      | ok _ =>
        refine watched_bind (watched_ask (by simp [resting, Watch.permits, Watch.after]) ?_)
        intro opened
        cases opened with
        | error _ => exact ⟨.idle, by simp, rfl⟩
        | ok _ =>
          refine watched_bind ((narrated_watched data).imp ?_)
          intro outcome after reached
          cases reached
          cases outcome with
          | ok narrative => exact store_watched _
          | error _ => exact ⟨.idle, by simp, rfl⟩

end

section

variable {α : Type} {queueOpen : Bool} {lease : Lease} {body : Program Data α}

theorem settled_watched
    (inside : Watched body (resting queueOpen lease .idle) (InSession queueOpen lease)) :
    Watched ((body.bind fun value => (ask .commit).bind fun _ => .done value).handling fun error =>
        if error = .cancelled then none else some ((ask .rollback).bind fun _ => .raised error))
      (resting queueOpen lease .idle) (InSession queueOpen lease) := by
  have rolledBack : ∀ error session, session ≠ Connection.closed →
      Watched ((if error = Raised.cancelled then none
        else some ((ask .rollback).bind fun _ => .raised error)).getD
        (.raised error) : Program Data α) (resting queueOpen lease session)
          (InSession queueOpen lease) := by
    intro error session opened
    by_cases cancelled : error = .cancelled
    · rw [if_pos cancelled]
      exact ⟨session, opened, rfl⟩
    · rw [if_neg cancelled]
      refine watched_bind (watched_ask (by simp [resting, Watch.permits, opened]) ?_)
      intro answer
      cases answer with
      | ok _ => exact ⟨.idle, by simp, rfl⟩
      | error _ => exact ⟨session, opened, rfl⟩
  refine watched_handling (watched_bind (inside.imp ?_))
  intro outcome after reached
  obtain ⟨session, opened, rfl⟩ := reached
  cases outcome with
  | error error => exact rolledBack error session opened
  | ok value =>
    refine watched_bind (watched_ask (by simp [resting, Watch.permits, opened]) ?_)
    intro answer
    cases answer with
    | ok _ => exact ⟨.idle, by simp, rfl⟩
    | error error => exact rolledBack error session opened

theorem closed_watched {session : Connection} (opened : session ≠ .closed)
    {owed : Except Raised Unit → Watch → Prop}
    (owes : ∀ answer, owed answer (resting queueOpen lease .closed)) :
    Watched (ask .closeSession : Program Data Unit) (resting queueOpen lease session) owed := by
  refine watched_ask (by simp [resting, Watch.permits, opened]) ?_
  intro answer
  cases answer with
  | ok _ => exact owes _
  | error _ => exact owes _

theorem inSession_watched
    (inside : Watched body (resting queueOpen lease .idle) (InSession queueOpen lease)) :
    Watched (inSession body) (resting queueOpen lease .closed) fun _ after =>
      after = resting queueOpen lease .closed := by
  refine watched_bind (watched_ask (by simp [resting, Watch.permits]) ?_)
  intro answer
  cases answer with
  | error _ => exact rfl
  | ok _ =>
    refine watched_ensuring ((settled_watched inside).imp ?_)
    intro outcome after reached
    obtain ⟨session, opened, rfl⟩ := reached
    refine closed_watched opened ?_
    intro closing
    cases closing <;> exact rfl

theorem inSchedulerSession_watched
    (inside : Watched body (resting queueOpen lease .idle) (InSession queueOpen lease)) :
    Watched (inSchedulerSession body) (resting queueOpen lease .closed)
      fun _ after => after = resting queueOpen lease .closed := by
  refine watched_bind (watched_ask (by simp [resting, Watch.permits]) ?_)
  intro answer
  cases answer with
  | error _ => exact rfl
  | ok _ =>
    refine watched_ensuring (watched_ensuring ((settled_watched inside).imp ?_))
    intro outcome after reached
    obtain ⟨session, opened, rfl⟩ := reached
    refine watched_ask (by simp [resting, Watch.permits, opened]) ?_
    intro disposed
    have closes : ∀ ended : Except Raised α,
        Watched (ask .closeSession : Program Data Unit) (resting queueOpen lease session)
        (onOutcome (fun _ after => after = resting queueOpen lease .closed)
          fun _ after => after = resting queueOpen lease .closed) := by
      intro ended
      refine closed_watched opened ?_
      intro closing
      cases closing <;> exact rfl
    cases disposed with
    | ok _ => exact closes outcome
    | error error => exact closes (.error error)

end

/-- Everything that was opened is closed, and a lease that was granted was given back. -/
structure Watch.Quiet (watch : Watch) : Prop where
  queue : watch.queueOpen = false
  lease : watch.lease.isHeld = false
  session : watch.session = .closed
  client : watch.clientOpen = false

def Watch.start : Watch := resting false .none .closed

theorem leases_of_quiet {watch : Watch} {exchanges : List (ReviewExchange Data)}
    (ran : exchanges.foldlM Watch.step Watch.start = some watch) (quiet : watch.Quiet) :
    released exchanges = granted exchanges ∧ (granted exchanges).length ≤ 1 := by
  have started : Watch.start.lease.Accounts [] [] := ⟨rfl, rfl⟩
  have accounts := started.run ran
  have unheld := quiet.lease
  cases lease : watch.lease with
  | none =>
    rw [lease] at accounts
    obtain ⟨noGrant, noRelease⟩ := accounts
    rw [List.nil_append] at noGrant noRelease
    rw [noGrant, noRelease]
    exact ⟨rfl, Nat.zero_le 1⟩
  | held id =>
    rw [lease] at unheld
    cases unheld
  | givenBack =>
    rw [lease] at accounts
    exact ⟨accounts.1, accounts.2.le⟩

theorem waitBudget_positive {timeOfDay budget : Int}
    (waits : waitBudgetSeconds settings timeOfDay = some budget) : 0 < budget := by
  simp only [waitBudgetSeconds] at waits
  split at waits
  · rename_i positive
    cases waits
    exact positive
  · cases waits

theorem acquire_watched (requester : Text) (timeOfDay : Int) :
    Watched (acquireReviewLease settings requester timeOfDay : Program Data (Option Int))
      (resting true .none .closed)
      (onOutcome (fun granted after => after = resting true (granted.elim .none .held) .closed)
        fun _ after => after = resting true .none .closed) := by
  rw [acquireReviewLease]
  cases waits : waitBudgetSeconds settings timeOfDay with
  | none => exact rfl
  | some budget =>
    refine watched_handling (watched_bind (watched_ask ?_ ?_))
    · simp [resting, Watch.permits, waitBudget_positive waits]
    · intro answer
      cases answer with
      | ok lease => exact rfl
      | error error =>
        show Watched _ (resting true .none .closed) _
        split
        · exact rfl
        · exact rfl

/-- `run_weekly_review` ends quiet, however it ends. -/
theorem runWeeklyReview_watched (timeOfDay : Int) :
    Watched (review.runWeeklyReview settings tools timeOfDay) .start fun _ after => after.Quiet := by
  refine watched_bind (watched_ask rfl ?_)
  intro answer
  cases answer with
  | error _ => exact ⟨rfl, rfl, rfl, rfl⟩
  | ok _ =>
    have closes : ∀ (lease : Lease), lease.isHeld = false →
        ∀ outcome : Except Raised (Option (StoredReview Data)),
        Watched (ask .closeQueue : Program Data Unit) (resting true lease .closed)
          (onOutcome (fun _ after => after.Quiet) fun _ after => after.Quiet) := by
      intro lease unheld outcome
      refine watched_ask (by simp [resting, Watch.permits, unheld]) ?_
      intro answer
      cases answer with
      | ok _ => exact ⟨rfl, unheld, rfl, rfl⟩
      | error _ => exact ⟨rfl, unheld, rfl, rfl⟩
    refine watched_ensuring (watched_bind ((acquire_watched review.requester timeOfDay).imp ?_))
    intro outcome after reached
    cases outcome with
    | error error =>
      cases reached
      exact closes .none rfl (.error error)
    | ok granted =>
      cases reached
      refine watched_ensuring ?_
      cases granted with
      | none =>
        have inside : Watched (review.generateReview settings tools false) (resting true .none .idle)
          (InSession true .none) := generateReview_watched
        refine (inSchedulerSession_watched inside).imp ?_
        intro result later ended
        cases ended
        exact closes .none rfl result
      | some lease =>
        have inside : Watched (review.generateReview settings tools (Lease.held lease).isHeld)
          (resting true (.held lease) .idle) (InSession true (.held lease)) := generateReview_watched
        refine (inSchedulerSession_watched inside).imp ?_
        intro result later ended
        cases ended
        refine watched_ask (by simp [resting, Watch.permits]) ?_
        intro released
        cases released with
        | ok _ => exact closes .givenBack rfl result
        | error error => exact closes .givenBack rfl (.error error)

/-- `POST …/review/generate` ends quiet too. -/
theorem generateRoute_watched :
    Watched (review.generateRoute settings tools) .start fun _ after => after.Quiet := by
  have inside : Watched ((review.generateReview settings tools false).bind review.respond)
      (resting false .none .idle) (InSession false .none) := by
    have generated : Watched (review.generateReview settings tools false) (resting false .none .idle)
      (InSession false .none) := generateReview_watched
    refine watched_bind (generated.imp ?_)
    intro outcome after reached
    obtain ⟨session, opened, rfl⟩ := reached
    cases outcome with
    | error _ => exact ⟨session, opened, rfl⟩
    | ok stored =>
      cases stored with
      | none => exact ⟨session, opened, rfl⟩
      | some row =>
        show Watched (review.respond (some row)) _ _
        rw [Review.respond]
        split
        · refine watched_bind (watched_ask (by simp [resting, Watch.permits, opened]) ?_)
          intro answer
          cases answer with
          | ok _ => exact ⟨.idle, by simp, rfl⟩
          | error _ => exact ⟨session, opened, rfl⟩
        · exact ⟨session, opened, rfl⟩
  refine (inSession_watched inside).imp ?_
  intro outcome after ended
  cases ended
  exact ⟨rfl, rfl, rfl, rfl⟩

end SysadminAssistant.Core.Reviews
