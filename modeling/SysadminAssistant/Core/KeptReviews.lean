import SysadminAssistant.Core.WatchedReviews

namespace SysadminAssistant.Core.Reviews

open Python Library

/-! Which row a review leaves behind: where the database and the clients answer, it is settled by
what was gathered and by what the model said, whatever the queue and the card do. -/

variable {Data : Type}

/-- What the calls are documented to raise, on a day when the database and the clients answer. -/
def Call.mayRaise : Call Data → Raised → Bool
  | .acquire _ _ _ _, error => error = .queueUnavailable || error = .acquireDropped || error =
      .acquireTimeout
  | .ensureGpuIdle, error => error = .gpuBusy
  | .postChat _ _, error => error ≠ .cancelled
  | _, _ => false

def Documented (exchange : ReviewExchange Data) : Prop :=
  ∀ error, exchange.answer = .error error → exchange.request.mayRaise error = true

/-- What was gathered, what the model said, and the rows: those that wait for a commit, and those
kept. -/
structure Ledger (Data : Type) where
  gathered : List (Option Data)
  answers : List Text
  pending : List (StoredReview Data)
  kept : List (StoredReview Data)

def Ledger.empty : Ledger Data := ⟨[], [], [], []⟩

def Ledger.record (ledger : Ledger Data) :
    (request : Call Data) → Except Raised request.Answer → Ledger Data
  | .gather, .ok found => { ledger with gathered := ledger.gathered ++ ([found] : List (Option Data)) }
  | .postChat _ _, .ok answer => { ledger with answers := ledger.answers ++ ([answer] : List Text) }
  | .store row, .ok _ => { ledger with pending := ledger.pending ++ [row] }
  | .commit, .ok _ => { ledger with kept := ledger.kept ++ ledger.pending, pending := [] }
  | .rollback, .ok _ => { ledger with pending := [] }
  | .closeSession, _ => { ledger with pending := [] }
  | _, _ => ledger

def Ledger.step (ledger : Ledger Data) (exchange : ReviewExchange Data) : Option (Ledger Data) :=
  some (ledger.record exchange.request exchange.answer)

def ledgerOf (exchanges : List (ReviewExchange Data)) : Ledger Data :=
  exchanges.foldl (fun ledger exchange => ledger.record exchange.request exchange.answer) .empty

theorem foldlM_step (exchanges : List (ReviewExchange Data)) (ledger : Ledger Data) :
    exchanges.foldlM Ledger.step ledger =
      some (exchanges.foldl (fun ledger exchange => ledger.record exchange.request exchange.answer)
        ledger) := by
  induction exchanges generalizing ledger with
  | nil => rfl
  | cons exchange rest ih => exact ih _

/-- The program ends as owed wherever its calls are answered as documented. -/
def Recorded {α : Type} (program : Program Data α) (ledger : Ledger Data)
    (owed : Except Raised α → Ledger Data → Prop) : Prop :=
  program.Respects Ledger.step (fun _ => Documented) ledger owed

section

variable {α β : Type} {ledger : Ledger Data}

theorem recorded_ask {request : Call Data} {owed : Except Raised request.Answer → Ledger Data → Prop}
    (answered : ∀ answer, owed (.ok answer) (ledger.record request (.ok answer)))
    (failed : ∀ error, request.mayRaise error = true →
    owed (.error error) (ledger.record request (.error error))) :
    Recorded (ask request) ledger owed := by
  refine Tree.respects_perform.mpr fun answer documented => ⟨_, rfl, ?_⟩
  cases answer with
  | ok answer => exact answered answer
  | error error => exact failed error (documented error rfl)

theorem recorded_sure {request : Call Data} {owed : Except Raised request.Answer → Ledger Data → Prop}
    (sure : ∀ error, request.mayRaise error = false)
    (answered : ∀ answer, owed (.ok answer) (ledger.record request (.ok answer))) :
    Recorded (ask request) ledger owed := by
  refine recorded_ask answered fun error raises => ?_
  rw [sure] at raises
  cases raises

theorem recorded_bind {program : Program Data α} {onward : α → Program Data β}
    {owed : Except Raised β → Ledger Data → Prop}
    (first : Recorded program ledger (onOutcome (fun value after => Recorded (onward value) after owed)
      fun error after => owed (.error error) after)) : Recorded (program >>= onward) ledger owed :=
  Tree.respects_bind.mpr first

theorem recorded_handling {program : Program Data α} {clauses : Raised → Option (Program Data α)}
    {owed : Except Raised α → Ledger Data → Prop}
    (body : Recorded program ledger (onOutcome (fun value after => owed (.ok value) after)
      fun error after => Recorded ((clauses error).getD (.raised error)) after owed)) :
    Recorded (program.handling clauses) ledger owed :=
  Tree.respects_handling.mpr body

theorem recorded_ensuring {program : Program Data α} {cleanup : Program Data Unit}
    {owed : Except Raised α → Ledger Data → Prop}
    (body : Recorded program ledger fun outcome after => Recorded cleanup after
      (onOutcome (fun _ => owed outcome) fun error => owed (.error error))) :
    Recorded (program.ensuring cleanup) ledger owed :=
  Tree.respects_ensuring.mpr body

theorem Recorded.imp {program : Program Data α} {owed weaker : Except Raised α → Ledger Data → Prop}
    (recorded : Recorded program ledger owed)
    (implies : ∀ outcome after, owed outcome after → weaker outcome after) :
    Recorded program ledger weaker :=
  Tree.Respects.mono recorded implies

end

variable {settings : Settings} {tools : NarrativeTools} {review : Review Data}

def Ledger.hearing (ledger : Ledger Data) (answers : List Text) : Ledger Data :=
  { ledger with answers := ledger.answers ++ answers }

/-- The narrative that the model's answers make. -/
def Review.told (review : Review Data) (tools : NarrativeTools) : List Text → Option Text
  | [] => none
  | first :: rest => some (match review.condense with
    | none => tools.stripMarkdown first
    | some instructions =>
      holdToWordLimit { tools with generate := fun _ => rest.head? } instructions
        review.system false (tools.stripMarkdown first))

section

variable {ledger : Ledger Data}

theorem chat_recorded (prompt system : Text) :
    Recorded (chat settings prompt system) ledger fun outcome after =>
      ∃ answer : Option Text, outcome = .ok answer ∧ after = ledger.hearing answer.toList := by
  refine recorded_handling (recorded_bind (recorded_ask ?_ ?_))
  · intro answer
    exact ⟨some answer, rfl, rfl⟩
  · intro error raises
    have going : error ≠ .cancelled := by simpa [Call.mayRaise] using raises
    show Recorded _ ledger _
    rw [if_neg going]
    exact ⟨none, rfl, by simp [Ledger.hearing]⟩

theorem gate_recorded : Recorded (gate : Program Data Bool) ledger fun outcome after =>
    ∃ idle, outcome = .ok idle ∧ after = ledger := by
  refine recorded_handling (recorded_bind (recorded_ask ?_ ?_))
  · intro _
    exact ⟨true, rfl, rfl⟩
  · intro error raises
    have busy : error = .gpuBusy := by simpa [Call.mayRaise] using raises
    show Recorded _ ledger _
    rw [if_pos busy]
    exact ⟨false, rfl, rfl⟩

theorem ownTail_recorded (followsOwnInference : Bool) :
    Recorded (ownTail followsOwnInference : Program Data Unit) ledger fun outcome after =>
      outcome = .ok () ∧ after = ledger := by
  cases followsOwnInference with
  | false => exact ⟨rfl, rfl⟩
  | true => exact recorded_sure (fun _ => rfl) fun _ => ⟨rfl, rfl⟩

theorem generate_recorded (prompt system : Text) (gpuLeaseHeld followsOwnInference : Bool) :
    Recorded
      (generate settings prompt system gpuLeaseHeld followsOwnInference) ledger fun outcome after =>
      ∃ answer : Option Text, outcome = .ok answer ∧ after = ledger.hearing answer.toList := by
  rw [generate]
  split
  · exact chat_recorded prompt system
  · refine recorded_bind ((ownTail_recorded followsOwnInference).imp ?_)
    intro outcome after reached
    obtain ⟨rfl, rfl⟩ := reached
    refine recorded_bind (gate_recorded.imp ?_)
    intro outcome later read
    obtain ⟨idle, rfl, rfl⟩ := read
    cases idle with
    | true => exact chat_recorded prompt system
    | false => exact ⟨none, rfl, by simp [Ledger.hearing]⟩

theorem Ledger.hearing_hearing (left right : List Text) :
    (ledger.hearing left).hearing right = ledger.hearing (left ++ right) := by
  simp [Ledger.hearing, List.append_assoc]

theorem prose_recorded (answer : Text) (gpuLeaseHeld : Bool) :
    Recorded (review.prose settings tools answer gpuLeaseHeld) ledger fun outcome after =>
      ∃ rest, after = ledger.hearing rest ∧ outcome.map some = .ok
        (review.told tools (answer :: rest)) := by
  cases condensing : review.condense with
  | none =>
    simp only [Review.prose, condensing]
    exact ⟨[], by simp [Ledger.hearing], by simp [Review.told, condensing, Except.map]⟩
  | some instructions =>
    simp only [Review.prose, condensing, heldToWordLimit]
    split
    · rename_i short
      exact ⟨[],
        by simp [Ledger.hearing], by simp [Review.told, condensing, Except.map, holdToWordLimit, short]⟩
    · refine recorded_bind ((generate_recorded _ _ _ _).imp ?_)
      intro outcome after reached
      obtain ⟨second, rfl, rfl⟩ := reached
      refine ⟨second.toList, rfl, ?_⟩
      have said : second.toList.head? = second := by cases second <;> rfl
      simp only [Review.told, condensing, Except.map, said]
      rfl

theorem narrative_recorded (data : Data) (gpuLeaseHeld : Bool) :
    Recorded (review.narrative settings tools data gpuLeaseHeld) ledger fun outcome after =>
      ∃ answers, after = ledger.hearing answers ∧ outcome = .ok (review.told tools answers) := by
  refine recorded_bind ((generate_recorded _ _ _ _).imp ?_)
  intro outcome after reached
  obtain ⟨answer, rfl, rfl⟩ := reached
  cases answer with
  | none => exact ⟨[], rfl, rfl⟩
  | some first =>
    refine recorded_bind ((prose_recorded first gpuLeaseHeld).imp ?_)
    intro outcome later told
    obtain ⟨rest, rfl, same⟩ := told
    cases outcome with
    | ok prose =>
      refine ⟨first :: rest, Ledger.hearing_hearing [first] rest, ?_⟩
      exact same
    | error error => cases same

end

/-- The row that a review stores, by what was gathered and what the model said. -/
def Review.rowFor (review : Review Data) (settings : Settings) (tools : NarrativeTools)
    (answers : List Text) (data : Data) : StoredReview Data :=
  review.row settings data (review.told tools answers)

/-- What a review has done when it returns, with its row still to be committed. -/
def Review.Generated (review : Review Data) (settings : Settings) (tools : NarrativeTools)
    (outcome : Except Raised (Option (StoredReview Data))) (after : Ledger Data) : Prop :=
  ∃ (gathered : Option Data) (answers : List Text),
    outcome = .ok (gathered.map (review.rowFor settings tools answers)) ∧
    after = ⟨[gathered], answers, (gathered.map (review.rowFor settings tools answers)).toList, []⟩

theorem generateReview_recorded (gpuLeaseHeld : Bool) :
    Recorded (review.generateReview settings tools gpuLeaseHeld) .empty
      (review.Generated settings tools) := by
  refine recorded_bind (recorded_sure (fun _ => rfl) ?_)
  intro found
  cases found with
  | none => exact ⟨none, [], rfl, rfl⟩
  | some data =>
    refine recorded_bind (recorded_sure (fun _ => rfl) fun _ => ?_)
    refine recorded_bind (recorded_sure (fun _ => rfl) fun _ => ?_)
    refine recorded_bind (recorded_ensuring ((narrative_recorded data gpuLeaseHeld).imp ?_))
    intro outcome after told
    obtain ⟨answers, rfl, rfl⟩ := told
    refine recorded_sure (fun _ => rfl) fun _ => ?_
    refine recorded_bind (recorded_sure (fun _ => rfl) fun _ => ?_)
    exact ⟨some data, answers, rfl, rfl⟩

/-- What is kept of a session that returned. -/
def Review.Kept (review : Review Data) (settings : Settings) (tools : NarrativeTools)
    (answer : Option (StoredReview Data)) (after : Ledger Data) : Prop :=
  ∃ (gathered : Option Data) (answers : List Text),
    answer = gathered.map (review.rowFor settings tools answers) ∧
    after = ⟨[gathered], answers, [], answer.toList⟩

theorem inSchedulerSession_recorded (gpuLeaseHeld : Bool) :
    Recorded (inSchedulerSession (review.generateReview settings tools gpuLeaseHeld)) .empty
      fun outcome after =>
      ∃ answer, outcome = .ok answer ∧ review.Kept settings tools answer after := by
  refine recorded_bind (recorded_sure (fun _ => rfl) fun _ => ?_)
  refine recorded_ensuring (recorded_ensuring (recorded_handling (recorded_bind
    ((generateReview_recorded gpuLeaseHeld).imp ?_))))
  intro outcome after generated
  obtain ⟨gathered, answers, rfl, rfl⟩ := generated
  refine recorded_bind (recorded_sure (fun _ => rfl) fun _ => ?_)
  refine recorded_sure (fun _ => rfl) fun _ => ?_
  refine recorded_sure (fun _ => rfl) fun _ => ?_
  exact ⟨_, rfl, gathered, answers, rfl, rfl⟩

theorem acquire_recorded (requester : Text) (timeOfDay : Int) {ledger : Ledger Data} :
    Recorded (acquireReviewLease settings requester timeOfDay) ledger fun outcome after =>
      ∃ granted, outcome = .ok granted ∧ after = ledger := by
  rw [acquireReviewLease]
  cases waitBudgetSeconds settings timeOfDay with
  | none => exact ⟨none, rfl, rfl⟩
  | some budget =>
    refine recorded_handling (recorded_bind (recorded_ask ?_ ?_))
    · intro lease
      exact ⟨some lease, rfl, rfl⟩
    · intro error raises
      have refused : error = .queueUnavailable ∨ error = .acquireDropped ∨
          error = .acquireTimeout := by
        simpa [Call.mayRaise, or_assoc] using raises
      show Recorded _ ledger _
      rw [if_pos refused]
      exact ⟨none, rfl, rfl⟩

theorem runWeeklyReview_recorded (timeOfDay : Int) :
    Recorded (review.runWeeklyReview settings tools timeOfDay) .empty fun outcome after =>
      ∃ answer, outcome = .ok answer ∧ review.Kept settings tools answer after := by
  refine recorded_bind (recorded_sure (fun _ => rfl) fun _ => ?_)
  refine recorded_ensuring (recorded_bind ((acquire_recorded review.requester timeOfDay).imp ?_))
  intro outcome after acquired
  obtain ⟨granted, rfl, rfl⟩ := acquired
  refine recorded_ensuring ((inSchedulerSession_recorded granted.isSome).imp ?_)
  intro outcome after kept
  obtain ⟨answer, rfl, held⟩ := kept
  have closes : Recorded (ask .closeQueue : Program Data Unit) after
      (onOutcome (fun _ later => ∃ stored, Except.ok answer = (Except.ok stored : Except Raised _) ∧
        review.Kept settings tools stored later) fun error later => ∃ stored,
        (Except.error error : Except Raised _) = Except.ok stored ∧
        review.Kept settings tools stored later) :=
    recorded_sure (fun _ => rfl) fun _ => ⟨answer, rfl, held⟩
  cases granted with
  | none => exact closes
  | some lease => exact recorded_sure (fun _ => rfl) fun _ => closes

theorem generateRoute_recorded :
    Recorded (review.generateRoute settings tools) .empty fun outcome after =>
      ∃ answer, outcome = answer.elim (.error (.http review.missingStatus)) .ok ∧
        review.Kept settings tools answer after := by
  refine recorded_bind (recorded_sure (fun _ => rfl) fun _ => ?_)
  refine recorded_ensuring
    (recorded_handling (recorded_bind (recorded_bind ((generateReview_recorded false).imp ?_))))
  intro outcome after generated
  obtain ⟨gathered, answers, rfl, rfl⟩ := generated
  cases gathered with
  | none =>
    refine recorded_bind (recorded_sure (fun _ => rfl) fun _ => ?_)
    refine recorded_sure (fun _ => rfl) fun _ => ?_
    exact ⟨none, rfl, none, answers, rfl, rfl⟩
  | some data =>
    show Recorded (review.respond (some (review.rowFor settings tools answers data))) _ _
    rw [Review.respond]
    split
    · refine recorded_bind (recorded_sure (fun _ => rfl) fun _ => ?_)
      refine recorded_bind (recorded_sure (fun _ => rfl) fun _ => ?_)
      refine recorded_sure (fun _ => rfl) fun _ => ?_
      exact ⟨_, rfl, some data, answers, rfl, rfl⟩
    · refine recorded_bind (recorded_sure (fun _ => rfl) fun _ => ?_)
      refine recorded_sure (fun _ => rfl) fun _ => ?_
      exact ⟨_, rfl, some data, answers, rfl, rfl⟩

theorem Recorded.run {α : Type} {program : Program Data α}
    {owed : Except Raised α → Ledger Data → Prop} (recorded : Recorded program .empty owed)
    {world : ReviewWorld Data}
    (documented : ∀ history request, Documented ⟨request, world history request⟩) :
    owed (program.run world []).2 (ledgerOf (program.run world []).1) := by
  have started : ([] : List (ReviewExchange Data)).foldlM Ledger.step .empty = some .empty := rfl
  obtain ⟨after, reached, owes⟩ := Tree.Respects.run recorded
    (fun history _ request _ => documented history request) started
  rw [foldlM_step] at reached
  cases reached
  exact owes

end SysadminAssistant.Core.Reviews
