import SysadminAssistant.Python.Float
import SysadminAssistant.Python.Text

namespace SysadminAssistant.Core

open Python

/-! Rows of `agent_runs` and the startup sweep over them
(`sysadmin/core/abandoned_runs.py`). -/

inductive RunStatus where
  | running | completed | failed | cancelled
deriving DecidableEq, Repr

/-- `error` and `instance` are the two keys of `details` the readers use. -/
structure AgentRun where
  agent : Text
  status : RunStatus
  startedAt : Int
  durationSeconds : Option ℚ
  error : Option Text
  processInstance : Option Text
deriving DecidableEq

/-- A `running` row some other process is holding; an unstamped one is refused. -/
def abandonedBy (instanceId : Text) (run : AgentRun) : Bool :=
  run.status = .running && run.processInstance.any fun stamp => stamp ≠ instanceId

def closeAbandonedRuns (instanceId : Text) (runs : List AgentRun) : List AgentRun :=
  runs.map fun run => if abandonedBy instanceId run then { run with status := .cancelled } else run

/-! `BaseAgent.run`: its four steps, each of which may raise, and the buffer
`_pending_events` that holds a run's events until its work has committed. -/

/-- What leaves a step early.  `except Exception` catches the first and not a
cancellation. -/
inductive Escape where
  | exception | interruption
deriving DecidableEq

inductive Queued (ε : Type*) where
  | work (event : ε)
  | agentRun (status : RunStatus)
deriving DecidableEq

/-- What `_execute` left behind, whether it returned or escaped. -/
structure Executed (μ ε : Type*) where
  memory : μ
  queued : List ε
  escape : Option Escape

/-- A subclass: `μ` is the state it keeps between runs, `ι` what a run finds, `ρ` what a
reload of the configuration hands to it. -/
structure Agent (μ ι ρ ε : Type*) where
  execute : μ → ι → Executed μ ε
  workCommitted : μ → μ
  reload : μ → ρ → μ

structure Run (ι : Type*) where
  startRaises : Bool
  input : ι
  commitEscape : Option Escape
  outcomeRaises : Bool
  publishRaisesAt : Option Nat

structure AgentState (μ ε : Type*) where
  memory : μ
  pending : Option (List (Queued ε))

section

variable {μ ι ρ ε : Type*}

/-- `_queue_event`, with what it published. -/
def queueEvent (state : AgentState μ ε) (event : Queued ε) : AgentState μ ε × List (Queued ε) :=
  match state.pending with
  | none => (state, [event])
  | some pending => ({ state with pending := some (pending ++ [event]) }, [])

/-- `_flush_events`: the buffer is gone before the first event is published. -/
def flushEvents (raisesAt : Option Nat) (state : AgentState μ ε) :
    AgentState μ ε × List (Queued ε) :=
  let pending := state.pending.getD []
  ({ state with pending := none }, match raisesAt with
    | none => pending
    | some count => pending.take count)

/-- From `_record_outcome` on. -/
def recordOutcome (run : Run ι) (status : RunStatus) (state : AgentState μ ε) :
    AgentState μ ε × List (Queued ε) :=
  if run.outcomeRaises then (state, [])
  else
    let (state, now) := queueEvent state (.agentRun status)
    let (state, flushed) := flushEvents run.publishRaisesAt state
    (state, now ++ flushed)

def runLocked (agent : Agent μ ι ρ ε) (state : AgentState μ ε) (run : Run ι) :
    AgentState μ ε × List (Queued ε) :=
  if run.startRaises then ({ state with pending := some [] }, [])
  else
    let executed := agent.execute state.memory run.input
    let buffered := some (executed.queued.map .work)
    -- the commit is reached only by an `_execute` that returned
    match executed.escape.or run.commitEscape with
    | some .interruption => (⟨executed.memory, buffered⟩, [])
    | some .exception => recordOutcome run .failed ⟨executed.memory, some []⟩
    | none => recordOutcome run .completed ⟨agent.workCommitted executed.memory, buffered⟩

inductive Op (ι ρ ε : Type*) where
  | queue (event : ε)
  | run (run : Run ι)
  | reload (declared : ρ)

def step (agent : Agent μ ι ρ ε) (state : AgentState μ ε) :
    Op ι ρ ε → AgentState μ ε × List (Queued ε)
  | .queue event => queueEvent state (.work event)
  | .run run => runLocked agent state run
  | .reload declared => ({ state with memory := agent.reload state.memory declared }, [])

def after (agent : Agent μ ι ρ ε) (state : AgentState μ ε) (ops : List (Op ι ρ ε)) :
    AgentState μ ε :=
  ops.foldl (fun state op => (step agent state op).1) state

/-- The events a list of published ones carries, `agent.run` aside. -/
def works (published : List (Queued ε)) : List ε :=
  published.filterMap fun
    | .work event => some event
    | .agentRun _ => none

/-- How the transaction around `_execute` ended. -/
def escaped (agent : Agent μ ι ρ ε) (memory : μ) (run : Run ι) : Option Escape :=
  (agent.execute memory run.input).escape.or run.commitEscape

def committed (agent : Agent μ ι ρ ε) (memory : μ) (run : Run ι) : Bool :=
  !run.startRaises && (escaped agent memory run).isNone

/-- The events an operation has to publish. -/
def owed (agent : Agent μ ι ρ ε) (memory : μ) : Op ι ρ ε → List ε
  | .queue event => [event]
  | .run run => if committed agent memory run then (agent.execute memory run.input).queued else []
  | .reload _ => []

/-- Every operation publishes, while it lasts, the events it owes and no other. -/
def EventsExact (agent : Agent μ ι ρ ε) : AgentState μ ε → List (Op ι ρ ε) → Prop
  | _, [] => True
  | state, op :: rest =>
    works (step agent state op).2 = owed agent state.memory op ∧
      EventsExact agent (step agent state op).1 rest

/-- Whether the run got as far as its flush. -/
def reachesFlush (agent : Agent μ ι ρ ε) (memory : μ) (run : Run ι) : Bool :=
  !run.startRaises && escaped agent memory run ≠ some .interruption && !run.outcomeRaises

/-- The bookkeeping and the publishing of `count` events go through. -/
def handsOver (run : Run ι) (count : Nat) : Bool :=
  !run.outcomeRaises && run.publishRaisesAt.all fun reached => count ≤ reached

/-- The condition on one operation; `buffering` says that the last run escaped and left
its buffer behind. -/
def Delivers (agent : Agent μ ι ρ ε) (buffering : Bool) (memory : μ) : Op ι ρ ε → Prop
  | .queue _ => buffering = false
  | .run run => committed agent memory run →
      (agent.execute memory run.input).queued = [] ∨
        handsOver run (agent.execute memory run.input).queued.length
  | .reload _ => True

def bufferingAfter (agent : Agent μ ι ρ ε) (buffering : Bool) (memory : μ) : Op ι ρ ε → Bool
  | .run run => !reachesFlush agent memory run
  | _ => buffering

/-- No committed run with events fails in its bookkeeping, and nothing is queued outside
a run while the last one holds the buffer. -/
def Delivered (agent : Agent μ ι ρ ε) : Bool → AgentState μ ε → List (Op ι ρ ε) → Prop
  | _, _, [] => True
  | buffering, state, op :: rest =>
    Delivers agent buffering state.memory op ∧
      Delivered agent (bufferingAfter agent buffering state.memory op) (step agent state op).1 rest

theorem works_append (left right : List (Queued ε)) :
    works (left ++ right) = works left ++ works right := List.filterMap_append

@[simp] theorem works_map_work (events : List ε) : works (events.map Queued.work) = events := by
  induction events with
  | nil => rfl
  | cons event rest ih => simp [works]

theorem works_take (events : List ε) (status : RunStatus) (count : Nat) :
    works ((events.map Queued.work ++ [Queued.agentRun status]).take count) = events.take count := by
  have closing (kept : Nat) : works (([Queued.agentRun status] : List (Queued ε)).take kept) = [] := by
    cases kept <;> simp [works]
  rw [List.take_append, works_append, ← List.map_take, works_map_work, List.length_map, closing,
    List.append_nil]

theorem recordOutcome_works (run : Run ι) (status : RunStatus) (memory : μ) (events : List ε) :
    works (recordOutcome run status ⟨memory, some (events.map .work)⟩).2 =
      if run.outcomeRaises then []
      else match run.publishRaisesAt with
        | none => events
        | some count => events.take count := by
  cases raised : run.outcomeRaises with
  | true => simp [recordOutcome, raised, works]
  | false =>
    cases reached : run.publishRaisesAt with
    | none => simp [recordOutcome, raised, reached, queueEvent, flushEvents, works]
    | some count =>
      simpa [recordOutcome, raised, reached, queueEvent, flushEvents] using
        works_take events status count

theorem recordOutcome_state (run : Run ι) (status : RunStatus) (memory : μ)
    (pending : List (Queued ε)) :
    (recordOutcome run status ⟨memory, some pending⟩).1 =
      ⟨memory, if run.outcomeRaises then some pending else none⟩ := by
  cases raised : run.outcomeRaises <;> simp [recordOutcome, raised, queueEvent, flushEvents]

/-- What a run publishes, the closing `agent.run` aside. -/
theorem runLocked_works (agent : Agent μ ι ρ ε) (state : AgentState μ ε) (run : Run ι) :
    works (runLocked agent state run).2 =
      if committed agent state.memory run && !run.outcomeRaises then
        match run.publishRaisesAt with
        | none => (agent.execute state.memory run.input).queued
        | some count => (agent.execute state.memory run.input).queued.take count
      else [] := by
  cases start : run.startRaises with
  | true => simp [runLocked, committed, start, works]
  | false =>
    cases ended : escaped agent state.memory run with
    | none =>
      have commits : committed agent state.memory run = true := by
        simp [committed, start, ended]
      simp only [escaped] at ended
      simp only [runLocked, start, ended, commits]
      cases raised : run.outcomeRaises <;>
        simpa [raised] using recordOutcome_works run .completed _ _
    | some escape =>
      have lost : committed agent state.memory run = false := by
        simp [committed, start, ended]
      simp only [escaped] at ended
      cases escape with
      | interruption => simp [runLocked, start, ended, lost, works]
      | exception =>
        have nothing := recordOutcome_works run .failed
          (agent.execute state.memory run.input).memory ([] : List ε)
        rw [List.map_nil] at nothing
        simp only [runLocked, start, ended, lost, Bool.false_and]
        cases reached : run.publishRaisesAt <;> simpa [reached] using nothing

theorem runLocked_pending (agent : Agent μ ι ρ ε) (state : AgentState μ ε) (run : Run ι) :
    (runLocked agent state run).1.pending.isNone = reachesFlush agent state.memory run := by
  cases start : run.startRaises with
  | true => simp [runLocked, reachesFlush, start]
  | false =>
    cases ended : escaped agent state.memory run with
    | none =>
      simp only [escaped] at ended
      cases raised : run.outcomeRaises <;>
        simp [runLocked, reachesFlush, start, ended, escaped, raised, recordOutcome_state]
    | some escape =>
      simp only [escaped] at ended
      cases escape with
      | interruption => simp [runLocked, reachesFlush, start, ended, escaped]
      | exception =>
        cases raised : run.outcomeRaises <;>
          simp [runLocked, reachesFlush, start, ended, escaped, raised, recordOutcome_state]

@[simp] theorem queueEvent_memory (state : AgentState μ ε) (event : Queued ε) :
    (queueEvent state event).1.memory = state.memory := by
  unfold queueEvent
  split <;> rfl

theorem runLocked_memory (agent : Agent μ ι ρ ε) (state : AgentState μ ε) (run : Run ι) :
    (runLocked agent state run).1.memory =
      if committed agent state.memory run then
        agent.workCommitted (agent.execute state.memory run.input).memory
      else if run.startRaises then state.memory
      else (agent.execute state.memory run.input).memory := by
  cases start : run.startRaises with
  | true => simp [runLocked, committed, start]
  | false =>
    cases ended : escaped agent state.memory run with
    | none =>
      simp only [escaped] at ended
      simp [runLocked, committed, start, ended, escaped, recordOutcome_state]
    | some escape =>
      simp only [escaped] at ended
      cases escape <;>
        simp [runLocked, committed, start, ended, escaped, recordOutcome_state]

theorem EventsExact.append {agent : Agent μ ι ρ ε} {state : AgentState μ ε}
    {earlier later : List (Op ι ρ ε)} (exact : EventsExact agent state (earlier ++ later)) :
    EventsExact agent state earlier ∧ EventsExact agent (after agent state earlier) later := by
  induction earlier generalizing state with
  | nil => exact ⟨trivial, exact⟩
  | cons op rest ih =>
    obtain ⟨now, following⟩ := exact
    obtain ⟨inner, outer⟩ := ih following
    exact ⟨⟨now, inner⟩, outer⟩

theorem step_pending (agent : Agent μ ι ρ ε) (state : AgentState μ ε) (op : Op ι ρ ε) :
    (step agent state op).1.pending.isSome =
      bufferingAfter agent state.pending.isSome state.memory op := by
  cases op with
  | queue event =>
    simp only [step, queueEvent, bufferingAfter]
    cases holding : state.pending <;> simp [holding]
  | run run =>
    have ends := runLocked_pending agent state run
    simp only [step, bufferingAfter, ← ends]
    cases (runLocked agent state run).1.pending <;> rfl
  | reload declared => rfl

theorem handsOver_iff (run : Run ι) (events : List ε) :
    (if run.outcomeRaises then [] else match run.publishRaisesAt with
      | none => events
      | some count => events.take count) = events ↔
        events = [] ∨ handsOver run events.length = true := by
  cases raised : run.outcomeRaises with
  | true => simp [handsOver, raised, eq_comm]
  | false =>
    cases reached : run.publishRaisesAt with
    | none => simp [handsOver, raised, reached]
    | some count =>
      simp only [handsOver, raised, reached, List.take_eq_self_iff, Bool.not_false,
        Bool.true_and, Option.all_some, decide_eq_true_eq, Bool.false_eq_true, if_false]
      constructor
      · exact Or.inr
      · intro either
        rcases either with rfl | enough
        · simp
        · exact enough

theorem step_exact (agent : Agent μ ι ρ ε) (state : AgentState μ ε) (op : Op ι ρ ε) :
    works (step agent state op).2 = owed agent state.memory op ↔
      Delivers agent state.pending.isSome state.memory op := by
  cases op with
  | queue event =>
    cases holding : state.pending <;>
      simp [step, queueEvent, holding, owed, Delivers, works]
  | reload declared => simp [step, owed, Delivers, works]
  | run run =>
    simp only [step, runLocked_works, owed, Delivers]
    cases commits : committed agent state.memory run with
    | false => simp
    | true =>
      have exact := handsOver_iff run (agent.execute state.memory run.input).queued
      cases raised : run.outcomeRaises <;> simpa [raised] using exact

theorem eventsExact_iff (agent : Agent μ ι ρ ε) {buffering : Bool} {state : AgentState μ ε}
    (holding : state.pending.isSome = buffering) (ops : List (Op ι ρ ε)) :
    EventsExact agent state ops ↔ Delivered agent buffering state ops := by
  induction ops generalizing state buffering with
  | nil => exact Iff.rfl
  | cons op rest ih =>
    subst holding
    simp only [EventsExact, Delivered]
    rw [step_exact, ih (step_pending agent state op)]

end

end SysadminAssistant.Core
