import SysadminAssistant.Core.Agent
import SysadminAssistant.Monitor.Services
import SysadminAssistant.Python.Dict

namespace SysadminAssistant.Monitor

open Python SysadminAssistant.Core

/-! The `service.status` events of `SysAdminAgent` and the two dictionaries behind
them: `_last_status`, which moves at the commit, and `_staged_status`. -/

inductive AgentEvent where
  | serviceStatus (service : Text) (status : ServiceStatus)
  | alert (eventType : Text)
deriving DecidableEq

/-- `counted` holds the keys of `_degraded_counts` and `_failure_counts`. -/
structure StatusMemory where
  counted : List Text
  lastStatus : Dict Text ServiceStatus
  stagedStatus : Dict Text ServiceStatus

/-- What a check leaves in `service_health`: its own row; when the savepoint of the service
rolled back, the row of `_isolate_write_failure`; and none when that was refused as well. -/
inductive Written where
  | stored | isolated | lost
deriving DecidableEq

/-- What `_execute` comes across, in order.  A reload may land in the middle of a run. -/
inductive Happening where
  | checked (service : Text) (status : ServiceStatus) (written : Written)
  | alerted (eventType : Text)
  | reloaded (declared : List Text)
deriving DecidableEq

def Happening.service? : Happening → Option Text
  | .checked service _ _ => some service
  | _ => none

/-- The row of a check, whose status is `error` when it stands for a write that failed. -/
def Happening.row? : Happening → Option (Text × ServiceStatus)
  | .checked service status .stored => some (service, status)
  | .checked service _ .isolated => some (service, .error)
  | _ => none

/-- `services.yaml` admits a service name once. -/
structure Findings where
  happenings : List Happening
  escape : Option Escape
  distinct : (happenings.filterMap Happening.service?).Nodup

def forgetUnknown (memory : StatusMemory) (declared : List Text) : StatusMemory :=
  let dropped := (memory.counted ++ memory.lastStatus.keys).filter fun name => name ∉ declared
  { counted := memory.counted.filter fun name => name ∉ dropped
    lastStatus := dropped.foldl Dict.erase memory.lastStatus
    stagedStatus := dropped.foldl Dict.erase memory.stagedStatus }

/-- `_handle_status` touches a counter for every status it counts; a savepoint that
rolls back does not undo that. -/
def counting (memory : StatusMemory) (service : Text) (status : ServiceStatus) : StatusMemory :=
  if status = .error ∨ status = .skipped then memory
  else { memory with counted := memory.counted.insert service }

def happen (progress : StatusMemory × List AgentEvent) :
    Happening → StatusMemory × List AgentEvent
  | .checked service status written =>
    let memory := counting progress.1 service status
    if written = .stored ∧ memory.lastStatus.get? service ≠ some status then
      ({ memory with stagedStatus := memory.stagedStatus.set service status },
        progress.2 ++ [.serviceStatus service status])
    else (memory, progress.2)
  | .alerted eventType => (progress.1, progress.2 ++ [.alert eventType])
  | .reloaded declared => (forgetUnknown progress.1 declared, progress.2)

def executeHealth (memory : StatusMemory) (found : Findings) : Executed StatusMemory AgentEvent :=
  let progress := found.happenings.foldl happen ({ memory with stagedStatus := .empty }, [])
  ⟨progress.1, progress.2, found.escape⟩

/-- `SysAdminAgent._work_committed`. -/
def statusCommitted (memory : StatusMemory) : StatusMemory where
  counted := memory.counted
  lastStatus := memory.lastStatus.update memory.stagedStatus
  stagedStatus := .empty

def sysAdminAgent : Agent StatusMemory Findings (List Text) AgentEvent where
  execute := executeHealth
  workCommitted := statusCommitted
  reload := forgetUnknown

def names (service : Text) : AgentEvent → Bool
  | .serviceStatus named _ => named = service
  | .alert _ => false

/-- The run writes this row of the service. -/
def Records (found : Findings) (service : Text) (status : ServiceStatus) : Prop :=
  ∃ happening ∈ found.happenings, happening.row? = some (service, status)

/-- The row is the check's own. -/
def Stores (found : Findings) (service : Text) (status : ServiceStatus) : Prop :=
  Happening.checked service status .stored ∈ found.happenings

/-- What `_last_status` holds of a service when the run gets to it. -/
def knownStatus (memory : StatusMemory) (found : Findings) (service : Text) : Option ServiceStatus :=
  let before := found.happenings.takeWhile fun happening => happening.service? ≠ some service
  (before.foldl happen ({ memory with stagedStatus := .empty }, [])).1.lastStatus.get? service

def Uncommitted (state : AgentState StatusMemory AgentEvent) :
    List (Op Findings (List Text) AgentEvent) → Prop
  | [] => True
  | op :: rest =>
    (∀ run, op = .run run → committed sysAdminAgent state.memory run = false) ∧
      Uncommitted (step sysAdminAgent state op).1 rest

/-- The row of a service changes from one committed run to the next: `state` is what the
second one starts from. -/
def CommittedChange (start : AgentState StatusMemory AgentEvent)
    (ops : List (Op Findings (List Text) AgentEvent)) (first second : Run Findings)
    (state : AgentState StatusMemory AgentEvent) (service : Text) (old new : ServiceStatus) : Prop :=
  ∃ earlier between later, ops = earlier ++ .run first :: between ++ .run second :: later ∧
    let firstState := after sysAdminAgent start earlier
    let nextState := (step sysAdminAgent firstState (.run first)).1
    committed sysAdminAgent firstState.memory first = true ∧ Uncommitted nextState between ∧
      state = after sysAdminAgent nextState between ∧
      committed sysAdminAgent state.memory second = true ∧
      Records first.input service old ∧ Records second.input service new ∧ old ≠ new

/-- Every change is announced once, by the run that commits it. -/
def ChangesAnnounced (start : AgentState StatusMemory AgentEvent)
    (ops : List (Op Findings (List Text) AgentEvent)) : Prop :=
  ∀ first second state service old new,
    CommittedChange start ops first second state service old new →
      (works (step sysAdminAgent state (.run second)).2).filter (names service) =
        [.serviceStatus service new]

/-- The rows that change are those of the checks: the new one is its check's own, and so is
the old one, unless `_last_status` holds something else than the new status anyway. -/
def ChangesChecked (start : AgentState StatusMemory AgentEvent)
    (ops : List (Op Findings (List Text) AgentEvent)) : Prop :=
  ∀ first second state service old new,
    CommittedChange start ops first second state service old new →
      Stores second.input service new ∧ (Stores first.input service old ∨
        knownStatus state.memory second.input service ≠ some new)

/-- What a run without a check of the service leaves of its two entries. -/
def Forgets (service : Text) (before later : StatusMemory) : Prop :=
  (later.lastStatus.get? service = before.lastStatus.get? service ∧
      later.stagedStatus.get? service = before.stagedStatus.get? service) ∨
    (later.lastStatus.get? service = none ∧ later.stagedStatus.get? service = none)

theorem Forgets.refl (service : Text) (memory : StatusMemory) : Forgets service memory memory :=
  Or.inl ⟨rfl, rfl⟩

theorem Forgets.trans {service : Text} {first second third : StatusMemory}
    (left : Forgets service first second) (right : Forgets service second third) :
    Forgets service first third := by
  rcases right with ⟨last, staged⟩ | gone
  · rcases left with ⟨earlierLast, earlierStaged⟩ | ⟨earlierLast, earlierStaged⟩
    · exact Or.inl ⟨last.trans earlierLast, staged.trans earlierStaged⟩
    · exact Or.inr ⟨last.trans earlierLast, staged.trans earlierStaged⟩
  · exact Or.inr gone

theorem forgetUnknown_forgets (service : Text) (memory : StatusMemory) (declared : List Text) :
    Forgets service memory (forgetUnknown memory declared) := by
  simp only [Forgets, forgetUnknown, Dict.get?_foldl_erase]
  split
  · exact Or.inr ⟨rfl, rfl⟩
  · exact Or.inl ⟨rfl, rfl⟩

@[simp] theorem counting_lastStatus (memory : StatusMemory) (service : Text)
    (status : ServiceStatus) : (counting memory service status).lastStatus = memory.lastStatus := by
  unfold counting
  split <;> rfl

@[simp] theorem counting_stagedStatus (memory : StatusMemory) (service : Text)
    (status : ServiceStatus) :
    (counting memory service status).stagedStatus = memory.stagedStatus := by
  unfold counting
  split <;> rfl

theorem happen_elsewhere {service : Text} {happening : Happening}
    (elsewhere : happening.service? ≠ some service) (progress : StatusMemory × List AgentEvent) :
    Forgets service progress.1 (happen progress happening).1 ∧
      (happen progress happening).2.filter (names service) = progress.2.filter (names service) := by
  cases happening with
  | alerted eventType => exact ⟨.refl _ _, by simp [happen, names]⟩
  | reloaded declared => exact ⟨forgetUnknown_forgets service progress.1 declared, rfl⟩
  | checked other status written =>
    have different : other ≠ service := fun same => elsewhere (by simp [Happening.service?, same])
    simp only [happen]
    split
    · refine ⟨Or.inl ⟨by simp, ?_⟩, by simp [names, different]⟩
      simp [Dict.get?_set_other _ _ different]
    · exact ⟨Or.inl ⟨by simp, by simp⟩, rfl⟩

theorem happenings_elsewhere {service : Text} {happenings : List Happening}
    (elsewhere : ∀ happening ∈ happenings, happening.service? ≠ some service)
    (progress : StatusMemory × List AgentEvent) :
    Forgets service progress.1 (happenings.foldl happen progress).1 ∧
      (happenings.foldl happen progress).2.filter (names service) =
        progress.2.filter (names service) := by
  induction happenings generalizing progress with
  | nil => exact ⟨.refl _ _, rfl⟩
  | cons first rest ih =>
    obtain ⟨kept, quiet⟩ := happen_elsewhere (elsewhere first (by simp)) progress
    obtain ⟨restKept, restQuiet⟩ :=
      ih (fun happening member => elsewhere happening (by simp [member])) (happen progress first)
    exact ⟨kept.trans restKept, restQuiet.trans quiet⟩

theorem Findings.split (found : Findings) {happening : Happening} {service : Text}
    (member : happening ∈ found.happenings) (named : happening.service? = some service) :
    ∃ before later, found.happenings = before ++ happening :: later ∧
      (∀ other ∈ before, other.service? ≠ some service) ∧
      ∀ other ∈ later, other.service? ≠ some service := by
  obtain ⟨before, later, shape⟩ := List.append_of_mem member
  have distinct := found.distinct
  simp only [shape, List.filterMap_append, List.filterMap_cons, named] at distinct
  obtain ⟨_, tail, apart⟩ := List.nodup_append.mp distinct
  refine ⟨before, later, shape, ?_, ?_⟩
  · intro other member again
    have inside : service ∈ before.filterMap Happening.service? :=
      List.mem_filterMap.mpr ⟨other, member, again⟩
    exact apart service inside service (by simp) rfl
  · intro other member again
    exact (List.nodup_cons.mp tail).1 (List.mem_filterMap.mpr ⟨other, member, again⟩)

theorem knownStatus_eq {found : Findings} {service : Text} {happening : Happening}
    {before later : List Happening} (shape : found.happenings = before ++ happening :: later)
    (early : ∀ other ∈ before, other.service? ≠ some service)
    (named : happening.service? = some service) (memory : StatusMemory) :
    knownStatus memory found service = (before.foldl happen
      ({ memory with stagedStatus := .empty }, [])).1.lastStatus.get? service := by
  have cut : found.happenings.takeWhile (fun happening => happening.service? ≠ some service) =
      before := by
    rw [shape, List.takeWhile_append_of_pos (by simpa using early)]
    simp [named]
  rw [knownStatus, cut]

theorem executeHealth_queued {found : Findings} {service : Text} {status : ServiceStatus}
    {written : Written} (member : Happening.checked service status written ∈ found.happenings)
    (memory : StatusMemory) :
    (executeHealth memory found).queued.filter (names service) =
      if written = .stored ∧ knownStatus memory found service ≠ some status then
        [.serviceStatus service status] else [] := by
  obtain ⟨before, later, shape, early, late⟩ := found.split member rfl
  rw [knownStatus_eq shape early rfl]
  simp only [executeHealth, shape, List.foldl_append, List.foldl_cons]
  rw [(happenings_elsewhere late _).2]
  have quiet := (happenings_elsewhere early ({ memory with stagedStatus := .empty }, [])).2
  generalize before.foldl happen ({ memory with stagedStatus := .empty }, []) = progress at quiet
  simp only [happen, counting_lastStatus]
  split
  · simp [quiet, names]
  · simpa using quiet

/-- `_last_status` holds that status of the service or none. -/
def Settled (service : Text) (status : ServiceStatus) (memory : StatusMemory) : Prop :=
  ∀ known, memory.lastStatus.get? service = some known → known = status

theorem Settled.forgets {service : Text} {status : ServiceStatus} {before later : StatusMemory}
    (settled : Settled service status before)
    (kept : later.lastStatus.get? service = before.lastStatus.get? service ∨
      later.lastStatus.get? service = none) : Settled service status later := by
  intro known found
  rcases kept with same | gone
  · exact settled known (same ▸ found)
  · rw [gone] at found
    contradiction

theorem Forgets.lastStatus {service : Text} {before later : StatusMemory}
    (kept : Forgets service before later) :
    later.lastStatus.get? service = before.lastStatus.get? service ∨
      later.lastStatus.get? service = none := by
  rcases kept with same | gone
  · exact Or.inl same.1
  · exact Or.inr gone.1

theorem happen_lastStatus (service : Text) (happening : Happening)
    (progress : StatusMemory × List AgentEvent) :
    (happen progress happening).1.lastStatus.get? service = progress.1.lastStatus.get? service ∨
      (happen progress happening).1.lastStatus.get? service = none := by
  cases happening with
  | alerted eventType => exact Or.inl rfl
  | reloaded declared => exact (forgetUnknown_forgets service progress.1 declared).lastStatus
  | checked other status written =>
    simp only [happen]
    split <;> simp

theorem Settled.happenings {service : Text} {status : ServiceStatus} (happenings : List Happening)
    {progress : StatusMemory × List AgentEvent} (settled : Settled service status progress.1) :
    Settled service status (happenings.foldl happen progress).1 := by
  induction happenings generalizing progress with
  | nil => exact settled
  | cons first rest ih => exact ih (settled.forgets (happen_lastStatus service first progress))

/-- A stored status is the one the commit leaves behind, unless a reload dropped the service
in the meantime. -/
theorem settled_committed {found : Findings} {service : Text} {status : ServiceStatus}
    (stores : Stores found service status) (memory : StatusMemory) :
    Settled service status (statusCommitted (executeHealth memory found).memory) := by
  obtain ⟨before, later, shape, early, late⟩ := found.split stores rfl
  have fresh : ({ memory with stagedStatus := .empty } : StatusMemory).stagedStatus.get? service =
      none := rfl
  simp only [executeHealth, shape, List.foldl_append, List.foldl_cons]
  generalize ({ memory with stagedStatus := .empty } : StatusMemory) = start at fresh
  have unstaged : (before.foldl happen (start, [])).1.stagedStatus.get? service = none := by
    rcases (happenings_elsewhere early (start, [])).1 with same | gone
    · exact same.2.trans fresh
    · exact gone.2
  generalize before.foldl happen (start, []) = progress at unstaged
  have checked : (((happen progress (.checked service status .stored)).1.stagedStatus.get? service).or
      ((happen progress (.checked service status .stored)).1.lastStatus.get? service)) =
        some status := by
    simp only [happen, counting_lastStatus, counting_stagedStatus, true_and]
    by_cases same : progress.1.lastStatus.get? service = some status
    · simp [same, unstaged]
    · simp [same]
  intro known held
  simp only [statusCommitted, Dict.get?_update] at held
  rcases (happenings_elsewhere late (happen progress (.checked service status .stored))).1 with
    same | gone
  · rw [same.1, same.2, checked] at held
    exact (Option.some.inj held).symm
  · rw [gone.1, gone.2] at held
    contradiction

theorem Settled.known {service : Text} {status : ServiceStatus} {memory : StatusMemory}
    (settled : Settled service status memory) (found : Findings) {known : ServiceStatus}
    (holds : knownStatus memory found service = some known) : known = status := by
  have start : Settled service status ({ memory with stagedStatus := .empty } : StatusMemory) :=
    settled
  exact (@Settled.happenings _ _ _ (_, []) start) known holds

theorem Settled.uncommitted {service : Text} {status : ServiceStatus}
    {state : AgentState StatusMemory AgentEvent} {op : Op Findings (List Text) AgentEvent}
    (settled : Settled service status state.memory)
    (lost : ∀ run, op = .run run → committed sysAdminAgent state.memory run = false) :
    Settled service status (step sysAdminAgent state op).1.memory := by
  cases op with
  | queue event => rwa [step, queueEvent_memory]
  | reload declared =>
    exact settled.forgets (forgetUnknown_forgets service state.memory declared).lastStatus
  | run run =>
    rw [step, runLocked_memory, if_neg (by simp [lost run rfl])]
    split
    · exact settled
    · exact Settled.happenings run.input.happenings settled

theorem Settled.between {service : Text} {status : ServiceStatus}
    {ops : List (Op Findings (List Text) AgentEvent)} {state : AgentState StatusMemory AgentEvent}
    (settled : Settled service status state.memory) (lost : Uncommitted state ops) :
    Settled service status (after sysAdminAgent state ops).memory := by
  induction ops generalizing state with
  | nil => exact settled
  | cons op rest ih => exact ih (settled.uncommitted lost.1) lost.2

/-- A run after which `_last_status` holds the old status, or nothing, up to the next one. -/
theorem CommittedChange.settled {start : AgentState StatusMemory AgentEvent}
    {ops : List (Op Findings (List Text) AgentEvent)} {first second : Run Findings}
    {state : AgentState StatusMemory AgentEvent} {service : Text} {old new : ServiceStatus}
    (change : CommittedChange start ops first second state service old new)
    (stores : Stores first.input service old) : Settled service old state.memory := by
  obtain ⟨earlier, between, later, -, commits, lost, rfl, -⟩ := change
  have moved := runLocked_memory sysAdminAgent (after sysAdminAgent start earlier) first
  rw [if_pos commits] at moved
  refine Settled.between ?_ lost
  rw [step, moved]
  exact settled_committed stores _

theorem CommittedChange.published {start : AgentState StatusMemory AgentEvent}
    {ops : List (Op Findings (List Text) AgentEvent)} {first second : Run Findings}
    {state : AgentState StatusMemory AgentEvent} {service : Text} {old new : ServiceStatus}
    (change : CommittedChange start ops first second state service old new)
    (exact : EventsExact sysAdminAgent start ops) :
    works (step sysAdminAgent state (.run second)).2 =
      (executeHealth state.memory second.input).queued := by
  obtain ⟨earlier, between, later, shape, -, -, reached, commits, -⟩ := change
  have here : after sysAdminAgent start (earlier ++ .run first :: between) = state := by
    rw [reached, after, List.foldl_append, List.foldl_cons]
    rfl
  rw [shape] at exact
  have now := exact.append.2.1
  rwa [here, owed, if_pos commits] at now

theorem changesAnnounced_iff {start : AgentState StatusMemory AgentEvent}
    {ops : List (Op Findings (List Text) AgentEvent)} (exact : EventsExact sysAdminAgent start ops) :
    ChangesAnnounced start ops ↔ ChangesChecked start ops := by
  constructor
  · intro announced first second state service old new change
    have told := announced first second state service old new change
    rw [change.published exact] at told
    obtain ⟨earlier, between, later, -, -, -, -, -, -, ⟨happening, member, row⟩, -⟩ := change
    unfold Happening.row? at row
    split at row
    · cases row
      rw [executeHealth_queued member] at told
      split at told
      · rename_i heard
        exact ⟨member, Or.inr heard.2⟩
      · cases told
    · cases row
      rw [executeHealth_queued member] at told
      simp at told
    · cases row
  · intro checked first second state service old new change
    obtain ⟨stores, either⟩ := checked first second state service old new change
    rw [change.published exact, executeHealth_queued stores]
    refine if_pos ⟨rfl, ?_⟩
    rcases either with before | other
    · intro known
      have same := (change.settled before).known second.input known
      obtain ⟨earlier, between, later, -, -, -, -, -, -, -, changed⟩ := change
      exact changed same.symm
    · exact other

/-- The events of every run are published when its work has committed, just when the
bookkeeping around the committed work goes through; and status changes are announced once,
just when besides no row that stands for a failed write makes one. -/
theorem events_published_iff {μ ι ρ ε : Type*} (agent : Agent μ ι ρ ε) (memory : μ)
    (ops : List (Op ι ρ ε)) (statuses : StatusMemory)
    (runs : List (Op Findings (List Text) AgentEvent)) :
    (EventsExact agent ⟨memory, none⟩ ops ↔ Delivered agent false ⟨memory, none⟩ ops) ∧
      (EventsExact sysAdminAgent ⟨statuses, none⟩ runs ∧ ChangesAnnounced ⟨statuses, none⟩ runs ↔
        Delivered sysAdminAgent false ⟨statuses, none⟩ runs ∧
          ChangesChecked ⟨statuses, none⟩ runs) := by
  refine ⟨eventsExact_iff agent rfl ops, ?_⟩
  rw [← @eventsExact_iff _ _ _ _ sysAdminAgent false ⟨statuses, none⟩ rfl runs]
  constructor
  · rintro ⟨exact, announced⟩
    exact ⟨exact, (changesAnnounced_iff exact).mp announced⟩
  · rintro ⟨exact, checked⟩
    exact ⟨exact, (changesAnnounced_iff exact).mpr checked⟩

def webFound (status : ServiceStatus) (written : Written) : Findings where
  happenings := [.checked (text "web") status written]
  escape := none
  distinct := List.nodup_singleton _

def webRun (status : ServiceStatus) (written : Written) (outcomeRaises : Bool) : Run Findings :=
  ⟨false, webFound status written, none, outcomeRaises, none⟩

def noStatuses : AgentState StatusMemory AgentEvent := ⟨⟨[], .empty, .empty⟩, none⟩

theorem webRuns_change {first second : Run Findings} {old new : ServiceStatus}
    (commits : committed sysAdminAgent noStatuses.memory first = true)
    (again : committed sysAdminAgent (step sysAdminAgent noStatuses (.run first)).1.memory
      second = true)
    (before : Records first.input (text "web") old) (later : Records second.input (text "web") new)
    (changed : old ≠ new) :
    CommittedChange noStatuses [.run first, .run second] first second
      (step sysAdminAgent noStatuses (.run first)).1 (text "web") old new :=
  ⟨[], [], [], rfl, commits, trivial, rfl, again, before, later, changed⟩

/-- The second run commits that `web` went down and then fails to close its row; or its row
is refused, and the one that says so is committed in silence. -/
theorem unrecorded_outcome_loses_events :
    (¬ EventsExact sysAdminAgent noStatuses
        [.run (webRun .ok .stored false), .run (webRun .critical .stored true)] ∧
      ¬ ChangesAnnounced noStatuses
        [.run (webRun .ok .stored false), .run (webRun .critical .stored true)]) ∧
      ¬ ChangesAnnounced noStatuses
        [.run (webRun .ok .stored false), .run (webRun .critical .isolated false)] := by
  have silent : works (step sysAdminAgent (step sysAdminAgent noStatuses
      (.run (webRun .ok .stored false))).1 (.run (webRun .critical .stored true))).2 = [] := by decide
  refine ⟨⟨fun exact => ?_, fun announced => ?_⟩, fun announced => ?_⟩
  · have published := exact.2.1
    rw [silent] at published
    exact absurd published (by decide)
  · have told := announced _ _ _ _ _ _ (@webRuns_change _ _ .ok .critical rfl rfl
      ⟨_, List.mem_singleton_self _, rfl⟩ ⟨_, List.mem_singleton_self _, rfl⟩ (by decide))
    exact absurd (told.symm.trans (congrArg (List.filter _) silent)) (by decide)
  · have told := announced _ _ _ _ _ _ (@webRuns_change _ _ .ok .error rfl rfl
      ⟨_, List.mem_singleton_self _, rfl⟩ ⟨_, List.mem_singleton_self _, rfl⟩ (by decide))
    exact absurd told (by decide)

end SysadminAssistant.Monitor
