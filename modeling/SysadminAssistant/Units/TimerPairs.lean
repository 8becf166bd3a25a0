import Mathlib.Data.List.Induction
import SysadminAssistant.Units.DeadDirectories

namespace SysadminAssistant.Units

open Python Library

/-! A oneshot service and the timers that start it. -/

/-- The timer starts the service. -/
def starts (service timer : UnitFile) : Bool :=
  timer.isTimer && decide (timer.triggers = some service.name ∧ service.name ≠ []) &&
    decide (timer.scope = service.scope)

def timersOf (units : List UnitFile) (service : UnitFile) : List UnitFile :=
  units.filter (starts service)

/-- The timer of the service that is listed last. -/
def lastTimer (units : List UnitFile) (service : UnitFile) : Option UnitFile :=
  (timersOf units service).getLast?

section

variable {tools : CaseTools} {projects : List ProjectRef} {pathExists : Text → Bool}
  {units : List UnitFile} {wired : List Text} {service : UnitFile}

theorem byKey_get? (distinct : (units.map UnitFile.place).Nodup) {key : Text} {unit : UnitFile} :
    (byKey units).get? key = some unit ↔ unit ∈ units ∧ unit.key = key := by
  have keyed : ((units.map fun unit => (unit.key, unit)).map Prod.fst).Nodup := by
    rw [List.map_map]
    exact keys_nodup distinct
  constructor
  · intro found
    obtain ⟨other, member, same⟩ := List.mem_map.mp (Dict.get?_ofEntries_mem found)
    obtain ⟨rfl, rfl⟩ := Prod.mk.inj same
    exact ⟨member, rfl⟩
  · intro listed
    obtain ⟨member, rfl⟩ := listed
    exact Dict.get?_ofEntries keyed (List.mem_map.mpr ⟨unit, member, rfl⟩)

theorem foldTarget_starts (distinct : (units.map UnitFile.place).Nodup) (member : service ∈ units)
    (oneshot : service.isOneshot = true) (timer : UnitFile) :
    (∃ target, foldTarget (byKey units) timer = some target ∧ target.key = service.key) ↔
      starts service timer = true := by
  constructor
  · intro folds
    obtain ⟨target, folds, same⟩ := folds
    simp only [foldTarget] at folds
    split at folds
    · cases folds
    · cases folds
    · rename_i triggers unempty declared
      split at folds
      · rename_i isTimer
        obtain ⟨found, _⟩ := Option.filter_eq_some_iff.mp folds
        obtain ⟨_, named⟩ := (byKey_get? distinct).mp found
        obtain ⟨name, scope⟩ := wiredKey_injective (named.symm.trans same)
        rw [name] at declared
        have filled : service.name ≠ [] := fun empty => unempty (name.trans empty)
        simp [starts, isTimer, declared, scope, filled]
      · cases folds
  · intro starting
    simp only [starts, Bool.and_eq_true, decide_eq_true_eq] at starting
    obtain ⟨⟨isTimer, declared, filled⟩, scope⟩ := starting
    have known : (byKey units).get? (wiredKey service.name timer.scope) = some service := by
      rw [scope]
      exact (byKey_get? distinct).mpr ⟨member, rfl⟩
    refine ⟨service, ?_, rfl⟩
    cases name : service.name with
    | nil => exact absurd name filled
    | cons c rest =>
      rw [name] at known declared
      simp [foldTarget, declared, isTimer, known, oneshot, Option.filter_some]

/-- `timer_for` keeps the timer that is listed last. -/
theorem timerFor_eq (distinct : (units.map UnitFile.place).Nodup) (member : service ∈ units)
    (oneshot : service.isOneshot = true) :
    (foldTimers units).timerFor.get? service.key = (lastTimer units service).map UnitFile.name := by
  have folded : ∀ listed : List UnitFile,
      (listed.foldl (foldTimer (byKey units)) ⟨∅, .empty⟩).timerFor.get? service.key =
        (listed.filter (starts service)).getLast?.map UnitFile.name := by
    intro listed
    induction listed using List.reverseRecOn with
    | nil => rfl
    | append_singleton earlier timer ih =>
      rw [List.foldl_append, List.foldl_cons, List.foldl_nil, List.filter_append]
      have target := foldTarget_starts distinct member oneshot timer
      cases starting : starts service timer with
      | true =>
        obtain ⟨folds, found, same⟩ := target.mpr starting
        simp [foldTimer, found, same, starting]
      | false =>
        rw [List.filter_cons_of_neg (by simp [starting]), List.filter_nil, List.append_nil,
          ← ih, foldTimer]
        cases found : foldTarget (byKey units) timer with
        | none => rfl
        | some folds =>
          have apart : folds.key ≠ service.key := by
            intro same
            rw [target.mp ⟨folds, found, same⟩] at starting
            cases starting
          exact Dict.get?_set_other _ _ apart
  exact folded units

theorem lastTimer_starts {timer : UnitFile} (last : lastTimer units service = some timer) :
    timer ∈ timersOf units service := List.mem_of_getLast? last

theorem starts_scope {timer : UnitFile} (starting : starts service timer = true) :
    timer.scope = service.scope := by
  simp only [starts, Bool.and_eq_true, decide_eq_true_eq] at starting
  exact starting.2

theorem isWired_iff (distinct : (units.map UnitFile.place).Nodup) (member : service ∈ units)
    (oneshot : service.isOneshot = true) :
    isWired service wired (foldTimers units).timerFor = true ↔
      service.key ∈ wired ∨ ∃ timer, lastTimer units service = some timer ∧ timer.key ∈ wired := by
  rw [isWired, timerFor_eq distinct member oneshot]
  cases last : lastTimer units service with
  | none => simp
  | some timer =>
    have scope := starts_scope (List.mem_filter.mp (lastTimer_starts last)).2
    by_cases own : wiredKey service.name service.scope ∈ wired <;> simp [UnitFile.key, scope, own]

/-- The service is enabled, or the timer that is listed last. -/
def enabledAtEnds (units : List UnitFile) (service : UnitFile) : Bool :=
  service.enabled || (lastTimer units service).any UnitFile.enabled

theorem findingOf_enabled (distinct : (units.map UnitFile.place).Nodup) (member : service ∈ units)
    (oneshot : service.isOneshot = true) {finding : UnitFinding}
    (found : findingOf tools projects pathExists units service = some finding) :
    finding.enabled = enabledAtEnds units service := by
  obtain ⟨bounded, _, rfl⟩ := Option.map_eq_some_iff.mp found
  rw [assignCategory_enabled, describe, timerFor_eq distinct member oneshot]
  cases last : lastTimer units service with
  | none =>
    have own := (byKey_get? distinct).mpr ⟨member, rfl⟩
    rw [UnitFile.key] at own
    simp [enabledAtEnds, last, own]
  | some timer =>
    obtain ⟨listed, starting⟩ := List.mem_filter.mp (lastTimer_starts last)
    have scope := starts_scope starting
    have other := (byKey_get? distinct).mpr ⟨listed, rfl⟩
    rw [UnitFile.key, scope] at other
    simp [enabledAtEnds, last, other]

/-- The unit is of a live project, and its working directory is not known to be gone. -/
def ofLiveProject (tools : CaseTools) (projects : List ProjectRef) (pathExists : Text → Bool)
    (unit : UnitFile) : Prop :=
  (matchUnit tools unit projects pathExists).deadPaths = [] ∧
    ∃ project, (matchUnit tools unit projects pathExists).project = some project ∧
      project.isLive = true

theorem deadPaths_filled {path : Text}
    (dead : path ∈ (matchUnit tools service projects pathExists).deadPaths) : path ≠ [] := by
  have declared : path ∈ service.workingDirectories := by
    simp only [matchUnit] at dead
    split at dead
    · cases dead
    · split at dead
      · exact (List.mem_filter.mp dead).1
      · exact (List.mem_filter.mp dead).1
  exact (workingDirectories_eq declared).2

theorem findingOf_unmonitored {finding : UnitFinding}
    (found : findingOf tools projects pathExists units service = some finding) :
    finding.category = .unmonitored ↔ ofLiveProject tools projects pathExists service := by
  obtain ⟨bounded, _, rfl⟩ := Option.map_eq_some_iff.mp found
  rw [ofLiveProject]
  cases dead : (matchUnit tools service projects pathExists).deadPaths with
  | cons path others =>
    have filled : path ≠ [] := by
      refine @deadPaths_filled tools projects pathExists service path ?_
      rw [dead]
      exact List.mem_cons_self
    have shown : (describe tools projects pathExists (foldTimers units).timerFor
        (byKey units) service bounded .host).deadPath = some path := by
      simp [describe, dead]
    rw [assignCategory_orphaned shown filled]
    simp
  | nil =>
    have unknown : (describe tools projects pathExists (foldTimers units).timerFor
        (byKey units) service bounded .host).deadPath = none := by
      simp [describe, dead]
    cases matched : (matchUnit tools service projects pathExists).project with
    | none => simp [assignCategory, unknown, matched]
    | some project => cases live : project.isLive <;> simp [assignCategory, unknown, matched, live]

/-- The finding of the service in a sweep, if there is one. -/
def Finds (tools : CaseTools) (projects : List ProjectRef) (pathExists : Text → Bool)
    (units : List UnitFile) (wired : List Text) (service : UnitFile)
    (finding : UnitFinding) : Prop :=
  ∃ findings, classifyUnits tools projects pathExists units wired = some findings ∧
    finding ∈ findings ∧ finding.place = service.place

/-- Either end of a pair counts, whichever of the service's timers it is. -/
structure EitherEndCounts (tools : CaseTools) (projects : List ProjectRef)
    (pathExists : Text → Bool) (units : List UnitFile) (wired : List Text) (service : UnitFile) :
    Prop where
  unwired : ∀ finding, Finds tools projects pathExists units wired service finding →
    finding.category = .unmonitored → service.key ∉ wired ∧ ∀ timer ∈ timersOf units service,
      timer.key ∉ wired
  enabled : ∀ finding, Finds tools projects pathExists units wired service finding →
    (service.enabled = true ∨ ∃ timer ∈ timersOf units service, timer.enabled = true) →
      finding.enabled = true

/-- The sweep returns, and neither the service nor the timer listed last keeps it from being
reported. -/
structure Exposed (tools : CaseTools) (units : List UnitFile) (wired : List Text)
    (service : UnitFile) : Prop where
  unfolded : service.key ∉ (foldTimers units).folded
  unwired : service.key ∉ wired
  last : ∀ timer, lastTimer units service = some timer → timer.key ∉ wired
  returns : ∀ other, Unwatched units wired other → ¬ other.BurstOverflows tools

theorem finds_iff (distinct : (units.map UnitFile.place).Nodup) (member : service ∈ units)
    (oneshot : service.isOneshot = true) {finding : UnitFinding} :
    Finds tools projects pathExists units wired service finding ↔
      Exposed tools units wired service ∧ findingOf tools projects pathExists units service =
        some finding := by
  constructor
  · intro finds
    obtain ⟨findings, classified, listed, placed⟩ := finds
    have returns := classifyUnits_isSome.mp (Option.isSome_iff_exists.mpr ⟨findings, classified⟩)
    rw [classifyUnits, Option.map_eq_some_iff] at classified
    obtain ⟨found, ran, rfl⟩ := classified
    obtain ⟨unit, inside, made⟩ := mapM_mem ran ((List.mem_insertionSort _).mp listed)
    have unwatched := Unwatched.of_listed inside
    have same : unit = service :=
      List.inj_on_of_nodup_map distinct unwatched.member member
        ((classifyUnit_some made).1.symm.trans placed)
    subst same
    have ends := mt (isWired_iff distinct member oneshot).mpr (by rw [unwatched.unwired]; simp)
    rw [not_or] at ends
    exact ⟨⟨unwatched.unfolded, ends.1, fun timer last wiredTimer =>
      ends.2 ⟨timer, last, wiredTimer⟩, returns⟩, made⟩
  · intro exposed
    obtain ⟨exposed, made⟩ := exposed
    obtain ⟨findings, classified⟩ := Option.isSome_iff_exists.mp
      ((@classifyUnits_isSome tools projects pathExists units wired).mpr exposed.returns)
    have unwired : isWired service wired (foldTimers units).timerFor = false := by
      rw [← Bool.not_eq_true, isWired_iff distinct member oneshot]
      intro ends
      rcases ends with own | ⟨timer, last, wiredTimer⟩
      · exact exposed.unwired own
      · exact exposed.last timer last wiredTimer
    obtain ⟨other, listed, same⟩ := findingOf_listed ⟨member, exposed.unfolded, unwired⟩ classified
    rw [made] at same
    cases same
    exact ⟨findings, classified, listed, (classifyUnit_some made).1⟩

theorem exposed_finding (member : service ∈ units) (exposed : Exposed tools units wired service)
    (distinct : (units.map UnitFile.place).Nodup) (oneshot : service.isOneshot = true) :
    ∃ finding, findingOf tools projects pathExists units service = some finding := by
  have unwired : isWired service wired (foldTimers units).timerFor = false := by
    rw [← Bool.not_eq_true, isWired_iff distinct member oneshot]
    intro ends
    rcases ends with own | ⟨timer, last, wiredTimer⟩
    · exact exposed.unwired own
    · exact exposed.last timer last wiredTimer
  have calm := exposed.returns service ⟨member, exposed.unfolded, unwired⟩
  have bounded := restartBounded_isSome.mpr calm
  rw [← Option.isSome_iff_exists, findingOf, classifyUnit, Option.isSome_map]
  exact bounded

end

theorem eitherEndCounts_iff (tools : CaseTools) (projects : List ProjectRef)
    (pathExists : Text → Bool) (units : List UnitFile) (wired : List Text) (service : UnitFile)
    (distinct : (units.map UnitFile.place).Nodup) (member : service ∈ units)
    (oneshot : service.isOneshot = true) :
    EitherEndCounts tools projects pathExists units wired service ↔
      (Exposed tools units wired service →
        (ofLiveProject tools projects pathExists service → ∀ timer ∈ timersOf units service,
          timer.key ∉ wired) ∧
        ((∃ timer ∈ timersOf units service, timer.enabled = true) →
          enabledAtEnds units service = true)) := by
  constructor
  · intro counts exposed
    obtain ⟨finding, found⟩ :=
      @exposed_finding tools projects pathExists units wired service member exposed distinct oneshot
    have finds := (finds_iff distinct member oneshot).mpr ⟨exposed, found⟩
    refine ⟨fun live => (counts.unwired finding finds ((findingOf_unmonitored found).mpr live)).2, ?_⟩
    intro some_
    rw [← findingOf_enabled distinct member oneshot found]
    exact counts.enabled finding finds (Or.inr some_)
  · intro holds
    refine ⟨?_, ?_⟩
    · intro finding finds unmonitored
      obtain ⟨exposed, found⟩ := (finds_iff distinct member oneshot).mp finds
      exact ⟨exposed.unwired, (holds exposed).1 ((findingOf_unmonitored found).mp unmonitored)⟩
    · intro finding finds either
      obtain ⟨exposed, found⟩ := (finds_iff distinct member oneshot).mp finds
      rw [findingOf_enabled distinct member oneshot found]
      rcases either with own | some_
      · simp [enabledAtEnds, own]
      · exact (holds exposed).2 some_

/-! A job with a wired morning timer and an unwired, disabled evening one. -/

def job : UnitFile where
  name := text "job.service"
  scope := .user
  path := text "/u/job.service"
  serviceType := text "oneshot"

def jobTimer (name : String) (enabled : Bool) : UnitFile where
  name := text name
  scope := .user
  path := text "/u/" ++ text name
  triggers := some (text "job.service")
  enabled := enabled

def twiceDaily : List UnitFile := [job, jobTimer "am.timer" true, jobTimer "pm.timer" false]

def jobProjects : List ProjectRef := [⟨text "job", text "/p/job", text "active"⟩]

/-- Its two timers are unwired and the evening one alone is enabled: the job is reported, and as
enabled. -/
theorem twiceDaily_covered :
    let units := [job, jobTimer "am.timer" false, jobTimer "pm.timer" true]
    EitherEndCounts sweepTools jobProjects (fun _ => true) units [text "system:pm.timer"] job ∧
      (classifyUnits sweepTools jobProjects (fun _ => true) units [text "system:pm.timer"]).map
        (List.map fun finding => (finding.place, finding.category, finding.enabled)) =
          some [(job.place, .unmonitored, true)] := by
  intro units
  refine ⟨(eitherEndCounts_iff sweepTools jobProjects (fun _ => true) units
    [text "system:pm.timer"] job
    (by decide) List.mem_cons_self (by decide)).mpr fun _ => ⟨fun _ => ?_, fun _ => by decide⟩,
      by decide⟩
  have unwired : ((timersOf units job).all fun timer => timer.key ∉ [text "system:pm.timer"]) =
      true := by
    decide
  simpa using unwired

theorem earlier_timer_forgotten : ¬ ∀ tools projects pathExists units wired service,
    (units.map UnitFile.place).Nodup → service ∈ units → service.isOneshot = true →
      EitherEndCounts tools projects pathExists units wired service := by
  intro claim
  have counts := claim sweepTools jobProjects (fun _ => true) twiceDaily [text "user:am.timer"] job
    (by decide) List.mem_cons_self (by decide)
  have reported : ((classifyUnits sweepTools jobProjects (fun _ => true) twiceDaily
      [text "user:am.timer"]).map
      fun findings => findings.map fun finding => (finding.place, finding.category)) =
      some [(job.place, .unmonitored)] := by decide
  obtain ⟨findings, classified, shape⟩ := Option.map_eq_some_iff.mp reported
  have listed : (job.place, Category.unmonitored) ∈ findings.map fun finding =>
      (finding.place, finding.category) := by
    rw [shape]
    exact List.mem_cons_self
  obtain ⟨finding, inside, same⟩ := List.mem_map.mp listed
  obtain ⟨placed, category⟩ := Prod.mk.inj same
  have unwired := (counts.unwired finding ⟨findings, classified, inside, placed⟩ category).2
  have starting : jobTimer "am.timer" true ∈ timersOf twiceDaily job :=
    List.mem_filter.mpr ⟨by simp [twiceDaily], by decide⟩
  exact absurd (unwired _ starting) (by decide)

end SysadminAssistant.Units
