import SysadminAssistant.Core.PatternResolve
import SysadminAssistant.Library.LocalSteps
import SysadminAssistant.Monitor.Thresholds

namespace SysadminAssistant.Monitor

open Python SysadminAssistant.Core Library

/-! A whole run of `SysAdminAgent` over the alerts table, closed by the sweep
`_resolve_recovered`, and what moves its state between runs. -/

def resolvableTitlePatterns : List Text :=
  (ServiceAlertKind.all.map fun kind => text "% " ++ kind.word) ++
    [text "High RAM usage", text "High GPU temperature on %", text "High VRAM usage on %",
      text "Critical disk usage on %", text "High disk usage on %"]

def resolvable (title : Text) : Bool := resolvableTitlePatterns.any fun pattern => like pattern title

/-- A title of a service the run did not measure as healthy. -/
def unhealthyTitle (unhealthy : List Text) (title : Text) : Bool :=
  unhealthy.any fun serviceName =>
    ServiceAlertKind.all.any fun kind => title = serviceAlertTitle serviceName kind

/-- Whether the sweep closes an open row of this title. -/
def sweeps (state : Judging) (unhealthy : List Text) (title : Text) : Bool :=
  resolvable title && !(title ∈ state.judgedTitles || unhealthyTitle unhealthy title)

/-- `_resolve_recovered`: the table after it, and the number of rows it closed. -/
def resolveRecovered (state : Judging) (unhealthy : List Text) (at_ : Int) : AlertTable × Nat :=
  let recovered (alert : Alert) : Bool :=
    alert.agent = sysadmin && alert.resolvedAt.isNone && sweeps state unhealthy alert.title
  (state.table.amend (resolving recovered at_), (state.table.openRows.filter recovered).length)

/-- What the other families do to the table: they raise rows, and resolve their own by
number. -/
inductive FamilyAction where
  | raise (agent : Text) (draft : Draft)
  | resolve (ids : List Nat)

def act (stamp : Int) (table : AlertTable) : FamilyAction → Option AlertTable
  | .raise agent draft => raiseAlert table agent stamp draft
  | .resolve ids => some (resolveAlertIds table ids stamp)

/-- One run: what it finds, and whether its transaction commits in the end. -/
structure HealthRun where
  checks : List ServiceCheck
  distinct : (checks.map fun check => check.entry.name).Nodup
  stops : ArbitratedStops
  probes : Probes
  thresholds : Thresholds
  families : List FamilyAction
  stamp : Int
  sweptAt : Int
  commits : Bool

structure HealthState where
  table : AlertTable
  streaks : Streaks

section

variable (wording : Wording)

def serviceLoop (state : HealthState) (run : HealthRun) : Progress :=
  run.checks.foldl (checkService wording run.stops run.stamp) (startProgress state.table state.streaks)

/-- `_execute` as far as the thresholds; `none` is an exception. -/
def judgedRun (state : HealthState) (run : HealthRun) : Option Judging :=
  let loop := serviceLoop wording state run
  (checkThresholds wording run.stamp run.thresholds (takeResourceSnapshot run.probes)
    (loop.judging, loop.alertsRaised)).map Prod.fst

/-- `_execute` up to the sweep. -/
def beforeSweep (state : HealthState) (run : HealthRun) : Option Judging :=
  (judgedRun wording state run).bind fun judged =>
    (run.families.foldlM (act run.stamp) judged.table).map fun table => { judged with table }

/-- The counters live in memory and survive a transaction that rolls back. -/
def runHealth (state : HealthState) (run : HealthRun) : HealthState where
  table :=
    match beforeSweep wording state run with
    | none => state.table
    | some judging =>
      if run.commits then
        (resolveRecovered judging (serviceLoop wording state run).unhealthy run.sweptAt).1
      else state.table
  streaks := (serviceLoop wording state run).streaks

/-- `outside` is whatever else writes the table between two runs: the routes that resolve
an alert, the unit that reports a dead service. -/
inductive HealthEvent where
  | run (run : HealthRun)
  | outside (stamp : Int) (actions : List FamilyAction)
  | reload (declared : List Text)
  | restart

/-- `forget_unknown`, for the counters. -/
def forgetStreaks (streaks : Streaks) (declared : List Text) : Streaks :=
  let dropped := (streaks.degradedCounts.keys ++ streaks.failureCounts.keys).filter
    fun serviceName => serviceName ∉ declared
  { degradedCounts := dropped.foldl Dict.erase streaks.degradedCounts
    failureCounts := dropped.foldl Dict.erase streaks.failureCounts }

def nextHealth (state : HealthState) : HealthEvent → HealthState
  | .run run => runHealth wording state run
  | .outside stamp actions =>
    { state with table := (actions.foldlM (act stamp) state.table).getD state.table }
  | .reload declared => { state with streaks := forgetStreaks state.streaks declared }
  | .restart => { state with streaks := ⟨.empty, .empty⟩ }

/-- A property of every run of a sequence, each from the state the events before it left. -/
def RunsAll (holds : HealthState → HealthRun → Prop) : HealthState → List HealthEvent → Prop
  | _, [] => True
  | state, event :: rest =>
    (∀ run, event = .run run → holds state run) ∧ RunsAll holds (nextHealth wording state event) rest

theorem runsAll_congr {left right : HealthState → HealthRun → Prop}
    (same : ∀ state run, left state run ↔ right state run) (state : HealthState)
    (events : List HealthEvent) :
    RunsAll wording left state events ↔ RunsAll wording right state events := by
  induction events generalizing state with
  | nil => exact Iff.rfl
  | cons event rest ih =>
    simp only [RunsAll, same]
    rw [ih]

theorem runsAll_of_forall {holds : HealthState → HealthRun → Prop}
    (always : ∀ state run, holds state run) (state : HealthState) (events : List HealthEvent) :
    RunsAll wording holds state events := by
  induction events generalizing state with
  | nil => trivial
  | cons event rest ih => exact ⟨fun run _ => always state run, ih _⟩

end

theorem openId_resolveRecovered (state : Judging) (unhealthy : List Text) (at_ : Int)
    (title : Text) : openId (resolveRecovered state unhealthy at_).1 sysadmin title =
      if sweeps state unhealthy title then none else openUnder state title := by
  simp only [resolveRecovered, openUnder, openId, openRow?_resolving]
  cases found : state.table.openRow? (sysadmin, title) with
  | none => simp
  | some alert =>
    obtain ⟨member, same⟩ := Table.openRow?_eq_some.mp found
    obtain ⟨agent, titled⟩ := Prod.mk.inj same
    have opened : alert.resolvedAt.isNone = true := (List.mem_filter.mp member).2
    have ours : alert.agent = sysadmin := agent
    have named : alert.title = title := titled
    cases swept : sweeps state unhealthy title <;> simp [Option.filter, ours, opened, named, swept]

/-- What the judging half of a run leaves for the rest of it. -/
structure JudgedBy (wording : Wording) (state : HealthState) (run : HealthRun) (judged : Judging) :
    Prop where
  grows : Grows (startJudging state.table) judged
  standing : (serviceLoop wording state run).writeFailures = [] → Standing judged
  titles : ∀ title, title ∈ judged.judgedTitles ↔
    title ∈ (serviceLoop wording state run).judging.judgedTitles ∨
      title ∈ (thresholdJudgements wording run.thresholds (takeResourceSnapshot run.probes)).map
        Draft.title

theorem serviceLoop_sound (wording : Wording) (state : HealthState) (run : HealthRun) :
    Sound (serviceLoop wording state run) :=
  loop_sound wording run.stops run.stamp (startProgress_sound state.table state.streaks) run.checks

theorem judgedRun_spec (wording : Wording) (state : HealthState) (run : HealthRun) :
    ∃ judged, judgedRun wording state run = some judged ∧ JudgedBy wording state run judged := by
  have start := startProgress_sound state.table state.streaks
  obtain ⟨after, ran, _, grown, stands, titles⟩ := @checkThresholds_total run.stamp
    (thresholdJudgements wording run.thresholds (takeResourceSnapshot run.probes))
    ((serviceLoop wording state run).judging, (serviceLoop wording state run).alertsRaised)
    (serviceLoop_sound wording state run).tracks
  refine ⟨after.1, by simp [judgedRun, checkThresholds, ran], ?_, ?_, titles⟩
  · exact (loop_grows wording run.stops run.stamp start run.checks).trans grown
  · intro clean
    exact stands (loop_clean wording run.stops run.stamp start
      (startJudging_standing state.table) clean).1

/-- A family leaves a title alone: it raises no row under it and resolves none. -/
def touches (table : AlertTable) (title : Text) : FamilyAction → Prop
  | .raise agent draft => agent = sysadmin ∧ draft.title = title
  | .resolve ids => ∃ id ∈ ids, openId table sysadmin title = some id

def Touched (stamp : Int) (title : Text) : AlertTable → List FamilyAction → Prop
  | _, [] => False
  | table, action :: rest =>
    touches table title action ∨ ∃ next, act stamp table action = some next ∧
      Touched stamp title next rest

theorem openId_act {stamp : Int} {table next : AlertTable} {action : FamilyAction} {title : Text}
    (acted : act stamp table action = some next) (apart : ¬ touches table title action) :
    openId next sysadmin title = openId table sysadmin title := by
  cases action with
  | raise agent draft =>
    simp only [touches, not_and] at apart
    have key : (agent, draft.title) ≠ (sysadmin, title) := by
      intro same
      exact apart (congrArg Prod.fst same) (congrArg Prod.snd same)
    rw [openId, openRow?_raiseAlert acted, if_neg key, openId]
  | resolve ids =>
    simp only [act, Option.some.injEq] at acted
    subst acted
    simp only [touches, not_exists, not_and] at apart
    rw [openId, openRow?_resolveAlertIds, openId]
    cases found : table.openRow? (sysadmin, title) with
    | none => rfl
    | some alert =>
      have spared : alert.id ∉ ids := fun member => apart alert.id member (by simp [openId, found])
      simp [Option.filter, spared]

theorem openId_families {stamp : Int} {title : Text} {actions : List FamilyAction}
    {table after : AlertTable} (acted : actions.foldlM (act stamp) table = some after)
    (apart : ¬ Touched stamp title table actions) :
    openId after sysadmin title = openId table sysadmin title := by
  induction actions generalizing table with
  | nil =>
    rw [List.foldlM_nil] at acted
    rw [Option.some.inj acted]
  | cons action rest ih =>
    obtain ⟨next, stepped, later⟩ := foldlM_cons_some.mp acted
    simp only [Touched, not_or, not_exists, not_and] at apart
    rw [ih later (apart.2 next stepped), openId_act stepped apart.1]

/-! When a judgement runs into the index that admits one open row for a title. -/

section

variable (wording : Wording)

/-- No judgement of the run inserts a second open row, and what could be recorded of a
service is recorded as measured. -/
def NoSecondRow (state : HealthState) (run : HealthRun) : Prop :=
  NoneRefused wording run.stops run.stamp (startProgress state.table state.streaks) run.checks ∧
    (checkThresholds wording run.stamp run.thresholds (takeResourceSnapshot run.probes)
      ((serviceLoop wording state run).judging, (serviceLoop wording state run).alertsRaised)).isSome ∧
    ∀ check ∈ run.checks, check.refused = false →
      (check.entry.name, check.status) ∈ (serviceLoop wording state run).health

/-- Every service the run restarts has no row of an earlier restart open. -/
def RestartsAreNews (state : HealthState) (run : HealthRun) : Prop :=
  ∀ check ∈ run.checks, restarts state.streaks check = true →
    openId state.table sysadmin (serviceAlertTitle check.entry.name .autoRestarted) = none

theorem noSecondRow_iff (state : HealthState) (run : HealthRun) :
    NoSecondRow wording state run ↔ RestartsAreNews state run := by
  have refusals := noneRefused_iff wording run.stops run.stamp
    (startProgress_sound state.table state.streaks) run.distinct
  have thresholds := @checkThresholds_total run.stamp
    (thresholdJudgements wording run.thresholds (takeResourceSnapshot run.probes))
    ((serviceLoop wording state run).judging, (serviceLoop wording state run).alertsRaised)
    (serviceLoop_sound wording state run).tracks
  constructor
  · intro accepted
    exact refusals.mp accepted.1
  · intro news
    have accepted := refusals.mpr news
    obtain ⟨after, ran, _⟩ := thresholds
    refine ⟨accepted, ?_, loop_records wording run.stops run.stamp accepted⟩
    rw [checkThresholds, ran]
    rfl

/-- In every sequence of runs no judgement meets an open row of its own title just when
no service is restarted while the row of an earlier restart is open. -/
theorem noSecondRow_along_iff (state : HealthState) (events : List HealthEvent) :
    RunsAll wording (NoSecondRow wording) state events ↔
      RunsAll wording RestartsAreNews state events :=
  runsAll_congr wording (noSecondRow_iff wording) state events

end

def plainWording : Wording := ⟨fun value _ => value, fun _ => []⟩

def idleStops : ArbitratedStops := ⟨text "idle", [], none, none⟩

def quietProbes : Probes := ⟨.finite 10, [], ⟨false, none, some .empty⟩⟩

def someThresholds : Thresholds := ⟨80, 90, 85, 90, 90⟩

/-- `web` restarts after every failed check and stays down. -/
def webDown : ServiceCheck where
  entry := ⟨text "web", true, true, some (text "web.service"), 1⟩
  status := .critical
  details := .empty
  restarted := (true, [])
  refused := false
  isolationRefused := false

def downRun : HealthRun where
  checks := [webDown]
  distinct := List.nodup_singleton _
  stops := idleStops
  probes := quietProbes
  thresholds := someThresholds
  families := []
  stamp := 0
  sweptAt := 1
  commits := true

def freshHealth : HealthState := ⟨Table.empty, ⟨.empty, .empty⟩⟩

/-- The second restart of an outage meets the row of the first. -/
theorem second_restart_refused :
    ¬ RunsAll plainWording (NoSecondRow plainWording) freshHealth [.run downRun, .run downRun] := by
  intro accepted
  have recorded := (accepted.2.1 downRun rfl).2.2 webDown (by simp [downRun]) rfl
  have stored : (serviceLoop plainWording (runHealth plainWording freshHealth downRun)
      downRun).health = [(text "web", .error)] := by decide
  rw [nextHealth, stored] at recorded
  exact absurd recorded (by decide)

end SysadminAssistant.Monitor
