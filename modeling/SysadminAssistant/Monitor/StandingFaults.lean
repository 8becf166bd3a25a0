import SysadminAssistant.Monitor.StandingRows

namespace SysadminAssistant.Monitor.AlertTurns

open Python SysadminAssistant.Core Library
  SysadminAssistant.Core.UnitFailures

/-! Three families over whole runs: a row stands for what was first seen of its subject since it was
last seen to be gone, and a turn of another family is not a sighting. -/

/-- A unit is dead from its first recorded failure; only the daemon's own start is ever seen. -/
def sightFailure (unit : Text) (_ : AlertTable) : Turn → Sighting (Draft × Int)
  | .failed met failure _ =>
    if failure.unit = unit ∧ met.reachable = true ∧ met.commits = true then
      .seen (failureDraft failure met.schema, met.stamp)
    else .unmoved
  | .started _ => if unit = ownUnit then .gone else .unmoved
  | _ => .unmoved

/-- The sweep sees a database gone that is named like a service's state. -/
def sightCollation (datname : Text) (_ : AlertTable) : Turn → Sighting (Draft × Int)
  | .collation (some reading) stamp _ => sighted reading.current stamp datname
  | .swept judging unhealthy _ =>
    if sweptDatabase datname && !(collationTitle datname ∈ judging.judgedTitles ||
        unhealthyTitle unhealthy (collationTitle datname)) then .gone
    else .unmoved
  | _ => .unmoved

/-- An unusual reading that a fixed threshold speaks for neither opens a row nor closes one. -/
def sightAnomaly (key : Text) (table : AlertTable) : Turn → Sighting (Draft × Int)
  | .anomalies config statistics metrics history breached stamp _ =>
    if config.enabled = true then
      sighted (anomaliesNow config statistics (detectAnomalies config statistics metrics history)
        (thresholdKeys breached table)) stamp key
    else .unmoved
  | _ => .unmoved

theorem unitFailureTitle_injective {left right : Text}
    (same : unitFailureTitle left = unitFailureTitle right) :
    left = right := List.append_cancel_right same

section Carried

variable {table : AlertTable} (kept : Kept table)

include kept

theorem failure_carried {unit : Text} (named : BlankFree unit) (turn : Turn) :
    standing (next table turn) (unitFailureTitle unit) =
      Sighting.carry (standing table (unitFailureTitle unit)) (sightFailure unit table turn) := by
  have apart := failure_not_family named
  cases turn with
  | failed met failure free =>
    by_cases same : failure.unit = unit
    · subst same
      rcases recordUnitFailure_cases met table failure with ⟨_, unchanged, old⟩
        | ⟨_, reached, committed, new, raised⟩
      · rw [next, unchanged, sightFailure]
        split
        · rename_i through
          obtain ⟨content, stands⟩ := Option.isSome_iff_exists.mp (old through.2.1 through.2.2)
          rw [stands]
          rfl
        · rfl
      · rw [sightFailure, if_pos ⟨rfl, reached, committed⟩, new]
        exact (standing_raised raised).trans (if_pos rfl)
    · rw [standing_failed_other free fun titles => same (unitFailureTitle_injective titles),
        sightFailure, if_neg fun through => same through.1]
      rfl
  | started at_ =>
    by_cases own : unit = ownUnit
    · subst own
      rw [sightFailure, if_pos rfl]
      refine standing_taken fun row found => ?_
      obtain ⟨ours, titled, opened⟩ := open_titled found
      have active : row ∈ activeAlerts table sysadmin :=
        mem_activeAlerts.mpr (by rw [titled]; exact found)
      obtain ⟨failure, world, _, content⟩ := (kept.row active).of_unit named titled
      have written : fromHandler row.details = true := by
        have details : row.details = (failureDraft failure world).details :=
          congrArg Draft.details content
        rw [details]
        exact fromHandler_failure failure world
      simp only [resolvedBy, ours, titled, opened, written, decide_true]
      rfl
    · rw [standing_started_other fun titles => own (unitFailureTitle_injective titles).symm,
        sightFailure, if_neg own]
      rfl
  | collation reading stamp at_ =>
    exact standing_collation_other kept fun datname => (failure_not_collation named datname).symm
  | anomalies config statistics metrics history breached stamp at_ =>
    exact standing_anomalies_other kept fun label => (failure_not_anomaly unit label).symm
  | swept judging unhealthy at_ =>
    have spared : sweeps judging unhealthy (unitFailureTitle unit) = false := by
      rw [sweeps, failure_unresolvable named]
      rfl
    rw [standing_swept, spared]
    rfl
  | raised agent stamp draft ours => exact standing_other kept apart trivial
  | refreshed agent draft ours => exact standing_other kept apart trivial
  | cleared key listed chosen at_ => exact standing_other kept apart trivial
  | closed agent another which at_ => exact standing_other kept apart trivial

theorem collation_carried {datname : Text} (named : datname ≠ []) (turn : Turn) :
    standing (next table turn) (collationTitle datname) =
      Sighting.carry (standing table (collationTitle datname))
        (sightCollation datname table turn) := by
  have apart := collation_not_family datname
  cases turn with
  | failed met failure free => exact standing_failed_other free (failure_not_collation free datname)
  | started at_ => exact standing_started_other (failure_not_collation (by decide) datname)
  | collation reading stamp at_ =>
    cases reading with
    | none => rfl
    | some reading =>
      obtain ⟨after, ran, ours, _⟩ := OwnedFamily.reconcile_spec kept.collations reading.sees stamp at_
      cases ran.symm.trans (next_collation kept reading stamp at_)
      exact ours datname named
  | anomalies config statistics metrics history breached stamp at_ =>
    exact standing_anomalies_other kept fun label => (collation_not_anomaly datname label).symm
  | swept judging unhealthy at_ =>
    rw [standing_swept, sweeps, collation_resolvable, sightCollation]
    split <;> rfl
  | raised agent stamp draft ours => exact standing_other kept apart trivial
  | refreshed agent draft ours => exact standing_other kept apart trivial
  | cleared key listed chosen at_ => exact standing_other kept apart trivial
  | closed agent another which at_ => exact standing_other kept apart trivial

theorem anomaly_carried {key : Text} (metric : IsMetric key) (turn : Turn) :
    standing (next table turn) (anomalyTitle (metricLabel key)) =
      Sighting.carry (standing table (anomalyTitle (metricLabel key)))
        (sightAnomaly key table turn) := by
  have apart := anomaly_not_family (metricLabel key)
  cases turn with
  | failed met failure free => exact standing_failed_other free (failure_not_anomaly _ _)
  | started at_ => exact standing_started_other (failure_not_anomaly _ _)
  | collation reading stamp at_ =>
    exact standing_collation_other kept fun datname => collation_not_anomaly datname _
  | anomalies config statistics metrics history breached stamp at_ =>
    cases enabled : config.enabled with
    | false =>
      rw [next_anomalies_off enabled, sightAnomaly, enabled]
      rfl
    | true =>
      obtain ⟨after, ran, ours, _⟩ := OwnedFamily.reconcile_spec kept.anomalies
        (detectAnomalies_sees config statistics metrics history (thresholdKeys breached table))
          stamp at_
      cases ran.symm.trans (next_anomalies kept enabled statistics metrics history breached stamp at_)
      rw [sightAnomaly, if_pos enabled]
      exact ours key metric
  | swept judging unhealthy at_ =>
    rw [standing_swept, sweeps, anomaly_unresolvable]
    rfl
  | raised agent stamp draft ours => exact standing_other kept apart trivial
  | refreshed agent draft ours => exact standing_other kept apart trivial
  | cleared key listed chosen at_ => exact standing_other kept apart trivial
  | closed agent another which at_ => exact standing_other kept apart trivial

end Carried

/-- The table after a run of turns. -/
def after (turns : List Turn) : AlertTable := turns.foldl next Table.empty

theorem kept_after (turns : List Turn) : Kept (after turns) := by
  refine List.foldlRecOn turns next kept_empty ?_
  intro table kept turn _
  exact kept_next kept turn

/-! ## Dead units -/

/-- What is said of a dead unit, and since when it is dead: its first recorded failure after the
last start that closed it. -/
def deadUnit (turns : List Turn) (unit : Text) : Option (Draft × Int) :=
  Sighting.firstSeen (Sighting.along next (sightFailure unit) Table.empty turns)

theorem standing_deadUnit (turns : List Turn) {unit : Text} (named : BlankFree unit) :
    standing (after turns) (unitFailureTitle unit) = deadUnit turns unit := by
  have carries : ∀ table turn, Kept table → standing (next table turn) (unitFailureTitle unit) =
      Sighting.carry (standing table (unitFailureTitle unit)) (sightFailure unit table turn) :=
    fun table turn kept => failure_carried kept named turn
  exact @Sighting.firstSeen_along _ _ _ next (sightFailure unit) Kept
    (fun table => standing table (unitFailureTitle unit)) (fun _ turn kept =>
      kept_next kept turn) carries
    Table.empty kept_empty rfl turns

theorem pendingFailure_unit {row : Alert} {failure : Failure} {world : Except Text SchemaWorld}
    (content : (told row).1 = failureDraft failure world) :
    (pendingFailure row).unit = failure.unit := by
  have title : row.title = unitFailureTitle failure.unit := congrArg Draft.title content
  have details : row.details = failureDetails failure (schemaDiagnosis world).2 :=
    congrArg Draft.details content
  have found : (failureDetails failure (schemaDiagnosis world).2).get? (text "unit") =
      some (.str failure.unit) :=
    Dict.get?_ofEntries (by
      simp only [List.map_cons, List.map_nil]
      decide) (List.mem_cons_of_mem _ List.mem_cons_self)
  rw [pendingFailure, details, found, title]
  cases failure.unit with
  | nil => rfl
  | cons c rest => rfl

theorem mem_standingRows {table : AlertTable} (kept : Kept table) {row : Alert} :
    row ∈ standingRows table ↔
    ∃ unit, BlankFree unit ∧ table.openRow? (sysadmin, unitFailureTitle unit) = some row := by
  rw [standingRows, List.mem_filter]
  constructor
  · intro held
    obtain ⟨inOpen, stands⟩ := held
    simp only [isStanding, Bool.and_eq_true, decide_eq_true_eq] at stands
    have active : row ∈ activeAlerts table sysadmin :=
      List.mem_filter.mpr ⟨inOpen, decide_eq_true stands.1⟩
    obtain ⟨failure, world, named, content⟩ := (kept.row active).of_handler stands.2
    have title : row.title = unitFailureTitle failure.unit := congrArg Draft.title content
    exact ⟨failure.unit, named, title ▸ mem_activeAlerts.mp active⟩
  · intro held
    obtain ⟨unit, named, found⟩ := held
    obtain ⟨ours, titled, _⟩ := open_titled found
    have active : row ∈ activeAlerts table sysadmin :=
      mem_activeAlerts.mpr (by rw [titled]; exact found)
    obtain ⟨failure, world, _, content⟩ := (kept.row active).of_unit named titled
    have details : row.details = (failureDraft failure world).details := congrArg Draft.details content
    refine ⟨(Table.openRow?_eq_some.mp found).1, ?_⟩
    simp only [isStanding, Bool.and_eq_true, decide_eq_true_eq]
    exact ⟨ours, details ▸ fromHandler_failure failure world⟩

/-- What the login is told of one unit. -/
def PendingFailure.content (pending : PendingFailure) : Draft × Int :=
  (⟨.critical, pending.title, pending.message, pending.details⟩, pending.createdAt)

theorem pendingFailure_content {table : AlertTable} (kept : Kept table) {unit : Text}
    (named : BlankFree unit) {row : Alert}
    (found : table.openRow? (sysadmin, unitFailureTitle unit) = some row) :
    (pendingFailure row).unit = unit ∧ PendingFailure.content (pendingFailure row) = told row := by
  have titled := (open_titled found).2.1
  have active : row ∈ activeAlerts table sysadmin := mem_activeAlerts.mpr (by rw [titled]; exact found)
  obtain ⟨failure, world, same, content⟩ := (kept.row active).of_unit named titled
  have severity : row.severity = .critical := congrArg Draft.severity content
  refine ⟨(pendingFailure_unit content).trans same, ?_⟩
  rw [PendingFailure.content, told, severity]
  rfl

/-- The two ends of the table agree with what happened, whatever else was written in between. -/
structure FailuresTold (turns : List Turn) : Prop where
  /-- The login reads the units that are dead, each once and the longest dead first. -/
  pending : ∀ rows, ReadInOrder (after turns) rows →
    (∀ failure : PendingFailure, failure ∈ pendingUnitFailures (some rows) ↔
      BlankFree failure.unit ∧ deadUnit turns failure.unit = some (PendingFailure.content failure)) ∧
    ((pendingUnitFailures (some rows)).map PendingFailure.unit).Nodup ∧
    (pendingUnitFailures (some rows)).Pairwise fun earlier later => earlier.createdAt ≤ later.createdAt
  /-- The handler writes a row where it gets through and the unit is not dead already. -/
  recorded : ∀ (met : HandlerWorld) (failure : Failure), BlankFree failure.unit →
    ((recordUnitFailure met (after turns) failure).1 = true ↔
      met.reachable = true ∧ met.commits = true ∧ deadUnit turns failure.unit = none)
  /-- The start closes the row of a dead daemon, and no other. -/
  closed : ∀ at_, (resolveUnitFailures (after turns) ownUnit at_).2 =
    if (deadUnit turns ownUnit).isSome then 1 else 0

theorem pending_read (turns : List Turn) (rows : List Alert) (read : ReadInOrder (after turns) rows) :
    (∀ failure : PendingFailure, failure ∈ pendingUnitFailures (some rows) ↔
      BlankFree failure.unit ∧ deadUnit turns failure.unit = some (PendingFailure.content failure)) ∧
    ((pendingUnitFailures (some rows)).map PendingFailure.unit).Nodup ∧
    (pendingUnitFailures (some rows)).Pairwise fun earlier later =>
      earlier.createdAt ≤ later.createdAt := by
  have kept := kept_after turns
  have listed : ∀ row, row ∈ rows ↔ ∃ unit, BlankFree unit ∧
      (after turns).openRow? (sysadmin, unitFailureTitle unit) = some row :=
    fun row => read.perm.mem_iff.trans (mem_standingRows kept)
  refine ⟨fun failure => ?_, ?_, ?_⟩
  · simp only [pendingUnitFailures, Option.getD_some, List.mem_map]
    constructor
    · intro told
      obtain ⟨row, inside, rfl⟩ := told
      obtain ⟨unit, named, found⟩ := (listed row).mp inside
      obtain ⟨same, content⟩ := pendingFailure_content kept named found
      rw [same, ← standing_deadUnit turns named, standing, found, content]
      exact ⟨named, rfl⟩
    · intro dead
      obtain ⟨named, dead⟩ := dead
      rw [← standing_deadUnit turns named] at dead
      obtain ⟨row, found, content⟩ := Option.map_eq_some_iff.mp dead
      obtain ⟨same, read⟩ := pendingFailure_content kept named found
      refine ⟨row, (listed row).mpr ⟨_, named, found⟩, ?_⟩
      have whole := read.trans content
      simp only [PendingFailure.content, Prod.mk.injEq, Draft.mk.injEq] at whole
      obtain ⟨⟨_, title, message, details⟩, since⟩ := whole
      cases failure with
      | mk unit failureTitle failureMessage createdAt failureDetails =>
        subst same title message details since
        rfl
  · have distinct : rows.Nodup :=
      (read.perm.nodup_iff).mpr ((after turns).unique.of_map _ |>.filter _)
    rw [pendingUnitFailures, Option.getD_some, List.map_map]
    refine distinct.map_on fun left inLeft right inRight same => ?_
    obtain ⟨leftUnit, leftNamed, leftFound⟩ := (listed left).mp inLeft
    obtain ⟨rightUnit, rightNamed, rightFound⟩ := (listed right).mp inRight
    have units : leftUnit = rightUnit := (pendingFailure_content kept leftNamed leftFound).1.symm.trans
      (same.trans (pendingFailure_content kept rightNamed rightFound).1)
    subst units
    exact Option.some.inj (leftFound.symm.trans rightFound)
  · rw [pendingUnitFailures, Option.getD_some]
    exact List.pairwise_map.mpr read.sorted

theorem countP_key {ρ κ : Type} [DecidableEq κ] {key : ρ → κ} {rows : List ρ}
    (distinct : (rows.map key).Nodup) (wanted : κ) :
    rows.countP (fun row => decide (key row = wanted)) =
      if (rows.find? fun row => decide (key row = wanted)).isSome then 1 else 0 := by
  induction rows with
  | nil => rfl
  | cons row rest ih =>
    rw [List.map_cons, List.nodup_cons] at distinct
    by_cases same : key row = wanted
    · have others : rest.countP (fun row => decide (key row = wanted)) = 0 := by
        refine List.countP_eq_zero.mpr fun other member => ?_
        intro too
        exact distinct.1 (List.mem_map.mpr ⟨other, member, (of_decide_eq_true too).trans same.symm⟩)
      simp [same, others]
    · simp [same, ih distinct.2]

theorem unit_failures_told (turns : List Turn) : FailuresTold turns where
  pending := pending_read turns
  recorded met failure named := by
    rw [← standing_deadUnit turns named]
    rcases recordUnitFailure_cases met (after turns) failure with ⟨kept, _, old⟩
      | ⟨wrote, reached, committed, new, _⟩
    · rw [kept]
      constructor
      · intro no
        cases no
      · intro through
        obtain ⟨reached, committed, new⟩ := through
        have stands := old reached committed
        rw [new] at stands
        cases stands
    · exact ⟨fun _ => ⟨reached, committed, new⟩, fun _ => wrote⟩
  closed at_ := by
    have own : BlankFree ownUnit := by decide
    have written : ∀ row ∈ (after turns).openRows, row.agent = sysadmin →
        row.title = unitFailureTitle ownUnit → fromHandler row.details = true := by
      intro row inOpen ours titled
      have active : row ∈ activeAlerts (after turns) sysadmin :=
        List.mem_filter.mpr ⟨inOpen, decide_eq_true ours⟩
      obtain ⟨failure, world, _, content⟩ := ((kept_after turns).row active).of_unit own titled
      have details : row.details = (failureDraft failure world).details :=
        congrArg Draft.details content
      exact details ▸ fromHandler_failure failure world
    have same : (after turns).rows.countP (resolvedBy ownUnit) =
        (after turns).openRows.countP fun row =>
          decide (OpenRow.key row = (sysadmin, unitFailureTitle ownUnit)) := by
      rw [Table.openRows, List.countP_filter]
      refine List.countP_congr fun row member => ?_
      simp only [resolvedBy, Bool.and_eq_true, decide_eq_true_eq]
      constructor
      · intro resolved
        obtain ⟨⟨⟨ours, titled⟩, opened⟩, _⟩ := resolved
        exact ⟨Prod.ext ours titled, opened⟩
      · intro resolved
        obtain ⟨key, opened⟩ := resolved
        obtain ⟨ours, titled⟩ := Prod.mk.inj key
        exact ⟨⟨⟨ours, titled⟩, opened⟩,
          written row (List.mem_filter.mpr ⟨member, opened⟩) ours titled⟩
    have counted := countP_key (after turns).unique (sysadmin, unitFailureTitle ownUnit)
    rw [← standing_deadUnit turns own, standing, Option.isSome_map]
    exact same.trans counted

/-! ## Stale collations and unusual readings -/

/-- The row of a database says what was read of it when it was first found stale, however its
versions have moved since, and every check goes through with a row for each database that has
none. -/
structure CollationsTold (turns : List Turn) : Prop where
  rows : ∀ datname, datname ≠ [] → standing (after turns) (collationTitle datname) =
    Sighting.firstSeen (Sighting.along next (sightCollation datname) Table.empty turns)
  checks : ∀ (reading : CatalogReading) stamp at_, ∃ table counts,
    checkCollation (some reading) stamp at_ (after turns) = some (table, counts) ∧
      counts.mismatched = reading.mismatches.length ∧
      counts.raised = reading.mismatches.countP fun mismatch =>
        (standing (after turns) (collationTitle mismatch.datname)).isNone

theorem collations_told (turns : List Turn) : CollationsTold turns where
  rows datname named := by
    have carries : ∀ table turn, Kept table → standing (next table turn) (collationTitle datname) =
        Sighting.carry (standing table (collationTitle datname)) (sightCollation datname table turn) :=
      fun table turn kept => collation_carried kept named turn
    exact @Sighting.firstSeen_along _ _ _ next (sightCollation datname) Kept
      (fun table => standing table (collationTitle datname)) (fun _ turn kept =>
        kept_next kept turn) carries
      Table.empty kept_empty rfl turns
  checks reading stamp at_ := by
    have finds := (kept_after turns).collations
    obtain ⟨table, ran, _⟩ := OwnedFamily.reconcile_spec finds reading.sees stamp at_
    rw [← checkCollation_reconciles] at ran
    obtain ⟨⟨same, counts⟩, checked, rfl⟩ := Option.map_eq_some_iff.mp ran
    refine ⟨same, counts, checked, ?_⟩
    simp only [checkCollation, Option.bind_eq_bind, Option.bind_eq_some_iff] at checked
    obtain ⟨raised, _, whole⟩ := checked
    cases whole
    refine ⟨rfl, ?_⟩
    rw [raisedMismatches, ← List.countP_eq_length_filter]
    refine List.countP_congr fun mismatch member => ?_
    have found := OwnedFamily.openBy_get? finds (reading.named mismatch member)
    rw [absent_key]
    change ((openBy collationFamily.subject _).get? _).isNone = true ↔ _
    rw [found, Option.isNone_map, standing, Option.isNone_map]
    rfl

/-- The row of a metric says what was unusual of it when a row was first raised in the present
stretch of unusual readings; while the check is off, it is neither raised nor closed.  The checks go
through where the titles fit their column. -/
structure AnomaliesTold (turns : List Turn) : Prop where
  rows : ∀ key, IsMetric key → standing (after turns) (anomalyTitle (metricLabel key)) =
    Sighting.firstSeen (Sighting.along next (sightAnomaly key) Table.empty turns)
  checks : ∀ config statistics metrics history breached stamp at_,
    (checkAnomalies config statistics metrics history breached stamp at_ (after turns)).isSome = true

theorem anomalies_told (turns : List Turn) : AnomaliesTold turns where
  rows key metric := by
    have carries : ∀ table turn, Kept table →
        standing (next table turn) (anomalyTitle (metricLabel key)) =
        Sighting.carry (standing table (anomalyTitle (metricLabel key)))
          (sightAnomaly key table turn) :=
      fun table turn kept => anomaly_carried kept metric turn
    exact @Sighting.firstSeen_along _ _ _ next (sightAnomaly key) Kept
      (fun table => standing table (anomalyTitle (metricLabel key))) (fun _ turn kept =>
        kept_next kept turn) carries
      Table.empty kept_empty rfl turns
  checks config statistics metrics history breached stamp at_ := by
    cases enabled : config.enabled with
    | false =>
      rw [checkAnomalies, if_pos enabled]
      rfl
    | true =>
      obtain ⟨table, ran, _⟩ := OwnedFamily.reconcile_spec (kept_after turns).anomalies
        (detectAnomalies_sees config statistics metrics history
          (thresholdKeys breached (after turns))) stamp at_
      rw [← checkAnomalies_reconciles enabled] at ran
      obtain ⟨whole, checked, _⟩ := Option.map_eq_some_iff.mp ran
      rw [checked]
      rfl

end SysadminAssistant.Monitor.AlertTurns
