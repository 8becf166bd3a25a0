import SysadminAssistant.Core.PurgedRows
import SysadminAssistant.Library.StepHistory

namespace SysadminAssistant.Core.Retention

open Python Library

/-! What a purge must keep, what it must take, and when it does. -/

/-- What tells the entities of a table apart.  Unit audits are told apart by both directories. -/
def entityOf : (table : TableName) → Option (Row table → List (Option Text))
  | .reliabilityScores => some fun row => [some row.columns.serviceName]
  | .unitAudits => some fun row => [row.columns.userUnitDir, row.columns.systemUnitDir]
  | .filesystemAudits => some fun row => [some row.columns.scanRoot]
  | .diskReviews => some fun _ => []
  | .healthReviews => some fun _ => []
  | .logReviews => some fun _ => []
  | _ => none

/-- No row of the same entity is newer. -/
def Newest {table : TableName} (rows : List (Row table)) (entity : Row table → List (Option Text))
    (row : Row table) : Prop :=
  ∀ other ∈ rows, entity other = entity row → other.stamp ≤ row.stamp

/-- An unresolved alert, an open span, and what was said of a fault that has an unresolved alert. -/
def Live (db : Database) : (table : TableName) → Row table → Prop
  | .alerts, row => row.columns.resolved = false
  | .gameSpans, row => row.columns.endedAt = none
  | .desktopNotifications, row =>
    ∃ alert ∈ db.rows .alerts, alert.columns.resolved = false ∧ alert.columns.title = row.columns.title
  | _, _ => False

/-- Two calls read the clock alike. -/
def Run.SameInstant (run again : Run) : Prop :=
  (∀ table, (again.turn table).now = (run.turn table).now) ∧
    again.downsampling.now = run.downsampling.now

/-- The window of a table that the call purges starts at `bound`. -/
def Run.Cuts (run : Run) (db : Database) (table : TableName) (bound : Int) : Prop :=
  ∃ days, db.window? table = some days ∧ (run.turn table).failed = false ∧
    bound = (run.turn table).now - days * day

def weekLength : Int := 7 * day

/-- What one call of `run_retention` owes its tables. -/
structure Run.Retains (run : Run) (db : Database) : Prop where
  finishes : run.selected = true → run.committed = true → (runRetention run db).isSome
  live : ∀ table, ∀ row ∈ db.rows table, Live db table row → row ∈ (run.after db).rows table
  newest : ∀ table entity, entityOf table = some entity → ∀ row ∈ db.rows table,
    Newest (db.rows table) entity row →
      ∃ survivor ∈ (run.after db).rows table, entity survivor = entity row ∧ survivor.stamp = row.stamp
  /-- A row is lost to its own table's statement only, or to the downsampling of what is older
  than a week. -/
  spared : ∀ table, ∀ row ∈ db.rows table,
    (table = .resourceSnapshots →
      run.downsampling.failed = true ∨ run.downsampling.now - weekLength ≤ row.stamp) →
    (∀ bound, run.Cuts db table bound → bound ≤ row.stamp) → row ∈ (run.after db).rows table
  purged : run.selected = true → run.committed = true → ∀ table bound, run.Cuts db table bound →
    ∀ row ∈ (run.after db).rows table, row.stamp < bound →
      Live db table row ∨ ∃ entity, entityOf table = some entity ∧ Newest (db.rows table) entity row
  stamped : run.selected = true → run.committed = true → ∀ config ∈ db.configs,
    ∀ table : TableName, config.tableName = table.name →
      (if (run.turn table).failed then config
        else { config with lastPurgedAt := some (run.turn table).stampedAt }) ∈ (run.after db).configs
  hours : run.selected = true → run.committed = true → run.downsampling.failed = false →
    ∀ hour : Int,
      (∀ instant : Int, instant / (3600 * 1000000) = hour →
        instant < run.downsampling.now - weekLength ∧
          ∀ days, db.window? .resourceSnapshots = some days →
            (run.turn .resourceSnapshots).now - days * day ≤ instant) →
      (∃ row ∈ db.rows .resourceSnapshots, row.hour = hour) →
      ∃ first ∈ db.rows .resourceSnapshots, first.hour = hour ∧
        (∀ other ∈ db.rows .resourceSnapshots, other.hour = hour → first.stamp ≤ other.stamp) ∧
        ∀ row, row ∈ (run.after db).rows .resourceSnapshots ∧ row.hour = hour ↔ row = first
  again : (runRetention run db).isSome → ∀ again : Run, run.SameInstant again → ∀ table,
    (run.turn table).failed = false →
    (table = .resourceSnapshots → run.downsampling.failed = false) →
      (again.after (run.after db)).rows table = (run.after db).rows table

/-- Every configured window can be subtracted from the clock, whatever is live is stamped inside
its table's window, and a system directory whose newest audit is of a pair that is older than the
window belongs to that pair alone. -/
structure Run.Within (run : Run) (db : Database) : Prop where
  reachable : run.selected = true → run.committed = true → ∀ table days,
    db.window? table = some days → (cutoff? (run.turn table).now days).isSome
  recent : run.selected = true → run.committed = true → ∀ table, table ≠ .alerts →
    ∀ bound, run.Cuts db table bound → ∀ row ∈ db.rows table, Live db table row → bound ≤ row.stamp
  alone : run.selected = true → run.committed = true → ∀ bound, run.Cuts db .unitAudits bound →
    ∀ row ∈ db.rows .unitAudits,
      (∀ other ∈ db.rows .unitAudits, other.columns.userUnitDir = row.columns.userUnitDir →
        other.columns.systemUnitDir = row.columns.systemUnitDir → other.stamp ≤ row.stamp) →
      row.stamp < bound → ∀ other ∈ db.rows .unitAudits,
        other.columns.systemUnitDir = row.columns.systemUnitDir →
          other.columns.userUnitDir = row.columns.userUnitDir

/-! The entities of the statements against the entities of the tables. -/

/-- The statement of a table that keeps its latest rows tells no more entities apart than there
are, and as many unless it is the statement of the unit audits. -/
theorem keepLatest_of_entity {table : TableName} {entity : Row table → List (Option Text)}
    (keeps : entityOf table = some entity) :
    ∃ code, purgeStatement table = .keepLatest code ∧
      (∀ left right, entity left = entity right → code.key left = code.key right) ∧
      (table ≠ .unitAudits → ∀ left right, code.key left = code.key right →
        entity left = entity right) := by
  cases table with
  | reliabilityScores | filesystemAudits =>
    cases keeps
    exact ⟨_, rfl, by simp [Entity.key], by simp [Entity.key]⟩
  | diskReviews | healthReviews | logReviews =>
    cases keeps
    exact ⟨_, rfl, fun _ _ _ => rfl, fun _ _ _ _ => rfl⟩
  | unitAudits =>
    cases keeps
    exact ⟨_, rfl, by simp [Entity.key], fun same => absurd rfl same⟩
  | _ => cases keeps

theorem reason_of_spares {db : Database} {table : TableName} {order : Order table} {row : Row table}
    (spares : (purgeStatement table).Spares order (db.rows table) row) :
    Live db table row ∨ ∃ entity, entityOf table = some entity ∧
      Newest (db.rows table) entity row := by
  cases keeps : entityOf table with
  | none =>
    cases table with
    | alerts => exact .inl spares
    | reliabilityScores | unitAudits | filesystemAudits | diskReviews | healthReviews | logReviews =>
      cases keeps
    | _ => exact spares.elim
  | some entity =>
    refine .inr ⟨entity, rfl, ?_⟩
    obtain ⟨code, statement, coarser, -⟩ := keepLatest_of_entity keeps
    rw [statement] at spares
    intro other inside same
    exact (NewestFirst.firstPer_newest spares).2 other inside (coarser other row same)

theorem not_spares_of_live {db : Database} {table : TableName} {order : Order table}
    {row : Row table} (apart : table ≠ .alerts) (live : Live db table row) :
    ¬ (purgeStatement table).Spares order (db.rows table) row := by
  cases table with
  | alerts => exact absurd rfl apart
  | gameSpans | desktopNotifications => exact id
  | _ => exact live.elim

theorem live_resolvable {db : Database} {table : TableName} {row : Row table}
    (live : Live db table row) : table ≠ .resourceSnapshots := by
  intro same
  subst same
  exact live

theorem entity_apart {table : TableName} {entity : Row table → List (Option Text)}
    (keeps : entityOf table = some entity) : table ≠ .resourceSnapshots := by
  intro same
  subst same
  cases keeps

variable {run : Run} {db final : Database}

theorem mem_left_of_returned (returned : runRetention run db = some final) {table : TableName}
    {row : Row table} : row ∈ run.left db table ↔
      row ∈ db.rows table ∧ ∀ bound, run.Cuts db table bound → row.stamp < bound →
        (purgeStatement table).Spares (run.turn table).order (db.rows table) row := by
  have reachable := ((runRetention_isSome run db).mp (by rw [returned]; rfl)).2.2
  rw [mem_left]
  refine and_congr_right fun _ => ?_
  constructor
  · intro spared bound cuts old
    obtain ⟨days, window, purges, rfl⟩ := cuts
    obtain ⟨cutoff, reached⟩ := Option.isSome_iff_exists.mp (reachable table days window)
    exact spared cutoff (by rw [window, Option.bind_some, reached]) purges (cutoff?_some reached ▸ old)
  · intro spared cutoff reached purges old
    obtain ⟨days, window, reached⟩ := Option.bind_eq_some_iff.mp reached
    exact spared cutoff ⟨days, window, purges, cutoff?_some reached⟩ old

theorem left_of_final (returned : runRetention run db = some final) {table : TableName}
    {row : Row table} (inFinal : row ∈ final.rows table) : row ∈ run.left db table := by
  obtain ⟨others, snapshots, -⟩ := runRetention_some returned
  by_cases same : table = .resourceSnapshots
  · subst same
    rw [snapshots] at inFinal
    split at inFinal
    · exact inFinal
    · exact (downsampled_sublist ..).subset inFinal
  · rwa [others table same] at inFinal

theorem mem_downsampled {downsampling : Downsampling} {rows : List (Row .resourceSnapshots)}
    (distinct : (rows.map Row.ident).Nodup) {row : Row .resourceSnapshots} :
    row ∈ downsampled downsampling rows ↔ row ∈ rows ∧ (row.stamp < downsampling.now - weekLength →
      row ∈ downsampling.order.firstPer Row.hour
        (rows.filter fun row => decide (row.stamp < downsampling.now - weekLength))) := by
  rw [downsampled, mem_sparing distinct fun item chosen =>
    (List.mem_filter.mp (NewestFirst.firstPer_newest chosen).1).1]
  simp only [decide_eq_true_eq, weekLength]
  exact Iff.rfl

theorem left_identified (run : Run) (db : Database) (table : TableName) :
    ((run.left db table).map Row.ident).Nodup :=
  (db.identified table).sublist ((left_sublist run db table).map _)

theorem final_of_left (returned : runRetention run db = some final) {table : TableName}
    {row : Row table} (inLeft : row ∈ run.left db table)
    (young : table = .resourceSnapshots →
      run.downsampling.failed = true ∨ run.downsampling.now - weekLength ≤ row.stamp) :
    row ∈ final.rows table := by
  obtain ⟨others, snapshots, -⟩ := runRetention_some returned
  by_cases same : table = .resourceSnapshots
  · subst same
    rw [snapshots]
    split
    · exact inLeft
    · rename_i thinned
      refine (mem_downsampled (left_identified run db _)).mpr ⟨inLeft, fun old => ?_⟩
      rcases young rfl with failed | recent
      · exact absurd failed thinned
      · omega
  · rwa [others table same]

/-! One call whose tables are as they should be. -/

theorem final_of_uncut (returned : runRetention run db = some final) {table : TableName}
    {row : Row table} (inside : row ∈ db.rows table)
    (young : table = .resourceSnapshots →
      run.downsampling.failed = true ∨ run.downsampling.now - weekLength ≤ row.stamp)
    (uncut : ∀ bound, run.Cuts db table bound → bound ≤ row.stamp) : row ∈ final.rows table := by
  refine final_of_left returned ((mem_left_of_returned returned).mpr ⟨inside, ?_⟩) young
  intro bound cuts old
  have recent := uncut bound cuts
  omega

theorem live_kept (within : run.Within db) (returned : runRetention run db = some final)
    {table : TableName} {row : Row table} (inside : row ∈ db.rows table) (live : Live db table row) :
    row ∈ final.rows table := by
  obtain ⟨selected, committed, -⟩ := (runRetention_isSome run db).mp (by rw [returned]; rfl)
  have apart := live_resolvable live
  by_cases alerts : table = .alerts
  · subst alerts
    exact final_of_left returned ((mem_left_of_returned returned).mpr ⟨inside, fun _ _ _ => live⟩)
      fun same => absurd same apart
  · exact final_of_uncut returned inside (fun same => absurd same apart) fun bound cuts =>
      within.recent selected committed table alerts bound cuts row inside live

theorem newest_kept (within : run.Within db) (returned : runRetention run db = some final)
    {table : TableName} {entity : Row table → List (Option Text)}
    (keeps : entityOf table = some entity) {row : Row table} (inside : row ∈ db.rows table)
    (newest : Newest (db.rows table) entity row) :
    ∃ survivor ∈ final.rows table, entity survivor = entity row ∧ survivor.stamp = row.stamp := by
  obtain ⟨selected, committed, -⟩ := (runRetention_isSome run db).mp (by rw [returned]; rfl)
  have apart := entity_apart keeps
  by_cases old : ∃ bound, run.Cuts db table bound ∧ row.stamp < bound
  · obtain ⟨bound, cuts, old⟩ := old
    obtain ⟨code, statement, coarser, finer⟩ := keepLatest_of_entity keeps
    obtain ⟨item, chosen, sameKey⟩ := (run.turn table).order.exists_firstPer code.key inside
    obtain ⟨itemInside, itemNewest⟩ := NewestFirst.firstPer_newest chosen
    have sameEntity : entity item = entity row := by
      by_cases audits : table = .unitAudits
      · subst audits
        cases keeps
        cases statement
        have sameDir : item.columns.systemUnitDir = row.columns.systemUnitDir := sameKey
        have newestPair : ∀ other ∈ db.rows .unitAudits,
            other.columns.userUnitDir = row.columns.userUnitDir →
            other.columns.systemUnitDir = row.columns.systemUnitDir → other.stamp ≤ row.stamp := by
          intro other otherInside sameUser sameSystem
          exact newest other otherInside (by simp only [sameUser, sameSystem])
        have sameUser := within.alone selected committed bound cuts row inside newestPair old item
          itemInside sameDir
        simp only [sameUser, sameDir]
      · exact finer audits item row sameKey
    have sameStamp : item.stamp = row.stamp := by
      have lower := itemNewest row inside sameKey.symm
      have upper := newest item itemInside sameEntity
      omega
    refine ⟨item, final_of_left returned ((mem_left_of_returned returned).mpr ⟨itemInside, ?_⟩)
      fun same => absurd same apart, sameEntity, sameStamp⟩
    intro other _ _
    rw [statement]
    exact chosen
  · have recent : ∀ bound, run.Cuts db table bound → bound ≤ row.stamp := by
      intro bound cuts
      by_contra late
      exact old ⟨bound, cuts, by omega⟩
    exact ⟨row, final_of_uncut returned inside (fun same => absurd same apart) recent, rfl, rfl⟩

theorem purged_reason (returned : runRetention run db = some final) {table : TableName}
    {bound : Int} (cuts : run.Cuts db table bound) {row : Row table}
    (inFinal : row ∈ final.rows table) (old : row.stamp < bound) :
    Live db table row ∨ ∃ entity, entityOf table = some entity ∧ Newest (db.rows table) entity row :=
  reason_of_spares (((mem_left_of_returned returned).mp (left_of_final returned inFinal)).2
    bound cuts old)

theorem stamped_in_final (returned : runRetention run db = some final) {config : RetentionConfig}
    (inside : config ∈ db.configs) {table : TableName} (named : config.tableName = table.name) :
    (if (run.turn table).failed then config
      else { config with lastPurgedAt := some (run.turn table).stampedAt }) ∈ final.configs := by
  obtain ⟨-, -, marked⟩ := runRetention_some returned
  have mark : run.mark config = if (run.turn table).failed then config
      else { config with lastPurgedAt := some (run.turn table).stampedAt } := by
    rw [Run.mark, TableName.ofText?_eq.mpr named]
  rw [marked, ← mark]
  exact List.mem_map_of_mem inside

theorem hour_thinned (returned : runRetention run db = some final)
    (thinned : run.downsampling.failed = false) {hour : Int}
    (between : ∀ instant : Int, instant / (3600 * 1000000) = hour →
      instant < run.downsampling.now - weekLength ∧
        ∀ days, db.window? .resourceSnapshots = some days →
          (run.turn .resourceSnapshots).now - days * day ≤ instant)
    (sampled : ∃ row ∈ db.rows .resourceSnapshots, row.hour = hour) :
    ∃ first ∈ db.rows .resourceSnapshots, first.hour = hour ∧
      (∀ other ∈ db.rows .resourceSnapshots, other.hour = hour → first.stamp ≤ other.stamp) ∧
      ∀ row, row ∈ final.rows .resourceSnapshots ∧ row.hour = hour ↔ row = first := by
  obtain ⟨-, snapshots, -⟩ := runRetention_some returned
  rw [if_neg (by simp [thinned])] at snapshots
  let old := fun row : Row .resourceSnapshots =>
    decide (row.stamp < run.downsampling.now - weekLength)
  -- the purge leaves the hour alone
  have candidate {row : Row .resourceSnapshots} (inside : row ∈ db.rows .resourceSnapshots)
      (here : row.hour = hour) : row ∈ (run.left db .resourceSnapshots).filter old := by
    refine List.mem_filter.mpr ⟨(mem_left_of_returned returned).mpr ⟨inside, ?_⟩, ?_⟩
    · intro bound cuts early
      obtain ⟨days, window, -, rfl⟩ := cuts
      have late := (between row.stamp here).2 days window
      omega
    · exact decide_eq_true (between row.stamp here).1
  obtain ⟨sample, inside, here⟩ := sampled
  obtain ⟨first, chosen, sameHour⟩ :=
    run.downsampling.order.exists_firstPer Row.hour (candidate inside here)
  obtain ⟨firstOld, earliest⟩ := NewestFirst.firstPer_newest chosen
  have firstLeft := (List.mem_filter.mp firstOld).1
  have firstHere : first.hour = hour := sameHour.trans here
  refine ⟨first, (left_sublist run db _).subset firstLeft, firstHere, ?_, ?_⟩
  · intro other otherInside otherHere
    have order := earliest other (candidate otherInside otherHere) (otherHere.trans firstHere.symm)
    omega
  · intro row
    rw [snapshots, mem_downsampled (left_identified run db _)]
    constructor
    · intro kept
      obtain ⟨⟨inLeft, spared⟩, rowHere⟩ := kept
      exact NewestFirst.firstPer_unique (spared (between row.stamp rowHere).1) chosen
        (rowHere.trans firstHere.symm)
    · intro same
      subst same
      exact ⟨⟨firstLeft, fun _ => chosen⟩, firstHere⟩

theorem window?_final (returned : runRetention run db = some final) (table : TableName) :
    final.window? table = db.window? table := by
  obtain ⟨-, -, marked⟩ := runRetention_some returned
  have sameName : (fun config : RetentionConfig => decide (config.tableName = table.name)) ∘
      run.mark = fun config => decide (config.tableName = table.name) := by
    funext config
    rw [Function.comp_apply, run.mark_tableName]
  rw [Database.window?, Database.window?, marked, List.find?_map, sameName, Option.map_map]
  congr 1
  funext config
  exact run.mark_retentionDays config

theorem purged_again {again : Run} {table : TableName}
    (sameNow : (again.turn table).now = (run.turn table).now)
    (done : (run.turn table).failed = false) (days : Option Int) {rows : List (Row table)}
    (distinct : (rows.map Row.ident).Nodup) :
    again.purged table days (run.purged table days rows) = run.purged table days rows := by
  simp only [Run.purged, sameNow, done, Bool.false_eq_true, if_false]
  cases days.bind (cutoff? (run.turn table).now) with
  | none => rfl
  | some cutoff =>
    simp only
    split
    · rfl
    · exact execute_again _ _ _ _ distinct

theorem purged_of_sublist {again : Run} (sameNow :
      (again.turn .resourceSnapshots).now = (run.turn .resourceSnapshots).now)
    (done : (run.turn .resourceSnapshots).failed = false) (days : Option Int)
    {rows rest : List (Row .resourceSnapshots)}
    (fewer : rest.Sublist (run.purged .resourceSnapshots days rows)) :
    again.purged .resourceSnapshots days rest = rest := by
  simp only [Run.purged, sameNow, done, Bool.false_eq_true, if_false] at fewer ⊢
  cases reached : days.bind (cutoff? (run.turn .resourceSnapshots).now) with
  | none => rfl
  | some cutoff =>
    simp only
    split
    · rfl
    · refine List.filter_eq_self.mpr ?_
      intro row inRest
      simp only [reached] at fewer
      exact (List.mem_filter.mp (fewer.subset inRest)).2

theorem downsampled_again {again : Downsampling} {downsampling : Downsampling}
    (sameNow : again.now = downsampling.now) {rows : List (Row .resourceSnapshots)}
    (distinct : (rows.map Row.ident).Nodup) :
    downsampled again (downsampled downsampling rows) = downsampled downsampling rows := by
  simp only [downsampled, sameNow]
  exact sparing_again Row.hour _ distinct downsampling.order again.order fun _ _ inScope _ _ => inScope

theorem nothing_again (returned : runRetention run db = some final) {again : Run}
    (sameInstant : run.SameInstant again) {table : TableName} (done : (run.turn table).failed = false)
    (thinned : table = .resourceSnapshots → run.downsampling.failed = false) :
    (again.after final).rows table = final.rows table := by
  cases second : runRetention again final with
  | none => rw [Run.after_of_none second]
  | some last =>
    rw [Run.after_of_some second]
    obtain ⟨firstOthers, firstSnapshots, -⟩ := runRetention_some returned
    obtain ⟨lastOthers, lastSnapshots, -⟩ := runRetention_some second
    by_cases same : table = .resourceSnapshots
    · subst same
      rw [if_neg (by simp [thinned rfl])] at firstSnapshots
      have settled : again.left final .resourceSnapshots = final.rows .resourceSnapshots := by
        rw [Run.left, window?_final returned]
        have fewer : (final.rows .resourceSnapshots).Sublist (run.purged .resourceSnapshots
            (db.window? .resourceSnapshots) (db.rows .resourceSnapshots)) := by
          rw [firstSnapshots]
          exact downsampled_sublist ..
        exact purged_of_sublist (sameInstant.1 _) done _ fewer
      rw [lastSnapshots, settled]
      split
      · rfl
      · rw [firstSnapshots]
        exact downsampled_again sameInstant.2 (left_identified run db _)
    · rw [lastOthers table same, Run.left, window?_final returned, firstOthers table same]
      exact purged_again (sameInstant.1 table) done _ (db.identified table)

/-! Calls of the purge among everything else that changes the tables. -/

theorem retains_of_within (within : run.Within db) : run.Retains db := by
  cases returned : runRetention run db with
  | none =>
    have unchanged := Run.after_of_none returned
    have unfinished (selected : run.selected = true) (committed : run.committed = true) : False := by
      have done := (runRetention_isSome run db).mpr
        ⟨selected, committed, within.reachable selected committed⟩
      rw [returned] at done
      cases done
    exact {
      finishes := fun selected committed => (unfinished selected committed).elim
      live := fun table row inside _ => by rwa [unchanged]
      newest := fun table entity _ row inside _ => ⟨row, by rwa [unchanged], rfl, rfl⟩
      spared := fun table row inside _ _ => by rwa [unchanged]
      purged := fun selected committed => (unfinished selected committed).elim
      stamped := fun selected committed => (unfinished selected committed).elim
      hours := fun selected committed => (unfinished selected committed).elim
      again := by
        intro done
        rw [returned] at done
        cases done }
  | some final =>
    have after := Run.after_of_some returned
    exact {
      finishes := fun _ _ => by rw [returned]; rfl
      live := fun table row inside live => after ▸ live_kept within returned inside live
      newest := fun table entity keeps row inside newest =>
        after ▸ newest_kept within returned keeps inside newest
      spared := fun table row inside young uncut => after ▸ final_of_uncut returned inside young uncut
      purged := fun _ _ table bound cuts row inFinal old =>
        purged_reason returned cuts (after ▸ inFinal) old
      stamped := fun _ _ config inside table named => after ▸ stamped_in_final returned inside named
      hours := fun _ _ thinned hour between sampled =>
        after ▸ hour_thinned returned thinned between sampled
      again := fun _ again sameInstant table done thinned =>
        after ▸ nothing_again returned sameInstant done thinned }

theorem alone_of_newest (returned : runRetention run db = some final)
    (newest : ∀ entity, entityOf .unitAudits = some entity → ∀ row ∈ db.rows .unitAudits,
      Newest (db.rows .unitAudits) entity row →
        ∃ survivor ∈ final.rows .unitAudits, entity survivor = entity row ∧ survivor.stamp = row.stamp)
    {bound : Int} (cuts : run.Cuts db .unitAudits bound) {row other : Row .unitAudits}
    (inside : row ∈ db.rows .unitAudits)
    (newestPair : ∀ other ∈ db.rows .unitAudits, other.columns.userUnitDir = row.columns.userUnitDir →
      other.columns.systemUnitDir = row.columns.systemUnitDir → other.stamp ≤ row.stamp)
    (old : row.stamp < bound) (otherInside : other ∈ db.rows .unitAudits)
    (sameDir : other.columns.systemUnitDir = row.columns.systemUnitDir) :
    other.columns.userUnitDir = row.columns.userUnitDir := by
  let pair := fun audit : Row .unitAudits => [audit.columns.userUnitDir, audit.columns.systemUnitDir]
  let order := (run.turn .unitAudits).order
  have chosenOf {audit : Row .unitAudits} (inFinal : audit ∈ final.rows .unitAudits)
      (early : audit.stamp < bound) :
      audit ∈ order.firstPer (fun audit => audit.columns.systemUnitDir) (db.rows .unitAudits) :=
    ((mem_left_of_returned returned).mp (left_of_final returned inFinal)).2 bound cuts early
  have newestRow : Newest (db.rows .unitAudits) pair row := by
    intro audit auditInside same
    simp only [pair, List.cons.injEq, and_true] at same
    exact newestPair audit auditInside same.1 same.2
  obtain ⟨kept, keptInFinal, keptPair, keptStamp⟩ := newest pair rfl row inside newestRow
  have keptChosen := chosenOf keptInFinal (by omega)
  -- the newest audit of the other pair is no newer than the one that was kept
  obtain ⟨latest, chosen, latestPair⟩ := order.exists_firstPer pair otherInside
  obtain ⟨latestInside, latestNewest⟩ := NewestFirst.firstPer_newest chosen
  obtain ⟨survivor, inFinal, survivorPair, survivorStamp⟩ :=
    newest pair rfl latest latestInside latestNewest
  simp only [pair, List.cons.injEq, and_true] at keptPair latestPair survivorPair
  have latestDir : latest.columns.systemUnitDir = kept.columns.systemUnitDir := by
    rw [latestPair.2, sameDir, keptPair.2]
  have noNewer := (NewestFirst.firstPer_newest keptChosen).2 latest latestInside latestDir
  have survivorChosen := chosenOf inFinal (by omega)
  have sameAudit :=
    NewestFirst.firstPer_unique survivorChosen keptChosen (survivorPair.2.trans latestDir)
  rw [← latestPair.1, ← survivorPair.1, sameAudit, keptPair.1]

theorem within_of_retains (retains : run.Retains db) : run.Within db := by
  refine ⟨?_, ?_, ?_⟩
  · intro selected committed
    exact ((runRetention_isSome run db).mp (retains.finishes selected committed)).2.2
  · intro selected committed table apart bound cuts row inside live
    obtain ⟨final, returned⟩ := Option.isSome_iff_exists.mp (retains.finishes selected committed)
    have inFinal := retains.live table row inside live
    rw [Run.after_of_some returned] at inFinal
    by_contra early
    exact not_spares_of_live apart live (((mem_left_of_returned returned).mp
      (left_of_final returned inFinal)).2 bound cuts (by omega))
  · intro selected committed bound cuts row inside newestPair old other otherInside sameDir
    obtain ⟨final, returned⟩ := Option.isSome_iff_exists.mp (retains.finishes selected committed)
    have newest := retains.newest .unitAudits
    rw [Run.after_of_some returned] at newest
    exact alone_of_newest returned newest cuts inside newestPair old otherInside sameDir

theorem retains_iff_within (run : Run) (db : Database) : run.Retains db ↔ run.Within db :=
  ⟨within_of_retains, retains_of_within⟩

/-- A call of the purge, or whatever else the tables go through. -/
inductive Event where
  | retention (run : Run)
  | meanwhile (tables : Database)

def step (db : Database) : Event → Option Database
  | .retention run => some (run.after db)
  | .meanwhile tables => some tables

def Retained (db : Database) : Event → Prop
  | .retention run => run.Retains db
  | .meanwhile _ => True

def Unthreatened (db : Database) : Event → Prop
  | .retention run => run.Within db
  | .meanwhile _ => True

/-- A call at `now` in which nothing fails. -/
def cleanRun (now : Int) : Run where
  selected := true
  committed := true
  turn _ := ⟨now, now, false, NewestFirst.sorting _⟩
  downsampling := ⟨now, false, NewestFirst.sorting _⟩

/-- A fault that has stood for fifty days and was last spoken of forty days before the purge. -/
def silentFault : Database where
  configs := [⟨text "desktop_notifications", 30, none⟩]
  configured := List.nodup_singleton _
  rows
    | .alerts => [⟨0, 0, ⟨text "venture-chat unreachable", false⟩⟩]
    | .desktopNotifications => [⟨0, 10 * day, ⟨text "venture-chat unreachable"⟩⟩]
    | _ => []
  identified table := by cases table <;> simp

/-- In every order of purges and other changes, each purge keeps what it owes exactly when it
meets tables in which nothing that must stay is outside its window. -/
theorem retained_iff (db : Database) (events : List Event) :
    Throughout step Retained db events ↔ Throughout step Unthreatened db events := by
  refine @Throughout.congr _ _ step Retained (fun _ => True) Unthreatened events db
    (fun _ _ => trivial) ?_ trivial
  intro state event _
  cases event with
  | retention run => exact retains_iff_within run state
  | meanwhile tables => exact Iff.rfl

/-- The purge forgets a fault that is still open. -/
theorem silent_fault_forgotten :
    ¬ Throughout step Retained silentFault [.retention (cleanRun (50 * day))] := by
  intro retained
  have within := within_of_retains retained.1
  have window : silentFault.window? .desktopNotifications = some 30 := by decide
  have recent := within.recent rfl rfl .desktopNotifications (by decide) _ ⟨30, window, rfl, rfl⟩
    ⟨0, 10 * day, ⟨text "venture-chat unreachable"⟩⟩ (List.mem_singleton_self _)
    ⟨⟨0, 0, ⟨text "venture-chat unreachable", false⟩⟩, List.mem_singleton_self _, rfl, rfl⟩
  revert recent
  decide

end SysadminAssistant.Core.Retention
