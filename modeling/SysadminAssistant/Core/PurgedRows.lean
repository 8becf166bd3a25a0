import SysadminAssistant.Core.Retention
import SysadminAssistant.Library.LocalSteps

namespace SysadminAssistant.Core.Retention

open Python Library

/-! What the loop over the configured tables leaves, table by table. -/

theorem TableName.ofText?_name (table : TableName) : TableName.ofText? table.name = some table := by
  cases table <;> rfl

theorem TableName.ofText?_eq {name : Text} {table : TableName} :
    TableName.ofText? name = some table ↔ name = table.name := by
  constructor
  · intro found
    rw [ofText?] at found
    have same := List.find?_some found
    exact (of_decide_eq_true same).symm
  · intro same
    rw [same, ofText?_name]

theorem TableName.name_injective {left right : TableName} (same : left.name = right.name) :
    left = right := by
  have found := ofText?_name left
  rw [same, ofText?_name] at found
  exact (Option.some.inj found).symm

/-- The window that a table is configured with. -/
def Database.window? (db : Database) (table : TableName) : Option Int :=
  (db.configs.find? fun config => config.tableName = table.name).map RetentionConfig.retentionDays

/-- A table after its turn. -/
def Run.purged (run : Run) (table : TableName) (days : Option Int) (rows : List (Row table)) :
    List (Row table) :=
  let turn := run.turn table
  match days.bind (cutoff? turn.now) with
  | none => rows
  | some cutoff => if turn.failed then rows else (purgeStatement table).execute turn.order cutoff rows

/-- A configuration row after the turn of its table. -/
def Run.mark (run : Run) (config : RetentionConfig) : RetentionConfig :=
  match TableName.ofText? config.tableName with
  | none => config
  | some table =>
    if (run.turn table).failed then config
    else { config with lastPurgedAt := some (run.turn table).stampedAt }

theorem Run.mark_tableName (run : Run) (config : RetentionConfig) :
    (run.mark config).tableName = config.tableName := by
  rw [Run.mark]
  split
  · rfl
  · split <;> rfl

theorem Run.mark_retentionDays (run : Run) (config : RetentionConfig) :
    (run.mark config).retentionDays = config.retentionDays := by
  rw [Run.mark]
  split
  · rfl
  · split <;> rfl

theorem Run.mark_mark (run : Run) (config : RetentionConfig) :
    run.mark (run.mark config) = run.mark config := by
  cases found : TableName.ofText? config.tableName with
  | none => simp [Run.mark, found]
  | some table =>
    by_cases failed : (run.turn table).failed = true
    · simp [Run.mark, found, failed]
    · simp [Run.mark, found, failed]

variable {run : Run} {db next : Database} {config : RetentionConfig}

theorem visit_isSome (run : Run) (db : Database) (config : RetentionConfig) :
    (visit run db config).isSome ↔ ∀ table : TableName, config.tableName = table.name →
      (cutoff? (run.turn table).now config.retentionDays).isSome := by
  cases found : TableName.ofText? config.tableName with
  | none =>
    simp only [visit, found, Option.isSome_some, true_iff]
    intro table same
    rw [TableName.ofText?_eq.mpr same] at found
    cases found
  | some table =>
    have named := TableName.ofText?_eq.mp found
    have only : (∀ other : TableName, config.tableName = other.name →
        (cutoff? (run.turn other).now config.retentionDays).isSome) ↔
        (cutoff? (run.turn table).now config.retentionDays).isSome := by
      constructor
      · intro every
        exact every table named
      · intro here other same
        cases TableName.name_injective (named.symm.trans same)
        exact here
    rw [only]
    cases reached : cutoff? (run.turn table).now config.retentionDays with
    | none => simp [visit, found, reached]
    | some cutoff =>
      simp only [visit, found, reached, Option.bind_eq_bind, Option.bind_some]
      split <;> simp

theorem visit_some (visited : visit run db config = some next) :
    (∀ table, next.rows table = if config.tableName = table.name
      then run.purged table (some config.retentionDays) (db.rows table) else db.rows table) ∧
    next.configs = db.configs.map fun other =>
      if other.tableName = config.tableName then run.mark other else other := by
  cases found : TableName.ofText? config.tableName with
  | none =>
    simp only [visit, found, Option.some.injEq] at visited
    subst visited
    constructor
    · intro table
      rw [if_neg]
      intro same
      rw [TableName.ofText?_eq.mpr same] at found
      cases found
    · rw [List.map_congr_left (g := id), List.map_id]
      intro other _
      split
      · rename_i same
        rw [Run.mark, same, found]
        rfl
      · rfl
  | some table =>
    have named := TableName.ofText?_eq.mp found
    cases reached : cutoff? (run.turn table).now config.retentionDays with
    | none =>
      simp only [visit, found, reached, Option.bind_eq_bind, Option.bind_none, reduceCtorEq] at visited
    | some cutoff =>
      simp only [visit, found, reached, Option.bind_eq_bind, Option.bind_some] at visited
      by_cases failed : (run.turn table).failed = true
      · rw [if_pos failed] at visited
        cases visited
        constructor
        · intro other
          split
          · rename_i same
            cases TableName.name_injective (named.symm.trans same)
            simp only [Run.purged, Option.bind_some, reached, failed, if_true]
          · rfl
        · rw [List.map_congr_left (g := id), List.map_id]
          intro other _
          split
          · rename_i same
            simp only [Run.mark, same, found, failed, if_true, id]
          · rfl
      · rw [if_neg failed] at visited
        cases visited
        constructor
        · intro other
          by_cases same : other = table
          · subst same
            rw [if_pos named]
            simp [Database.stamped, withRows_self, Run.purged, reached, failed]
          · have others : config.tableName ≠ other.name := fun also =>
              same (TableName.name_injective (also.symm.trans named))
            rw [if_neg others]
            exact withRows_other _ _ _ (execute_sublist ..) same
        · refine List.map_congr_left ?_
          intro other _
          rw [RetentionConfig.stampedAs]
          split
          · rename_i same
            simp [Run.mark, same, found, failed]
          · rfl

variable {configs : List RetentionConfig}

theorem visits_isSome (run : Run) (db : Database) (configs : List RetentionConfig) :
    (configs.foldlM (visit run) db).isSome ↔ ∀ config ∈ configs, ∀ table : TableName,
      config.tableName = table.name → (cutoff? (run.turn table).now config.retentionDays).isSome := by
  induction configs generalizing db with
  | nil => simp
  | cons config rest ih =>
    rw [List.foldlM_cons, List.forall_mem_cons, ← visit_isSome run db config]
    cases visited : visit run db config with
    | none => simp
    | some next =>
      simp only [Option.bind_eq_bind, Option.bind_some, Option.isSome_some, true_and]
      exact ih next

theorem visits_rows (distinct : (configs.map RetentionConfig.tableName).Nodup)
    (visited : configs.foldlM (visit run) db = some next) (table : TableName) :
    next.rows table = run.purged table ((configs.find? fun config => config.tableName = table.name).map
      RetentionConfig.retentionDays) (db.rows table) := by
  induction configs generalizing db with
  | nil =>
    rw [List.foldlM_nil] at visited
    cases visited
    rfl
  | cons config rest ih =>
    obtain ⟨middle, first, later⟩ := foldlM_cons_some.mp visited
    obtain ⟨fresh, distinctRest⟩ := List.nodup_cons.mp (List.map_cons .. ▸ distinct)
    rw [ih distinctRest later, (visit_some first).1 table]
    by_cases here : config.tableName = table.name
    · rw [if_pos here, List.find?_cons_of_pos (by simpa using here)]
      have gone : (rest.find? fun other => other.tableName = table.name) = none := by
        rw [List.find?_eq_none]
        intro other inside
        simp only [decide_eq_true_eq]
        intro same
        exact fresh (List.mem_map.mpr ⟨other, inside, same.trans here.symm⟩)
      rw [gone]
      rfl
    · rw [if_neg here, List.find?_cons_of_neg (by simpa using here)]

theorem visits_configs (visited : configs.foldlM (visit run) db = some next) :
    next.configs = db.configs.map fun other =>
      if other.tableName ∈ configs.map RetentionConfig.tableName then run.mark other else other := by
  induction configs generalizing db with
  | nil =>
    rw [List.foldlM_nil] at visited
    cases visited
    simp
  | cons config rest ih =>
    obtain ⟨middle, first, later⟩ := foldlM_cons_some.mp visited
    rw [ih later, (visit_some first).2, List.map_map]
    refine List.map_congr_left ?_
    intro other _
    simp only [Function.comp_apply, List.map_cons, List.mem_cons]
    by_cases here : other.tableName = config.tableName
    · rw [if_pos here, run.mark_tableName, run.mark_mark, ite_self, if_pos (.inl here)]
    · rw [if_neg here]
      simp only [here, false_or]

theorem window?_eq {table : TableName} {days : Int} : db.window? table = some days ↔
    ∃ config ∈ db.configs, config.tableName = table.name ∧ config.retentionDays = days := by
  simp only [Database.window?, Option.map_eq_some_iff]
  constructor
  · intro found
    obtain ⟨config, first, same⟩ := found
    exact ⟨config, List.mem_of_find?_eq_some first, by simpa using List.find?_some first, same⟩
  · intro held
    obtain ⟨config, inside, named, same⟩ := held
    have names : decide (config.tableName = table.name) = true := decide_eq_true named
    obtain ⟨first, found⟩ := Option.isSome_iff_exists.mp
      ((List.find?_isSome (p := fun other : RetentionConfig =>
        decide (other.tableName = table.name))).mpr ⟨config, inside, names⟩)
    have alsoNames := List.find?_some found
    have alsoNamed : first.tableName = table.name := of_decide_eq_true alsoNames
    refine ⟨first, found, ?_⟩
    rw [List.inj_on_of_nodup_map db.configured (List.mem_of_find?_eq_some found) inside
      (alsoNamed.trans named.symm), same]

/-- A table after the loop. -/
def Run.left (run : Run) (db : Database) (table : TableName) : List (Row table) :=
  run.purged table (db.window? table) (db.rows table)

theorem runRetention_isSome (run : Run) (db : Database) : (runRetention run db).isSome ↔
    run.selected = true ∧ run.committed = true ∧ ∀ table days, db.window? table = some days →
      (cutoff? (run.turn table).now days).isSome := by
  have reached : (db.configs.foldlM (visit run) db).isSome ↔
      ∀ table days, db.window? table = some days → (cutoff? (run.turn table).now days).isSome := by
    rw [visits_isSome]
    constructor
    · intro every table days window
      obtain ⟨config, inside, named, rfl⟩ := window?_eq.mp window
      exact every config inside table named
    · intro every config inside table named
      exact every table config.retentionDays (window?_eq.mpr ⟨config, inside, named, rfl⟩)
  rw [← reached, runRetention]
  cases run.selected with
  | false => simp
  | true =>
    cases db.configs.foldlM (visit run) db with
    | none => simp
    | some purged => cases run.committed <;> simp

variable {final : Database}

theorem runRetention_some (returned : runRetention run db = some final) :
    (∀ table, table ≠ .resourceSnapshots → final.rows table = run.left db table) ∧
    (final.rows .resourceSnapshots = if run.downsampling.failed then run.left db .resourceSnapshots
      else downsampled run.downsampling (run.left db .resourceSnapshots)) ∧
    final.configs = db.configs.map run.mark := by
  have done := (runRetention_isSome run db).mp (by rw [returned]; rfl)
  simp only [runRetention, done.1, done.2.1, if_true, Option.bind_eq_bind, Option.bind_eq_some_iff,
    Option.pure_def, Option.some.injEq] at returned
  obtain ⟨purged, visited, thinned⟩ := returned
  have rows := visits_rows db.configured visited
  have marked : purged.configs = db.configs.map run.mark := by
    rw [visits_configs visited]
    refine List.map_congr_left ?_
    intro config inside
    rw [if_pos (List.mem_map_of_mem inside)]
  subst thinned
  rw [Database.downsample]
  split
  · exact ⟨fun table _ => rows table, rows _, marked⟩
  · refine ⟨?_, ?_, marked⟩
    · intro table others
      rw [withRows_other _ _ _ _ others, rows]
      rfl
    · rw [withRows_self, rows]
      rfl

theorem Run.after_of_some (returned : runRetention run db = some final) : run.after db = final := by
  rw [Run.after, returned, Option.getD_some]

theorem Run.after_of_none (raised : runRetention run db = none) : run.after db = db := by
  rw [Run.after, raised, Option.getD_none]

/-! The rows of one table. -/

def Entity.key {ρ : Type} : Entity ρ → ρ → Option Text
  | .wholeTable, _ => none
  | .column of, row => of row

theorem Entity.kept_eq {table : TableName} (entity : Entity (Row table)) (order : Order table)
    (rows : List (Row table)) : entity.kept order rows = order.firstPer entity.key rows := by
  cases entity with
  | wholeTable => exact order.take_one none rows
  | column of => rfl

/-- The rows that a statement leaves at any age. -/
def PurgeStatement.Spares {table : TableName} (order : Order table) (rows : List (Row table))
    (row : Row table) : PurgeStatement table → Prop
  | .resolvedOnly resolved => resolved row = false
  | .keepLatest entity => row ∈ order.firstPer entity.key rows
  | .straight => False

theorem mem_execute {table : TableName} {statement : PurgeStatement table} {order : Order table}
    {cutoff : Int} {rows : List (Row table)} (distinct : (rows.map Row.ident).Nodup)
    {row : Row table} :
    row ∈ statement.execute order cutoff rows ↔
      row ∈ rows ∧ (row.stamp < cutoff → statement.Spares order rows row) := by
  cases statement with
  | resolvedOnly resolved =>
    simp only [PurgeStatement.execute, PurgeStatement.Spares, List.mem_filter, Bool.not_eq_true',
      Bool.and_eq_false_imp, decide_eq_true_eq]
  | keepLatest entity =>
    simp only [PurgeStatement.execute, Entity.kept_eq, PurgeStatement.Spares]
    rw [mem_sparing distinct fun item chosen => (NewestFirst.firstPer_newest chosen).1,
      decide_eq_true_eq]
  | straight => simp [PurgeStatement.execute, PurgeStatement.Spares]

theorem execute_again {table : TableName} (statement : PurgeStatement table)
    (order again : Order table) (cutoff : Int) {rows : List (Row table)}
    (distinct : (rows.map Row.ident).Nodup) :
    statement.execute again cutoff (statement.execute order cutoff rows) =
      statement.execute order cutoff rows := by
  cases statement with
  | resolvedOnly resolved => simp [PurgeStatement.execute, List.filter_filter]
  | keepLatest entity =>
    simp only [PurgeStatement.execute, Entity.kept_eq]
    have closed (item row : Row table) (_ : true = true) (old : decide (row.stamp < cutoff) = true)
        (older : item.stamp ≤ row.stamp) : decide (item.stamp < cutoff) = true := by
      simp only [decide_eq_true_eq] at old ⊢
      omega
    have settled := sparing_again entity.key (fun _ => true) distinct order again closed
    simpa only [List.filter_true] using settled
  | straight => simp [PurgeStatement.execute, List.filter_filter]

theorem left_sublist (run : Run) (db : Database) (table : TableName) :
    (run.left db table).Sublist (db.rows table) := by
  simp only [Run.left, Run.purged]
  split
  · exact List.Sublist.refl _
  · split
    · exact List.Sublist.refl _
    · exact execute_sublist ..

theorem mem_left {table : TableName} {row : Row table} : row ∈ run.left db table ↔
    row ∈ db.rows table ∧ ∀ cutoff, (db.window? table).bind (cutoff? (run.turn table).now) =
      some cutoff → (run.turn table).failed = false → row.stamp < cutoff →
        (purgeStatement table).Spares (run.turn table).order (db.rows table) row := by
  simp only [Run.left, Run.purged]
  cases reached : (db.window? table).bind (cutoff? (run.turn table).now) with
  | none => simp
  | some cutoff =>
    cases failed : (run.turn table).failed with
    | true => simp
    | false =>
      simp only [Bool.false_eq_true, if_false, mem_execute (db.identified table),
        Option.some.injEq, forall_eq', forall_const]

theorem cutoff?_some {now days cutoff : Int} (reached : cutoff? now days = some cutoff) :
    cutoff = now - days * day := by
  simp only [cutoff?] at reached
  split at reached
  · exact (Option.some.inj reached).symm
  · cases reached

end SysadminAssistant.Core.Retention
