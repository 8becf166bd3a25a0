import SysadminAssistant.Library.StepHistory
import SysadminAssistant.Monitor.AgentHealth

namespace SysadminAssistant.Monitor

open Python SysadminAssistant.Core Library

/-! The families of `SysAdminAgent` that find their rows by what the details name, and close them by
number: the stale collations (`sysadmin/monitor/collation.py`) and the unusual readings
(`sysadmin/monitor/anomaly.py`). -/

def raiseAll (agent : Text) (stamp : Int) (drafts : List Draft) (table : AlertTable) :
    Option AlertTable :=
  drafts.foldlM (fun table draft => raiseAlert table agent stamp draft) table

/-- The open rows of a family by what they are about; of two rows the later one. -/
def openBy (subject : Details → Option Text) (rows : List Alert) : Dict Text Nat :=
  .ofEntries (rows.filterMap fun row => (subject row.details).map fun about => (about, row.id))

def collationDetailKey : Text := text "collation_database"

def collationTitle (datname : Text) : Text := text "Stale collation version on " ++ datname

structure Mismatch where
  datname : Text
  recorded : Text
  actual : Text

def Mismatch.reindex (mismatch : Mismatch) : Text := text "REINDEX DATABASE " ++ mismatch.datname

def Mismatch.refresh (mismatch : Mismatch) : Text :=
  text "ALTER DATABASE " ++ mismatch.datname ++ text " REFRESH COLLATION VERSION"

def Mismatch.draft (mismatch : Mismatch) : Draft where
  severity := .warning
  title := collationTitle mismatch.datname
  message := mismatch.datname ++ text " was created with collation version " ++ mismatch.recorded ++
    text "; the operating system now provides " ++ mismatch.actual ++
    text (". Text indexes were built against the old ordering, so a lookup can miss a row that is present. " ++
      "Fix, in this order: ") ++ mismatch.reindex ++ text ", then " ++ mismatch.refresh ++
    text ". REFRESH on its own only silences the warning."
  details := .ofEntries [(collationDetailKey, .str mismatch.datname),
    (text "recorded_version", .str mismatch.recorded),
    (text "actual_version", .str mismatch.actual),
    (text "remedy", .arr [.str mismatch.reindex, .str mismatch.refresh])]

/-- What `MISMATCH_SQL` answers, one row for a database. -/
structure CatalogReading where
  mismatches : List Mismatch
  distinct : (mismatches.map Mismatch.datname).Nodup
  named : ∀ mismatch ∈ mismatches, mismatch.datname ≠ []

/-- `evaluate`. -/
def raisedMismatches (mismatches : List Mismatch) (openDatabases : List Text) : List Mismatch :=
  mismatches.filter fun mismatch => mismatch.datname ∉ openDatabases

/-- `resolved_databases`. -/
def resolvedDatabases (openDatabases mismatched : List Text) : List Text :=
  openDatabases.filter fun datname => datname ∉ mismatched

structure CollationCounts where
  mismatched : Nat
  raised : Nat
  resolved : Nat

/-- `_check_collation`; a reading is missing where the check is off or the catalog cannot be read.
`none` is an `IntegrityError`. -/
def checkCollation (reading : Option CatalogReading) (stamp at_ : Int) (table : AlertTable) :
    Option (AlertTable × CollationCounts) :=
  match reading with
  | none => some (table, ⟨0, 0, 0⟩)
  | some reading => do
    let openRows := openBy (detailName collationDetailKey) (activeAlerts table sysadmin)
    let raises := raisedMismatches reading.mismatches openRows.keys
    let cleared := resolvedDatabases openRows.keys (reading.mismatches.map Mismatch.datname)
    let raised ← raiseAll sysadmin stamp (raises.map Mismatch.draft) table
    return (resolveAlertIds raised (cleared.filterMap openRows.get?) at_,
      ⟨reading.mismatches.length, raises.length, cleared.length⟩)

structure AnomalyConfig where
  enabled : Bool
  windowDays : Int
  zThreshold : ℚ
  minSamples : Nat
  minStdev : ℚ
  severity : Severity

/-- `mean`, `stdev` and the digits of a message: whatever they compute, for no result here depends
on it. -/
structure Statistics where
  mean : List ℚ → PyFloat
  stdev : List ℚ → PyFloat
  oneDecimal : ℚ → Text

/-- `z_score`. -/
def zScore (value : ℚ) (mu sigma : PyFloat) : Option ℚ :=
  match mu, sigma with
  | .finite mu, .finite sigma =>
    if sigma ≤ 0 then none
    else match PyFloat.round (value - mu) with
      | .finite distance =>
        match PyFloat.round (distance / sigma) with
        | .finite z => some z
        | _ => none
      | _ => none
  | _, _ => none

structure Anomaly where
  key : Text
  label : Text
  value : ℚ
  mean : ℚ
  stdev : ℚ
  z : ℚ
  samples : Nat

def diskKeyPrefix : Text := text "disk:"

def metricLabel (key : Text) : Text :=
  if diskKeyPrefix.isPrefixOf key then text "disk " ++ key.drop diskKeyPrefix.length
  else if key = text "cpu" then text "CPU"
  else if key = text "ram" then text "RAM"
  else key

/-- `_snapshot_metrics`: a percentage that is absent has no metric. -/
structure Metrics where
  cpu : Option PyFloat
  ram : Option PyFloat
  disks : Dict Text PyFloat

def snapshotMetrics (metrics : Metrics) : List (Text × PyFloat) :=
  (metrics.cpu.map fun percent => (text "cpu", percent)).toList ++
    (metrics.ram.map fun percent => (text "ram", percent)).toList ++
    metrics.disks.entries.map fun disk => (diskKeyPrefix ++ disk.1, disk.2)

def finite? : PyFloat → Option ℚ
  | .finite value => some value
  | _ => none

/-- One metric of `detect_anomalies`: no history, too little of it, or too flat a one is skipped. -/
def anomalyOf (config : AnomalyConfig) (statistics : Statistics) (history : List PyFloat)
    (metric : Text × PyFloat) : Option Anomaly := do
  let value ← finite? metric.2
  let series := history.filterMap finite?
  if series.length < config.minSamples then none
  else if (statistics.stdev series).less (.finite config.minStdev) then none
  else do
    let z ← zScore value (statistics.mean series) (statistics.stdev series)
    if |z| < config.zThreshold then none
    else do
      let mu ← finite? (statistics.mean series)
      let sigma ← finite? (statistics.stdev series)
      return ⟨metric.1, metricLabel metric.1, value, mu, sigma, z, series.length⟩

/-- `detect_anomalies`, the most extreme first. -/
def detectAnomalies (config : AnomalyConfig) (statistics : Statistics) (metrics : Metrics)
    (history : Dict Text (List PyFloat)) : List Anomaly :=
  if config.enabled = false then []
  else ((snapshotMetrics metrics).filterMap fun metric =>
    anomalyOf config statistics ((history.get? metric.1).getD []) metric).insertionSort
      fun left right => |right.z| ≤ |left.z|

def anomalyTitle (label : Text) : Text := text "Unusual " ++ label ++ text " usage"

def Anomaly.direction (anomaly : Anomaly) : Text :=
  if 0 ≤ anomaly.z then text "above" else text "below"

/-- `Anomaly.as_details`. -/
def Anomaly.asDetails (anomaly : Anomaly) : Details :=
  let rounded (value : ℚ) : Json := .float (.finite (roundPlaces value 2))
  .ofEntries [(text "anomaly", .bool true), (text "resource", .str anomaly.key),
    (text "value", rounded anomaly.value), (text "mean", rounded anomaly.mean),
    (text "stdev", rounded anomaly.stdev), (text "z_score", rounded anomaly.z),
    (text "samples", .int anomaly.samples), (text "direction", .str anomaly.direction)]

def Anomaly.draft (config : AnomalyConfig) (statistics : Statistics) (anomaly : Anomaly) : Draft where
  severity := config.severity
  title := anomalyTitle anomaly.label
  message := anomaly.label ++ text " at " ++ statistics.oneDecimal anomaly.value ++ text "% is " ++
    statistics.oneDecimal |anomaly.z| ++ text "σ " ++ anomaly.direction ++ text " the " ++
      intText config.windowDays ++
    text "-day mean of " ++ statistics.oneDecimal anomaly.mean ++ text "% (σ=" ++
    statistics.oneDecimal anomaly.stdev ++ text ", n=" ++ intText anomaly.samples ++ text ")"
  details := anomaly.asDetails

def flagged (key : Text) (details : Details) : Bool := ((details.get? key).map Json.truthy).getD false

/-- The resource of a row that a fixed threshold opened. -/
def thresholdSubject (details : Details) : Option Text :=
  (detailName (text "resource") details).filter fun _ => flagged (text "threshold") details

def anomalySubject (details : Details) : Option Text :=
  (detailName (text "resource") details).filter fun _ =>
    !flagged (text "threshold") details && flagged (text "anomaly") details

/-- `_check_anomalies`, whose run breached the thresholds of `breached`: the table and the rows
raised. -/
def checkAnomalies (config : AnomalyConfig) (statistics : Statistics) (metrics : Metrics)
    (history : Dict Text (List PyFloat)) (breached : List Text) (stamp at_ : Int)
    (table : AlertTable) :
    Option (AlertTable × Nat) :=
  if config.enabled = false then some (table, 0)
  else do
    let anomalies := detectAnomalies config statistics metrics history
    let active := activeAlerts table sysadmin
    let thresholdKeys := breached ++ active.filterMap fun row => thresholdSubject row.details
    let anomalyAlerts := openBy anomalySubject active
    let raises := anomalies.filter fun anomaly =>
      anomaly.key ∉ thresholdKeys && (anomalyAlerts.get? anomaly.key).isNone
    let raised ← raiseAll sysadmin stamp (raises.map (Anomaly.draft config statistics)) table
    return (resolveAlertIds raised ((anomalyAlerts.entries.filter fun entry =>
      entry.1 ∉ anomalies.map Anomaly.key).map Prod.snd) at_, raises.length)

/-! ## What the rows say after a check -/

/-- What an open row says, and since when. -/
def told (row : Alert) : Draft × Int :=
  (⟨row.severity, row.title, row.message, row.details⟩, row.createdAt)

def standing (table : AlertTable) (title : Text) : Option (Draft × Int) :=
  (table.openRow? (sysadmin, title)).map told

/-- How a family finds its rows, and what titles it gives to its subjects. -/
structure OwnedFamily where
  subject : Details → Option Text
  title : Text → Text
  Subject : Text → Prop
  title_injective : ∀ {left right}, Subject left → Subject right → title left = title right →
    left = right

/-- The rows that a family finds are those of its titles. -/
structure OwnedFamily.Finds (family : OwnedFamily) (table : AlertTable) : Prop where
  titled : ∀ row ∈ activeAlerts table sysadmin, ∀ about, family.subject row.details = some about →
    family.Subject about ∧ row.title = family.title about
  found : ∀ row ∈ activeAlerts table sysadmin, ∀ about, family.Subject about →
    row.title = family.title about → family.subject row.details = some about

/-- The drafts that a check raises: what is so now, may be raised and has no open row. -/
def OwnedFamily.raises (family : OwnedFamily) (current : List (Text × Option Draft))
    (table : AlertTable) : List Draft :=
  (current.filter fun entry =>
    ((openBy family.subject (activeAlerts table sysadmin)).get? entry.1).isNone).filterMap Prod.snd

/-- The rows that a check closes: those about what is no longer so. -/
def OwnedFamily.closes (family : OwnedFamily) (current : List (Text × Option Draft))
    (table : AlertTable) : List Nat :=
  ((openBy family.subject (activeAlerts table sysadmin)).entries.filter fun entry =>
    entry.1 ∉ current.map Prod.fst).map Prod.snd

def OwnedFamily.reconcile (family : OwnedFamily) (current : List (Text × Option Draft))
    (stamp at_ : Int) (table : AlertTable) : Option AlertTable :=
  (raiseAll sysadmin stamp (family.raises current table) table).map fun raised =>
    resolveAlertIds raised (family.closes current table) at_

/-- What a check sees of a subject. -/
def sighted (current : List (Text × Option Draft)) (stamp : Int) (about : Text) :
    Sighting (Draft × Int) :=
  match current.find? fun entry => entry.1 = about with
  | none => .gone
  | some (_, none) => .unmoved
  | some (_, some draft) => .seen (draft, stamp)

theorem raiseAll_spec {agent : Text} {stamp : Int} {drafts : List Draft} {table : AlertTable}
    (distinct : (drafts.map Draft.title).Nodup)
    (vacant : ∀ draft ∈ drafts, table.openRow? (agent, draft.title) = none) :
    ∃ after, raiseAll agent stamp drafts table = some after ∧
      (∀ draft ∈ drafts, ∃ row, after.openRow? (agent, draft.title) = some row ∧
        told row = (draft, stamp) ∧ table.rows.length ≤ row.id) ∧
      ∀ key, (∀ draft ∈ drafts, (agent, draft.title) ≠ key) →
        after.openRow? key = table.openRow? key := by
  induction drafts generalizing table with
  | nil => exact ⟨table, rfl, by simp, fun key _ => rfl⟩
  | cons draft rest ih =>
    rw [List.map_cons, List.nodup_cons] at distinct
    obtain ⟨middle, raised⟩ := raiseAlert_enabled stamp (vacant draft List.mem_cons_self)
    have moved := openRow?_raiseAlert raised
    have others : ∀ other ∈ rest, (agent, draft.title) ≠ (agent, other.title) := by
      intro other member same
      exact distinct.1 (List.mem_map.mpr ⟨other, member, ((Prod.mk.inj same).2).symm⟩)
    have grown : middle.rows.length = table.rows.length + 1 := by
      rw [Table.insert?_rows raised, List.length_append, List.length_singleton]
    obtain ⟨after, ran, made, kept⟩ := @ih middle distinct.2 (by
      intro other member
      rw [moved, if_neg (others other member)]
      exact vacant other (List.mem_cons_of_mem _ member))
    refine ⟨after, by rw [raiseAll, List.foldlM_cons, raised]; exact ran, ?_, ?_⟩
    · intro other member
      rcases List.mem_cons.mp member with rfl | later
      · refine ⟨newAlert table agent stamp other, ?_, rfl, le_rfl⟩
        rw [kept _ fun further inside => (others further inside).symm, moved, if_pos rfl]
      · obtain ⟨row, stands, content, fresh⟩ := made other later
        exact ⟨row, stands, content, by omega⟩
    · intro key apart
      rw [kept key fun other member => apart other (List.mem_cons_of_mem _ member), moved,
        if_neg (apart draft List.mem_cons_self)]

section Reconcile

variable {family : OwnedFamily} {table : AlertTable}

theorem OwnedFamily.openBy_get? (finds : family.Finds table) {about : Text}
    (subject : family.Subject about) :
    (openBy family.subject (activeAlerts table sysadmin)).get? about =
      (table.openRow? (sysadmin, family.title about)).map Alert.id := by
  have listed : ∀ id, (about, id) ∈ ((activeAlerts table sysadmin).filterMap fun row =>
      (family.subject row.details).map fun about => (about, row.id)) →
      (table.openRow? (sysadmin, family.title about)).map Alert.id = some id := by
    intro id inside
    obtain ⟨row, active, shape⟩ := List.mem_filterMap.mp inside
    obtain ⟨other, named, same⟩ := Option.map_eq_some_iff.mp shape
    obtain ⟨rfl, rfl⟩ := Prod.mk.inj same
    rw [← (finds.titled row active other named).2, mem_activeAlerts.mp active]
    rfl
  cases found : (openBy family.subject (activeAlerts table sysadmin)).get? about with
  | some id => exact (listed id (Dict.get?_ofEntries_mem found)).symm
  | none =>
    cases stands : table.openRow? (sysadmin, family.title about) with
    | none => rfl
    | some row =>
      have title : row.title = family.title about :=
        congrArg Prod.snd (Table.openRow?_eq_some.mp stands).2
      have active : row ∈ activeAlerts table sysadmin := mem_activeAlerts.mpr (title ▸ stands)
      have inside : (about, row.id) ∈ (activeAlerts table sysadmin).filterMap fun row =>
          (family.subject row.details).map fun about => (about, row.id) :=
        List.mem_filterMap.mpr ⟨row, active, by rw [finds.found row active about subject title]; rfl⟩
      obtain ⟨kept, there⟩ := Dict.exists_get?_ofEntries inside
      rw [openBy, there] at found
      cases found

theorem OwnedFamily.subject_of_openBy (finds : family.Finds table) {about : Text} {id : Nat}
    (found : (openBy family.subject (activeAlerts table sysadmin)).get? about = some id) :
    family.Subject about := by
  obtain ⟨row, active, shape⟩ := List.mem_filterMap.mp (Dict.get?_ofEntries_mem found)
  obtain ⟨other, named, same⟩ := Option.map_eq_some_iff.mp shape
  cases same
  exact (finds.titled row active _ named).1

/-- What may be raised is about the family's own subjects, and under their titles. -/
structure OwnedFamily.Sees (family : OwnedFamily) (current : List (Text × Option Draft)) : Prop where
  distinct : (current.map Prod.fst).Nodup
  subjects : ∀ entry ∈ current, family.Subject entry.1
  titles : ∀ about draft, (about, some draft) ∈ current → draft.title = family.title about

variable {current : List (Text × Option Draft)}

theorem OwnedFamily.mem_raises {draft : Draft} : draft ∈ family.raises current table ↔
    ∃ about, (about, some draft) ∈ current ∧
      (openBy family.subject (activeAlerts table sysadmin)).get? about = none := by
  simp only [OwnedFamily.raises, List.mem_filterMap, List.mem_filter, Option.isNone_iff_eq_none]
  constructor
  · intro raised
    obtain ⟨⟨about, offered⟩, ⟨inside, new⟩, rfl⟩ := raised
    exact ⟨about, inside, new⟩
  · intro raised
    obtain ⟨about, inside, new⟩ := raised
    exact ⟨(about, some draft), ⟨inside, new⟩, rfl⟩

theorem OwnedFamily.mem_closes {id : Nat} : id ∈ family.closes current table ↔
    ∃ about, about ∉ current.map Prod.fst ∧
      (openBy family.subject (activeAlerts table sysadmin)).get? about = some id := by
  simp only [OwnedFamily.closes, List.mem_map, List.mem_filter, decide_eq_true_eq, Dict.get?_eq_some]
  constructor
  · intro closed
    obtain ⟨⟨about, _⟩, ⟨inside, past⟩, rfl⟩ := closed
    exact ⟨about, past, inside⟩
  · intro closed
    obtain ⟨about, past, inside⟩ := closed
    exact ⟨(about, id), ⟨inside, past⟩, rfl⟩

theorem OwnedFamily.raises_distinct (sees : family.Sees current) :
    ((family.raises current table).map Draft.title).Nodup := by
  have apart : current.Pairwise fun left right => left.1 ≠ right.1 :=
    List.pairwise_map.mp sees.distinct
  refine List.pairwise_map.mpr (List.pairwise_filterMap.mpr ((apart.filter _).imp_of_mem ?_))
  intro left right inLeft inRight different first offered second other same
  obtain ⟨leftAbout, _⟩ := left
  obtain ⟨rightAbout, _⟩ := right
  cases offered
  cases other
  have leftIn := (List.mem_filter.mp inLeft).1
  have rightIn := (List.mem_filter.mp inRight).1
  rw [sees.titles _ _ leftIn, sees.titles _ _ rightIn] at same
  exact different (family.title_injective (sees.subjects _ leftIn) (sees.subjects _ rightIn) same)

theorem OwnedFamily.raises_vacant (finds : family.Finds table) (sees : family.Sees current) :
    ∀ draft ∈ family.raises current table, table.openRow? (sysadmin, draft.title) = none := by
  intro draft raised
  obtain ⟨about, inside, new⟩ := mem_raises.mp raised
  rw [openBy_get? finds (sees.subjects _ inside), ← sees.titles _ _ inside, Option.map_eq_none_iff]
    at new
  exact new

theorem OwnedFamily.closes_standing (finds : family.Finds table) {about : Text}
    (subject : family.Subject about) {row : Alert}
    (stands : table.openRow? (sysadmin, family.title about) = some row) :
    row.id ∈ family.closes current table ↔ about ∉ current.map Prod.fst := by
  have numbered : (openBy family.subject (activeAlerts table sysadmin)).get? about = some row.id := by
    rw [openBy_get? finds subject, stands]
    rfl
  rw [mem_closes]
  constructor
  · intro closed
    obtain ⟨other, past, found⟩ := closed
    have otherSubject := subject_of_openBy finds found
    rw [openBy_get? finds otherSubject] at found
    obtain ⟨same, standsToo, sameId⟩ := Option.map_eq_some_iff.mp found
    obtain ⟨inOpen, key⟩ := Table.openRow?_eq_some.mp stands
    obtain ⟨sameInOpen, otherKey⟩ := Table.openRow?_eq_some.mp standsToo
    have one : same = row :=
      Table.ident_injective (List.mem_of_mem_filter sameInOpen) (List.mem_of_mem_filter inOpen) sameId
    subst one
    have titles := (Prod.mk.inj (otherKey.symm.trans key)).2
    rw [← family.title_injective otherSubject subject titles]
    exact past
  · intro past
    exact ⟨about, past, numbered⟩

theorem OwnedFamily.closes_old (finds : family.Finds table) {id : Nat}
    (closed : id ∈ family.closes current table) :
    ∃ about row, family.Subject about ∧ table.openRow? (sysadmin, family.title about) = some row ∧
      row.id = id := by
  obtain ⟨about, _, found⟩ := mem_closes.mp closed
  have subject := subject_of_openBy finds found
  rw [openBy_get? finds subject] at found
  obtain ⟨row, stands, same⟩ := Option.map_eq_some_iff.mp found
  exact ⟨about, row, subject, stands, same⟩

/-- A check of a family never meets the index, carries what stands of each of its subjects, and
leaves the other rows alone. -/
theorem OwnedFamily.reconcile_spec (finds : family.Finds table) (sees : family.Sees current)
    (stamp at_ : Int) : ∃ after, family.reconcile current stamp at_ table = some after ∧
      (∀ about, family.Subject about → standing after (family.title about) =
        Sighting.carry (standing table (family.title about)) (sighted current stamp about)) ∧
      ∀ key, (∀ about, family.Subject about → (sysadmin, family.title about) ≠ key) →
        after.openRow? key = table.openRow? key := by
  obtain ⟨raised, ran, made, kept⟩ := @raiseAll_spec sysadmin stamp (family.raises current table) table
    (raises_distinct sees) (raises_vacant finds sees)
  have untouched : ∀ about, family.Subject about → (∀ draft, (about, some draft) ∈ current →
      table.openRow? (sysadmin, family.title about) ≠ none) →
      raised.openRow? (sysadmin, family.title about) =
        table.openRow? (sysadmin, family.title about) := by
    intro about subject old
    refine kept _ fun draft inside same => ?_
    obtain ⟨other, offered, new⟩ := mem_raises.mp inside
    have otherSubject := sees.subjects _ offered
    have titles : family.title other = family.title about :=
      (sees.titles _ _ offered).symm.trans (Prod.mk.inj same).2
    have one := family.title_injective otherSubject subject titles
    subst one
    rw [openBy_get? finds subject, Option.map_eq_none_iff] at new
    exact old draft offered new
  refine ⟨_, by rw [reconcile, ran]; rfl, ?_, ?_⟩
  · intro about subject
    rw [standing, standing, openRow?_resolveAlertIds]
    change ((raised.openRow? _).filter fun row => row.id ∉ family.closes current table).map told = _
    cases seen : current.find? fun entry => entry.1 = about with
    | none =>
      have past : about ∉ current.map Prod.fst := by
        intro inside
        obtain ⟨entry, member, same⟩ := List.mem_map.mp inside
        have missed := List.find?_eq_none.mp seen entry member
        simp [same] at missed
      rw [untouched about subject fun draft inside => absurd (List.mem_map.mpr ⟨_, inside, rfl⟩) past]
      cases stands : table.openRow? (sysadmin, family.title about) with
      | none => simp [sighted, seen, Sighting.carry]
      | some row =>
        simp [sighted, seen, Sighting.carry, (closes_standing finds subject stands).mpr past]
    | some entry =>
      obtain ⟨same, offered⟩ := entry
      have inside := List.mem_of_find?_eq_some seen
      have here : same = about := by simpa using List.find?_some seen
      subst here
      cases stands : table.openRow? (sysadmin, family.title same) with
      | some row =>
        have stays : row.id ∉ family.closes current table := fun closed =>
          (closes_standing finds subject stands).mp closed (List.mem_map.mpr ⟨_, inside, rfl⟩)
        rw [untouched same subject fun draft _ => by simp [stands], stands]
        cases offered <;> simp [sighted, seen, Sighting.carry, stays]
      | none =>
        cases offered with
        | none =>
          have alone : ∀ draft, (same, some draft) ∉ current := by
            intro draft other
            have one := List.inj_on_of_nodup_map sees.distinct inside other rfl
            cases one
          rw [untouched same subject fun draft other => absurd other (alone draft), stands]
          simp [sighted, seen, Sighting.carry]
        | some draft =>
          have raisedHere : draft ∈ family.raises current table := mem_raises.mpr
            ⟨same, inside, by rw [openBy_get? finds subject, stands]; rfl⟩
          obtain ⟨row, stood, content, fresh⟩ := made draft raisedHere
          rw [sees.titles _ _ inside] at stood
          have stays : row.id ∉ family.closes current table := by
            intro closed
            obtain ⟨_, old, _, oldStands, number⟩ := closes_old finds closed
            have before :=
              Table.ident_lt (List.mem_of_mem_filter (Table.openRow?_eq_some.mp oldStands).1)
            have sameNumber : OpenRow.ident old = row.id := number
            omega
          simp [stood, stays, sighted, seen, Sighting.carry, content]
  · intro key apart
    rw [openRow?_resolveAlertIds]
    change (raised.openRow? key).filter (fun row => row.id ∉ family.closes current table) = _
    rw [kept key fun draft inside same => by
      obtain ⟨about, offered, _⟩ := mem_raises.mp inside
      exact apart about (sees.subjects _ offered) (by rw [← sees.titles _ _ offered]; exact same)]
    cases stands : table.openRow? key with
    | none => rfl
    | some row =>
      refine Option.filter_eq_some_iff.mpr ⟨rfl, decide_eq_true ?_⟩
      intro closed
      obtain ⟨about, other, subject, otherStands, number⟩ := closes_old finds closed
      obtain ⟨inOpen, rowKey⟩ := Table.openRow?_eq_some.mp stands
      obtain ⟨otherInOpen, otherKey⟩ := Table.openRow?_eq_some.mp otherStands
      have one : other = row :=
        Table.ident_injective (List.mem_of_mem_filter otherInOpen)
          (List.mem_of_mem_filter inOpen) number
      subst one
      exact apart about subject (otherKey.symm.trans rowKey)

end Reconcile

/-! ## The two families -/

def collationFamily : OwnedFamily where
  subject := detailName collationDetailKey
  title := collationTitle
  Subject datname := datname ≠ []
  title_injective _ _ same := List.append_cancel_left same

def CatalogReading.current (reading : CatalogReading) : List (Text × Option Draft) :=
  reading.mismatches.map fun mismatch => (mismatch.datname, some mismatch.draft)

theorem CatalogReading.sees (reading : CatalogReading) : collationFamily.Sees reading.current where
  distinct := by
    rw [current, List.map_map]
    exact reading.distinct
  subjects entry member := by
    obtain ⟨mismatch, inside, rfl⟩ := List.mem_map.mp member
    exact reading.named mismatch inside
  titles about draft member := by
    obtain ⟨mismatch, _, same⟩ := List.mem_map.mp member
    cases same
    rfl

theorem absent_key {κ ν : Type} [DecidableEq κ] (dict : Dict κ ν) (key : κ)
    {decision : Decidable (key ∉ dict.keys)} :
    @decide _ decision = (dict.get? key).isNone := by
  rw [Bool.eq_iff_iff, decide_eq_true_iff, ← Dict.get?_isSome]
  cases dict.get? key <;> simp

theorem values_of_keys {κ ν : Type} [DecidableEq κ] (dict : Dict κ ν) (chosen : κ → Bool) :
    (dict.keys.filter chosen).filterMap dict.get? =
      (dict.entries.filter fun entry => chosen entry.1).map Prod.snd := by
  rw [Dict.keys, List.filter_map, List.filterMap_map]
  have values : ∀ entry ∈ dict.entries.filter (chosen ∘ Prod.fst),
      (dict.get? ∘ Prod.fst) entry = some entry.2 := fun entry member =>
    Dict.get?_eq_some.mpr (List.mem_of_mem_filter member)
  rw [List.filterMap_congr values, ← List.filterMap_eq_map]
  rfl

theorem checkCollation_reconciles (reading : CatalogReading) (stamp at_ : Int)
    (table : AlertTable) : (checkCollation (some reading) stamp at_ table).map Prod.fst =
      collationFamily.reconcile reading.current stamp at_ table := by
  have raises : (raisedMismatches reading.mismatches
      (openBy (detailName collationDetailKey) (activeAlerts table sysadmin)).keys).map Mismatch.draft =
      collationFamily.raises reading.current table := by
    rw [OwnedFamily.raises, CatalogReading.current, List.filter_map, List.filterMap_map,
      raisedMismatches, ← List.filterMap_eq_map]
    exact congrArg _ (List.filter_congr fun mismatch _ => absent_key _ mismatch.datname)
  have closes :
      (resolvedDatabases (openBy (detailName collationDetailKey) (activeAlerts table sysadmin)).keys
      (reading.mismatches.map Mismatch.datname)).filterMap
        (openBy (detailName collationDetailKey) (activeAlerts table sysadmin)).get? =
      collationFamily.closes reading.current table := by
    rw [resolvedDatabases, values_of_keys, OwnedFamily.closes, CatalogReading.current, List.map_map]
    rfl
  simp only [checkCollation, OwnedFamily.reconcile, raises, closes]
  cases raiseAll sysadmin stamp (collationFamily.raises reading.current table) table <;> rfl

/-- The metrics of a snapshot. -/
inductive IsMetric : Text → Prop
  | cpu : IsMetric (text "cpu")
  | ram : IsMetric (text "ram")
  | disk (mount : Text) : IsMetric (diskKeyPrefix ++ mount)

theorem metricLabel_disk (mount : Text) :
    metricLabel (diskKeyPrefix ++ mount) = text "disk " ++ mount := by
  rw [metricLabel, if_pos (List.isPrefixOf_iff_prefix.mpr (List.prefix_append _ _)), List.drop_left]

theorem metricLabel_injective {left right : Text} (leftMetric : IsMetric left)
    (rightMetric : IsMetric right) (same : metricLabel left = metricLabel right) :
    left = right := by
  have cpu : metricLabel (text "cpu") = text "CPU" := by decide
  have ram : metricLabel (text "ram") = text "RAM" := by decide
  have apart : ∀ (mount : Text) (other : Text), other.head? ≠ some (codePoint 'd') →
      text "disk " ++ mount ≠ other := by
    intro mount other first same
    exact first (congrArg List.head? same).symm
  cases leftMetric with
  | cpu =>
    cases rightMetric with
    | cpu => rfl
    | ram => exact absurd (cpu.symm.trans (same.trans ram)) (by decide)
    | disk mount =>
      rw [cpu, metricLabel_disk] at same
      exact absurd same.symm (apart mount _ (by decide))
  | ram =>
    cases rightMetric with
    | cpu => exact absurd (cpu.symm.trans (same.symm.trans ram)) (by decide)
    | ram => rfl
    | disk mount =>
      rw [ram, metricLabel_disk] at same
      exact absurd same.symm (apart mount _ (by decide))
  | disk mount =>
    rw [metricLabel_disk] at same
    cases rightMetric with
    | cpu => exact absurd (same.trans cpu) (apart mount _ (by decide))
    | ram => exact absurd (same.trans ram) (apart mount _ (by decide))
    | disk other =>
      rw [metricLabel_disk] at same
      rw [List.append_cancel_left same]

def anomalyFamily : OwnedFamily where
  subject := anomalySubject
  title key := anomalyTitle (metricLabel key)
  Subject := IsMetric
  title_injective left right same :=
    metricLabel_injective left right (List.append_cancel_left (List.append_cancel_right same))

/-- The resources whose readings a fixed threshold speaks for. -/
def thresholdKeys (breached : List Text) (table : AlertTable) : List Text :=
  breached ++ (activeAlerts table sysadmin).filterMap fun row => thresholdSubject row.details

def anomaliesNow (config : AnomalyConfig) (statistics : Statistics) (anomalies : List Anomaly)
    (spoken : List Text) : List (Text × Option Draft) :=
  anomalies.map fun anomaly => (anomaly.key, if anomaly.key ∈ spoken then none
    else some (anomaly.draft config statistics))

theorem checkAnomalies_reconciles {config : AnomalyConfig} (enabled : config.enabled = true)
    (statistics : Statistics) (metrics : Metrics) (history : Dict Text (List PyFloat))
    (breached : List Text) (stamp at_ : Int) (table : AlertTable) :
    (checkAnomalies config statistics metrics history breached stamp at_ table).map Prod.fst =
      anomalyFamily.reconcile
        (anomaliesNow config statistics (detectAnomalies config statistics metrics history)
        (thresholdKeys breached table)) stamp at_ table := by
  have raises : ∀ (found : Dict Text Nat) (spoken : List Text) (anomalies : List Anomaly),
      (anomalies.filter fun anomaly => anomaly.key ∉ spoken && (found.get? anomaly.key).isNone).map
        (Anomaly.draft config statistics) =
      ((anomaliesNow config statistics anomalies spoken).filter fun entry =>
        (found.get? entry.1).isNone).filterMap Prod.snd := by
    intro found spoken anomalies
    induction anomalies with
    | nil => rfl
    | cons anomaly rest ih =>
      rw [anomaliesNow] at ih
      rw [anomaliesNow, List.map_cons]
      by_cases speaks : anomaly.key ∈ spoken <;> cases new : (found.get? anomaly.key).isNone <;>
        simpa [speaks, new] using ih
  have keys : (anomaliesNow config statistics (detectAnomalies config statistics metrics history)
      (thresholdKeys breached table)).map Prod.fst =
      (detectAnomalies config statistics metrics history).map Anomaly.key := by
    rw [anomaliesNow, List.map_map]
    rfl
  simp only [checkAnomalies, enabled, Bool.true_eq_false, if_false, OwnedFamily.reconcile,
    OwnedFamily.raises, OwnedFamily.closes, keys, raises]
  have closed : ∀ (ran : Option AlertTable) (ids : List Nat) (count : Nat),
      (ran.bind fun raised => some (resolveAlertIds raised ids at_, count)).map Prod.fst =
        ran.map fun raised => resolveAlertIds raised ids at_ := by
    intro ran ids count
    cases ran <;> rfl
  exact closed _ _ _

theorem anomalyOf_key {config : AnomalyConfig} {statistics : Statistics} {history : List PyFloat}
    {metric : Text × PyFloat} {anomaly : Anomaly}
    (found : anomalyOf config statistics history metric = some anomaly) :
    anomaly.key = metric.1 ∧ anomaly.label = metricLabel metric.1 := by
  simp only [anomalyOf, Option.bind_eq_bind, Option.bind_eq_some_iff] at found
  obtain ⟨value, _, found⟩ := found
  split at found
  · cases found
  split at found
  · cases found
  obtain ⟨z, _, found⟩ := Option.bind_eq_some_iff.mp found
  split at found
  · cases found
  obtain ⟨mu, _, found⟩ := Option.bind_eq_some_iff.mp found
  obtain ⟨sigma, _, found⟩ := Option.bind_eq_some_iff.mp found
  cases found
  exact ⟨rfl, rfl⟩

theorem snapshotMetrics_metric {metrics : Metrics} {metric : Text × PyFloat}
    (member : metric ∈ snapshotMetrics metrics) : IsMetric metric.1 := by
  simp only [snapshotMetrics, List.mem_append, Option.mem_toList, Option.map_eq_some_iff,
    List.mem_map] at member
  rcases member with (⟨percent, _, rfl⟩ | ⟨percent, _, rfl⟩) | ⟨disk, _, rfl⟩
  · exact .cpu
  · exact .ram
  · exact .disk disk.1

theorem snapshotMetrics_distinct (metrics : Metrics) :
    ((snapshotMetrics metrics).map Prod.fst).Nodup := by
  have disks : ((metrics.disks.entries.map fun disk => (diskKeyPrefix ++ disk.1, disk.2)).map
      Prod.fst).Nodup := by
    have image : (metrics.disks.entries.map fun disk =>
        (diskKeyPrefix ++ disk.1, disk.2)).map Prod.fst =
        (metrics.disks.entries.map Prod.fst).map (diskKeyPrefix ++ ·) := by
      rw [List.map_map, List.map_map]
      rfl
    rw [image]
    exact metrics.disks.nodup.map fun left right same => List.append_cancel_left same
  have apart : ∀ other : Text, other.head? ≠ some (codePoint 'd') →
      other ∉ (metrics.disks.entries.map fun disk => (diskKeyPrefix ++ disk.1, disk.2)).map
        Prod.fst := by
    intro other first inside
    obtain ⟨entry, member, rfl⟩ := List.mem_map.mp inside
    obtain ⟨disk, _, rfl⟩ := List.mem_map.mp member
    exact first rfl
  have cpu := apart (text "cpu") (by decide)
  have ram := apart (text "ram") (by decide)
  have names : text "cpu" ≠ text "ram" := by decide
  rw [snapshotMetrics, List.map_append, List.map_append]
  cases metrics.cpu <;> cases metrics.ram <;>
    simp only [Option.map_none, Option.map_some, Option.toList_none, Option.toList_some,
      List.map_nil, List.map_cons, List.nil_append, List.cons_append, List.nodup_cons,
      List.mem_cons, not_or] <;>
    simp only [disks, cpu, ram, names, not_false_eq_true, and_self]

theorem detectAnomalies_metric {config : AnomalyConfig} {statistics : Statistics}
    {metrics : Metrics} {history : Dict Text (List PyFloat)} {anomaly : Anomaly}
    (member : anomaly ∈ detectAnomalies config statistics metrics history) :
    IsMetric anomaly.key ∧ anomaly.label = metricLabel anomaly.key := by
  rw [detectAnomalies] at member
  split at member
  · cases member
  obtain ⟨metric, inside, found⟩ := List.mem_filterMap.mp ((List.mem_insertionSort _).mp member)
  obtain ⟨key, label⟩ := anomalyOf_key found
  rw [label, key]
  exact ⟨snapshotMetrics_metric inside, rfl⟩

theorem detectAnomalies_sees (config : AnomalyConfig) (statistics : Statistics) (metrics : Metrics)
    (history : Dict Text (List PyFloat)) (spoken : List Text) :
    anomalyFamily.Sees (anomaliesNow config statistics
      (detectAnomalies config statistics metrics history) spoken) := by
  have distinct : ((detectAnomalies config statistics metrics history).map Anomaly.key).Nodup := by
    rw [detectAnomalies]
    split
    · exact List.nodup_nil
    refine (((List.perm_insertionSort _ _).map Anomaly.key).nodup_iff).mpr ?_
    refine List.pairwise_map.mpr (List.pairwise_filterMap.mpr ?_)
    refine (List.pairwise_map.mp (snapshotMetrics_distinct metrics)).imp
      fun different first found second other same => ?_
    rw [(anomalyOf_key found).1, (anomalyOf_key other).1] at same
    exact different same
  refine ⟨?_, ?_, ?_⟩
  · rw [anomaliesNow, List.map_map]
    exact distinct
  · intro entry member
    obtain ⟨anomaly, inside, rfl⟩ := List.mem_map.mp member
    exact (detectAnomalies_metric inside).1
  · intro about draft member
    obtain ⟨anomaly, inside, same⟩ := List.mem_map.mp member
    obtain ⟨rfl, offered⟩ := Prod.mk.inj same
    split at offered
    · cases offered
    cases offered
    exact congrArg anomalyTitle (detectAnomalies_metric inside).2

end SysadminAssistant.Monitor
