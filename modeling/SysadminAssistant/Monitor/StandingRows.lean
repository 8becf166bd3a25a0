import Mathlib.Data.List.TakeWhile
import SysadminAssistant.Core.UnitFailures
import SysadminAssistant.Monitor.JournalHorizon
import SysadminAssistant.Monitor.OwnedFamilies
import SysadminAssistant.Monitor.UnmeasuredResources

namespace SysadminAssistant.Monitor.AlertTurns

open Python SysadminAssistant.Core Library
  SysadminAssistant.Core.UnitFailures

/-! Everything that writes the alerts table, in whatever order: the handler of a failed unit, the
start of the daemon, the checks and the sweep of `SysAdminAgent`, and the other agents. -/

/-! ## Titles -/

def BlankFree (unit : Text) : Prop := codePoint ' ' ∉ unit

instance blankFreeDecidable (unit : Text) : Decidable (BlankFree unit) :=
  inferInstanceAs (Decidable (¬ _))

theorem ends_apart {left right first second : Text} (leftEnds : left <:+ first)
    (rightEnds : right <:+ second) (apart : ¬ left <:+ right ∧ ¬ right <:+ left) :
    first ≠ second := by
  intro same
  subst same
  rcases List.suffix_or_suffix_of_suffix leftEnds rightEnds with shorter | longer
  · exact apart.1 shorter
  · exact apart.2 longer

theorem opens_apart {left right first second : Text} (leftOpens : left <+: first)
    (rightOpens : right <+: second) (apart : ¬ left <+: right ∧ ¬ right <+: left) :
    first ≠ second := by
  intro same
  subst same
  rcases List.prefix_or_prefix_of_prefix leftOpens rightOpens with shorter | longer
  · exact apart.1 shorter
  · exact apart.2 longer

theorem unit_apart {unit opening title : Text} (named : BlankFree unit) (opens : opening <+: title)
    (apart : ¬ opening.dropWhile (fun c => decide (c ≠ codePoint ' ')) <+: text " failed")
    (blank : opening.dropWhile (fun c => decide (c ≠ codePoint ' ')) ≠ []) :
    unitFailureTitle unit ≠ title := by
  intro same
  obtain ⟨rest, rfl⟩ := opens
  have unitGone : unit.dropWhile (fun c => decide (c ≠ codePoint ' ')) = [] := by
    refine List.dropWhile_eq_nil_iff.mpr fun c member => decide_eq_true ?_
    intro blank
    exact named (blank ▸ member)
  have left : (unitFailureTitle unit).dropWhile (fun c => decide (c ≠ codePoint ' ')) =
      text " failed" := by
    rw [unitFailureTitle, List.dropWhile_append, unitGone]
    decide
  rw [same, List.dropWhile_append, if_neg (by simpa using blank)] at left
  exact apart ⟨rest, left⟩

/-! ## The turns -/

/-- `agent_schedules`. -/
def scheduledAgents : List Text :=
  [text "sysadmin", text "file_organiser", text "log_aggregator", text "service_discovery",
    text "estate_judge", text "game_detector"]

/-- The titles of the families that raise and refresh rows in other ways than the two of
`OwnedFamilies`.  No service is named for what those two write. -/
inductive FamilyTitle : Text → Prop
  | service (name : Text) (kind : ServiceAlertKind)
      (apart : ¬ text "Stale collation version on" <+: name) :
      FamilyTitle (serviceAlertTitle name kind)
  | threshold (row : ThresholdRow) : FamilyTitle row.title
  | stall (name : Text) (scheduled : name ∈ scheduledAgents) : FamilyTitle (stallTitle name)
  | failing (name : Text) (scheduled : name ∈ scheduledAgents) : FamilyTitle (failureTitle name)
  | window : FamilyTitle windowTitle
  | loop (exe : Text) : FamilyTitle (loopTitle exe)

/-- What those families write, none of it under the keys by which the other rows are found. -/
structure Familiar (draft : Draft) : Prop where
  titled : FamilyTitle draft.title
  unkeyed : ∀ key ∈ [text "source", collationDetailKey, text "anomaly"], draft.details.get? key = none

/-- The keys by which the other families find the rows that they close by number. -/
def clearedKeys : List Text :=
  [text "stalled_agent", text "failing_agent", horizonDetailKey, coredumpDetailKey]

inductive Turn where
  /-- systemd gives up on a unit, and the handler runs. -/
  | failed (met : HandlerWorld) (failure : Failure) (named : BlankFree failure.unit)
  /-- The daemon starts, as far as closing its own failures. -/
  | started (at_ : Int)
  | collation (reading : Option CatalogReading) (stamp at_ : Int)
  | anomalies (config : AnomalyConfig) (statistics : Statistics) (metrics : Metrics)
      (history : Dict Text (List PyFloat)) (breached : List Text) (stamp at_ : Int)
  | raised (agent : Text) (stamp : Int) (draft : Draft) (ours : agent = sysadmin → Familiar draft)
  | refreshed (agent : Text) (draft : Draft) (ours : agent = sysadmin → Familiar draft)
  | cleared (key : Text) (listed : key ∈ clearedKeys) (chosen : Alert → Bool) (at_ : Int)
  /-- `_resolve_recovered`, over the table as it is then. -/
  | swept (judging : Judging) (unhealthy : List Text) (at_ : Int)
  /-- Another agent closes rows of its own. -/
  | closed (agent : Text) (other : agent ≠ sysadmin) (which : Alert → Bool) (at_ : Int)

def refreshedTable (table : AlertTable) (agent : Text) (draft : Draft) : AlertTable :=
  match (table.openRow? (agent, draft.title)).bind fun row => refreshAlert row draft with
  | some updated => table.amend (rewriting updated)
  | none => table

/-- A turn that fails leaves the table as it was. -/
def next (table : AlertTable) : Turn → AlertTable
  | .failed met failure _ => (recordUnitFailure met table failure).2
  | .started at_ => (resolveUnitFailures table ownUnit at_).1
  | .collation reading stamp at_ => ((checkCollation reading stamp at_ table).map Prod.fst).getD table
  | .anomalies config statistics metrics history breached stamp at_ =>
    ((checkAnomalies config statistics metrics history breached stamp at_ table).map
      Prod.fst).getD table
  | .raised agent stamp draft _ => (raiseAlert table agent stamp draft).getD table
  | .refreshed agent draft _ => refreshedTable table agent draft
  | .cleared key _ chosen at_ =>
    resolveAlertIds table (((activeAlerts table sysadmin).filter fun row =>
      (row.details.get? key).isSome && chosen row).map Alert.id) at_
  | .swept judging unhealthy at_ => (resolveRecovered { judging with table } unhealthy at_).1
  | .closed agent _ which at_ =>
    table.amend (resolving (fun row => decide (row.agent = agent) && which row) at_)

/-- What an open row of `SysAdminAgent` says: what one of its writers wrote. -/
inductive Rightful : Draft → Prop
  | failure (failure : Failure) (world : Except Text SchemaWorld) (named : BlankFree failure.unit) :
      Rightful (failureDraft failure world)
  | collation (mismatch : Mismatch) (named : mismatch.datname ≠ []) : Rightful mismatch.draft
  | anomaly (config : AnomalyConfig) (statistics : Statistics) (anomaly : Anomaly)
      (metric : IsMetric anomaly.key)
      (labelled : anomaly.label = metricLabel anomaly.key) : Rightful (anomaly.draft config statistics)
  | family (draft : Draft) (familiar : Familiar draft) : Rightful draft

/-- The state that the turns keep. -/
def Kept (table : AlertTable) : Prop :=
  ∀ title content, standing table title = some content → Rightful content.1

/-! ## Whose title is whose -/

/-- How the titles of one word each, or of one word and a name, open. -/
def familyOpenings : List Text :=
  [ThresholdRow.ram.title, (ThresholdRow.gpuTemperature []).title, (ThresholdRow.vram []).title,
    (ThresholdRow.highDisk []).title, (ThresholdRow.criticalDisk []).title, windowTitle, loopTitle []]

theorem FamilyTitle.cases_on {title : Text} (titled : FamilyTitle title) :
    (∃ name kind, ¬ text "Stale collation version on" <+: name ∧
      title = serviceAlertTitle name kind) ∨ (∃ opening ∈ familyOpenings, opening <+: title) ∨
      ∃ name ∈ scheduledAgents, title = stallTitle name ∨ title = failureTitle name := by
  cases titled with
  | service name kind apart => exact .inl ⟨name, kind, apart, rfl⟩
  | threshold row =>
    cases row with
    | ram => exact .inr (.inl ⟨ThresholdRow.ram.title, by decide, List.prefix_rfl⟩)
    | gpuTemperature gpu =>
      exact .inr (.inl ⟨(ThresholdRow.gpuTemperature []).title,
        by decide, List.prefix_append _ gpu⟩)
    | vram gpu => exact .inr (.inl ⟨(ThresholdRow.vram []).title, by decide, List.prefix_append _ gpu⟩)
    | highDisk mount =>
      exact .inr (.inl ⟨(ThresholdRow.highDisk []).title,
        by decide, List.prefix_append _ mount⟩)
    | criticalDisk mount =>
      exact .inr (.inl ⟨(ThresholdRow.criticalDisk []).title,
        by decide, List.prefix_append _ mount⟩)
  | stall name scheduled => exact .inr (.inr ⟨name, scheduled, .inl rfl⟩)
  | failing name scheduled => exact .inr (.inr ⟨name, scheduled, .inr rfl⟩)
  | window => exact .inr (.inl ⟨windowTitle, by decide, List.prefix_rfl⟩)
  | loop exe => exact .inr (.inl ⟨loopTitle [], by decide, List.prefix_append _ _⟩)

theorem kind_ends (name : Text) (kind : ServiceAlertKind) :
    text " " ++ kind.word <:+ serviceAlertTitle name kind := by
  rw [serviceAlertTitle, List.append_assoc]
  exact List.suffix_append _ _

theorem agent_ends {name title : Text} (titled : title = stallTitle name ∨ title = failureTitle name) :
    text "agent stalled" <:+ title ∨ text "agent failing" <:+ title := by
  rcases titled with rfl | rfl
  · exact .inl (List.suffix_append _ _)
  · exact .inr (List.suffix_append _ _)

theorem failure_not_family {unit : Text} (named : BlankFree unit) :
    ¬ FamilyTitle (unitFailureTitle unit) := by
  have failed : text " failed" <:+ unitFailureTitle unit := List.suffix_append _ _
  have openings : ∀ opening ∈ familyOpenings,
      ¬ opening.dropWhile (fun c => decide (c ≠ codePoint ' ')) <+: text " failed" ∧
        opening.dropWhile (fun c => decide (c ≠ codePoint ' ')) ≠ [] := by decide
  intro titled
  rcases titled.cases_on with ⟨name, kind, _, same⟩ | ⟨opening, listed, opens⟩ | ⟨name, _, titles⟩
  · exact ends_apart failed (kind_ends name kind) (by cases kind <;> decide) same
  · exact unit_apart named opens (openings opening listed).1 (openings opening listed).2 rfl
  · rcases agent_ends titles with ends | ends
    · exact ends_apart failed ends (by decide) rfl
    · exact ends_apart failed ends (by decide) rfl

theorem failure_not_collation {unit : Text} (named : BlankFree unit) (datname : Text) :
    unitFailureTitle unit ≠ collationTitle datname :=
  unit_apart named (List.prefix_append _ datname) (by decide) (by decide)

theorem failure_not_anomaly (unit label : Text) : unitFailureTitle unit ≠ anomalyTitle label :=
  ends_apart (List.suffix_append _ _) (List.suffix_append _ _) (by decide)

theorem collation_not_anomaly (datname label : Text) :
    collationTitle datname ≠ anomalyTitle label := by
  have opening : text "Unusual " <+: anomalyTitle label := by
    rw [anomalyTitle, List.append_assoc]
    exact List.prefix_append _ _
  exact opens_apart (List.prefix_append _ datname) opening (by decide)

theorem anomaly_not_family (label : Text) : ¬ FamilyTitle (anomalyTitle label) := by
  have unusual : text "Unusual " <+: anomalyTitle label := by
    rw [anomalyTitle, List.append_assoc]
    exact List.prefix_append _ _
  have usage : text " usage" <:+ anomalyTitle label := List.suffix_append _ _
  have openings : ∀ opening ∈ familyOpenings, ¬ text "Unusual " <+: opening ∧
      ¬ opening <+: text "Unusual " := by decide
  intro titled
  rcases titled.cases_on with ⟨name, kind, _, same⟩ | ⟨opening, listed, opens⟩ | ⟨name, _, titles⟩
  · exact ends_apart usage (kind_ends name kind) (by cases kind <;> decide) same
  · exact opens_apart unusual opens (openings opening listed) rfl
  · rcases agent_ends titles with ends | ends
    · exact ends_apart usage ends (by decide) rfl
    · exact ends_apart usage ends (by decide) rfl

theorem opening_unlike_kinds (kind : ServiceAlertKind) :
    ∀ tail ∈ (text "Stale collation version on").tails,
    tail ≠ [] → ¬ tail <+: text " " ++ kind.word := by
  cases kind <;> decide

theorem collation_not_family (datname : Text) : ¬ FamilyTitle (collationTitle datname) := by
  have stale : text "Stale collation version on " <+: collationTitle datname := List.prefix_append _ _
  have agents : ∀ name ∈ scheduledAgents, ¬ text "Stale collation version on " <+: name ∧
      ¬ name <+: text "Stale collation version on " := by decide
  have openings : ∀ opening ∈ familyOpenings, ¬ text "Stale collation version on " <+: opening ∧
      ¬ opening <+: text "Stale collation version on " := by decide
  have opens : ∀ name rest : Text, name <+: name ++ text " " ++ rest := fun name rest =>
    (List.prefix_append name _).trans (List.prefix_append _ rest)
  intro titled
  rcases titled.cases_on with ⟨name, kind, apart, same⟩ | ⟨opening, listed, begins⟩
    | ⟨name, scheduled, titles⟩
  · have split : name ++ (text " " ++ kind.word) = text "Stale collation version on" ++
        (text " " ++ datname) := by
      rw [← List.append_assoc]
      exact same.symm
    rcases List.append_eq_append_iff.mp split with ⟨tail, shape, rest⟩ | ⟨tail, shape, rest⟩
    · by_cases empty : tail = []
      · rw [empty, List.append_nil] at shape
        exact apart (shape ▸ List.prefix_rfl)
      · exact opening_unlike_kinds kind tail ((List.mem_tails _ _).mpr ⟨name, shape.symm⟩) empty
          ⟨_, rest.symm⟩
    · exact apart ⟨tail, shape.symm⟩
  · exact opens_apart stale begins (openings opening listed) rfl
  · rcases titles with same | same
    · exact opens_apart stale (opens name _) (agents name scheduled) same
    · exact opens_apart stale (opens name _) (agents name scheduled) same

/-! ## What the rows are found by -/

section Details

variable {draft : Draft} {key : Text}

theorem failureDetails_without (failure : Failure) (schema : Json)
    (absent : key ∉ [text "kind", text "unit", text "source", text "raised_by",
      text "systemd_result", text "exit_status", text "restarts", text "schema"]) :
    (failureDetails failure schema).get? key = none :=
  Dict.get?_ofEntries_absent absent

theorem collationDetails_without (mismatch : Mismatch)
    (absent : key ∉ [collationDetailKey, text "recorded_version",
    text "actual_version", text "remedy"]) : mismatch.draft.details.get? key = none :=
  Dict.get?_ofEntries_absent absent

theorem anomalyDetails_without (anomaly : Anomaly)
    (absent : key ∉ [text "anomaly", text "resource", text "value",
    text "mean", text "stdev", text "z_score", text "samples", text "direction"]) :
    anomaly.asDetails.get? key = none :=
  Dict.get?_ofEntries_absent absent

theorem detailName_none {details : Details} (absent : details.get? key = none) :
    detailName key details = none := by
  rw [detailName, absent]

theorem Rightful.uncleared (rightful : Rightful draft) (apart : ¬ FamilyTitle draft.title)
    (listed : key ∈ clearedKeys) : draft.details.get? key = none := by
  have failureKeys : ∀ key ∈ clearedKeys, key ∉ [text "kind", text "unit", text "source",
      text "raised_by", text "systemd_result", text "exit_status", text "restarts",
      text "schema"] := by decide
  have collationKeys : ∀ key ∈ clearedKeys, key ∉ [collationDetailKey, text "recorded_version",
      text "actual_version", text "remedy"] := by decide
  have anomalyKeys : ∀ key ∈ clearedKeys, key ∉ [text "anomaly", text "resource", text "value",
      text "mean", text "stdev", text "z_score", text "samples", text "direction"] := by decide
  cases rightful with
  | failure failure world named => exact failureDetails_without failure _ (failureKeys key listed)
  | collation mismatch named => exact collationDetails_without mismatch (collationKeys key listed)
  | anomaly config statistics anomaly metric labelled =>
    exact anomalyDetails_without anomaly (anomalyKeys key listed)
  | family draft familiar => exact absurd familiar.titled apart

theorem collationName (mismatch : Mismatch) (named : mismatch.datname ≠ []) :
    detailName collationDetailKey mismatch.draft.details = some mismatch.datname := by
  have found : mismatch.draft.details.get? collationDetailKey = some (.str mismatch.datname) :=
    Dict.get?_ofEntries (by
      simp only [List.map_cons, List.map_nil]
      decide) List.mem_cons_self
  rw [detailName, found]
  exact if_neg named

theorem Rightful.collation_titled (rightful : Rightful draft) {about : Text}
    (named : detailName collationDetailKey draft.details = some about) :
    about ≠ [] ∧ draft.title = collationTitle about := by
  cases rightful with
  | failure failure world unit =>
    have hidden :=
      detailName_none (@failureDetails_without collationDetailKey failure
        (schemaDiagnosis world).2 (by decide))
    rw [failureDraft, hidden] at named
    cases named
  | collation mismatch nonempty =>
    cases (collationName mismatch nonempty).symm.trans named
    exact ⟨nonempty, rfl⟩
  | anomaly config statistics anomaly metric labelled =>
    have hidden := detailName_none (@anomalyDetails_without collationDetailKey anomaly (by decide))
    rw [Anomaly.draft, hidden] at named
    cases named
  | family draft familiar =>
    rw [detailName_none (familiar.unkeyed _ (by simp))] at named
    cases named

theorem Rightful.collation_found (rightful : Rightful draft) {about : Text}
    (titled : draft.title = collationTitle about)
    : detailName collationDetailKey draft.details = some about := by
  cases rightful with
  | failure failure world unit => exact absurd titled (failure_not_collation unit about)
  | collation mismatch nonempty =>
    have same : mismatch.datname = about := List.append_cancel_left titled
    rw [← same]
    exact collationName mismatch nonempty
  | anomaly config statistics anomaly metric labelled =>
    exact absurd titled.symm (collation_not_anomaly about _)
  | family draft familiar => exact absurd (titled ▸ familiar.titled) (collation_not_family about)

theorem metric_nonempty {key : Text} (metric : IsMetric key) : key ≠ [] := by
  cases metric with
  | cpu => decide
  | ram => decide
  | disk mount => exact List.cons_ne_nil _ _

theorem anomalyName (anomaly : Anomaly) (metric : IsMetric anomaly.key) :
    anomalySubject anomaly.asDetails = some anomaly.key := by
  have resource : anomaly.asDetails.get? (text "resource") = some (.str anomaly.key) :=
    Dict.get?_ofEntries (by
      simp only [List.map_cons, List.map_nil]
      decide) (List.mem_cons_of_mem _ List.mem_cons_self)
  have flag : anomaly.asDetails.get? (text "anomaly") = some (.bool true) :=
    Dict.get?_ofEntries (by
      simp only [List.map_cons, List.map_nil]
      decide) List.mem_cons_self
  have threshold := @anomalyDetails_without (text "threshold") anomaly (by decide)
  have named : detailName (text "resource") anomaly.asDetails = some anomaly.key := by
    rw [detailName, resource]
    exact if_neg (metric_nonempty metric)
  rw [anomalySubject, named, flagged, flagged, flag, threshold]
  rfl

theorem Rightful.anomaly_titled (rightful : Rightful draft) {about : Text}
    (named : anomalySubject draft.details = some about) :
    IsMetric about ∧ draft.title = anomalyTitle (metricLabel about) := by
  cases rightful with
  | failure failure world unit =>
    have hidden :=
      detailName_none (@failureDetails_without (text "resource") failure (schemaDiagnosis world).2
        (by decide))
    rw [failureDraft, anomalySubject, hidden] at named
    cases named
  | collation mismatch nonempty =>
    have hidden := detailName_none (@collationDetails_without (text "resource") mismatch (by decide))
    rw [anomalySubject, hidden] at named
    cases named
  | anomaly config statistics anomaly metric labelled =>
    cases (anomalyName anomaly metric).symm.trans named
    exact ⟨metric, congrArg anomalyTitle labelled⟩
  | family draft familiar =>
    have unflagged : flagged (text "anomaly") draft.details = false := by
      rw [flagged, familiar.unkeyed _ (by simp)]
      rfl
    rw [anomalySubject, Option.filter_eq_some_iff] at named
    simp [unflagged] at named

theorem Rightful.anomaly_found (rightful : Rightful draft) {about : Text} (subject : IsMetric about)
    (titled : draft.title = anomalyTitle (metricLabel about)) :
    anomalySubject draft.details = some about := by
  cases rightful with
  | failure failure world unit => exact absurd titled (failure_not_anomaly _ _)
  | collation mismatch nonempty => exact absurd titled (collation_not_anomaly _ _)
  | anomaly config statistics anomaly metric labelled =>
    have labels : metricLabel anomaly.key = metricLabel about :=
      labelled.symm.trans (List.append_cancel_left (List.append_cancel_right titled))
    rw [← metricLabel_injective metric subject labels]
    exact anomalyName anomaly metric
  | family draft familiar => exact absurd (titled ▸ familiar.titled) (anomaly_not_family _)

end Details

section Kept

variable {table : AlertTable} (kept : Kept table)

include kept

theorem Kept.row {row : Alert} (active : row ∈ activeAlerts table sysadmin) :
    Rightful (told row).1 := by
  refine kept row.title (told row) ?_
  rw [standing, mem_activeAlerts.mp active]
  rfl

theorem Kept.collations : collationFamily.Finds table where
  titled _ active _ named := (kept.row active).collation_titled named
  found _ active _ _ titled := (kept.row active).collation_found titled

theorem Kept.anomalies : anomalyFamily.Finds table where
  titled _ active _ named := (kept.row active).anomaly_titled named
  found _ active _ subject titled := (kept.row active).anomaly_found subject titled

end Kept

/-! What stands of a dead unit, of a stale collation and of an unusual reading, after any run of the
writers of the alerts table. -/

/-! ## One operation -/

section Operations

variable {table : AlertTable} {title : Text}

theorem standing_raised {after : AlertTable} {agent : Text} {stamp : Int} {draft : Draft}
    (raised : raiseAlert table agent stamp draft = some after) : standing after title =
      if (agent, draft.title) = (sysadmin, title) then some (draft, stamp)
      else standing table title := by
  rw [standing, openRow?_raiseAlert raised]
  split <;> rfl

theorem standing_spared {which : Alert → Bool} {at_ : Int}
    (spared : ∀ row, table.openRow? (sysadmin, title) = some row → which row = false) :
    standing (table.amend (resolving which at_)) title = standing table title := by
  rw [standing, openRow?_resolving, standing]
  cases found : table.openRow? (sysadmin, title) with
  | none => rfl
  | some row => rw [Option.filter_some, spared row found]; rfl

theorem standing_taken {which : Alert → Bool} {at_ : Int}
    (taken : ∀ row, table.openRow? (sysadmin, title) = some row → which row = true) :
    standing (table.amend (resolving which at_)) title = none := by
  rw [standing, openRow?_resolving]
  cases found : table.openRow? (sysadmin, title) with
  | none => rfl
  | some row => rw [Option.filter_some, taken row found]; rfl

theorem standing_resolving {which : Alert → Bool} {at_ : Int} {content : Draft × Int}
    (stands : standing (table.amend (resolving which at_)) title = some content) :
    standing table title = some content := by
  rw [standing, openRow?_resolving] at stands
  obtain ⟨row, found, same⟩ := Option.map_eq_some_iff.mp stands
  rw [standing, (Option.filter_eq_some_iff.mp found).1, ← same]
  rfl

theorem open_titled {row : Alert} (found : table.openRow? (sysadmin, title) = some row) :
    row.agent = sysadmin ∧ row.title = title ∧ row.resolvedAt.isNone = true := by
  obtain ⟨inOpen, key⟩ := Table.openRow?_eq_some.mp found
  exact ⟨congrArg Prod.fst key, congrArg Prod.snd key, (List.mem_filter.mp inOpen).2⟩

theorem standing_refreshed_other {agent : Text} {draft : Draft}
    (apart : (agent, draft.title) ≠ (sysadmin, title)) :
    standing (refreshedTable table agent draft) title = standing table title := by
  rw [refreshedTable]
  cases rewritten : (table.openRow? (agent, draft.title)).bind fun row => refreshAlert row draft with
  | none => rfl
  | some updated =>
    obtain ⟨row, found, refreshed⟩ := Option.bind_eq_some_iff.mp rewritten
    have same : updated.id = row.id := by rw [refreshAlert_some refreshed]
    rw [standing, openRow?_rewriting_other found same apart]
    rfl

theorem standing_refreshed {draft : Draft} {content : Draft × Int}
    (stands : standing (refreshedTable table sysadmin draft) draft.title = some content) :
    standing table draft.title = some content ∨
      content.1.title = draft.title ∧ content.1.details = draft.details := by
  rw [refreshedTable] at stands
  cases rewritten : (table.openRow? (sysadmin, draft.title)).bind fun row =>
    refreshAlert row draft with
  | none =>
    rw [rewritten] at stands
    exact Or.inl stands
  | some updated =>
    obtain ⟨row, found, refreshed⟩ := Option.bind_eq_some_iff.mp rewritten
    rw [rewritten] at stands
    change standing (table.amend (rewriting updated)) draft.title = some content at stands
    rw [standing, openRow?_rewriting, found, Option.map_some, rewriting_refreshed refreshed,
      refreshAlert_some refreshed] at stands
    right
    rw [← Option.some.inj stands]
    exact ⟨(open_titled found).2.1, rfl⟩

end Operations

theorem sighted_seen {current : List (Text × Option Draft)} {stamp : Int} {about : Text}
    {content : Draft × Int} (seen : sighted current stamp about = .seen content) :
    (about, some content.1) ∈ current ∧ content.2 = stamp := by
  rw [sighted] at seen
  split at seen
  · cases seen
  · cases seen
  · rename_i other draft found
    cases seen
    have named : other = about := by simpa using List.find?_some found
    exact ⟨named ▸ List.mem_of_find?_eq_some found, rfl⟩

theorem kept_reconcile {family : OwnedFamily} {table after : AlertTable}
    {current : List (Text × Option Draft)} {stamp at_ : Int} (kept : Kept table)
    (finds : family.Finds table) (sees : family.Sees current)
    (rightful : ∀ about draft, (about, some draft) ∈ current → Rightful draft)
    (ran : family.reconcile current stamp at_ table = some after) : Kept after := by
  obtain ⟨same, ranToo, ours, others⟩ := OwnedFamily.reconcile_spec finds sees stamp at_
  cases ran.symm.trans ranToo
  intro title content stands
  by_cases titled : ∃ about, family.Subject about ∧ family.title about = title
  · obtain ⟨about, subject, rfl⟩ := titled
    rw [ours about subject] at stands
    cases seen : sighted current stamp about with
    | gone => rw [seen] at stands; cases stands
    | unmoved => rw [seen] at stands; exact kept _ _ stands
    | seen fresh =>
      rw [seen] at stands
      cases old : standing table (family.title about) with
      | some before =>
        rw [old] at stands
        cases stands
        exact kept _ _ old
      | none =>
        rw [old] at stands
        cases stands
        exact rightful about _ (sighted_seen seen).1
  · refine kept title content ?_
    rw [standing, others _ fun about subject same => titled ⟨about, subject, (Prod.mk.inj same).2⟩]
      at stands
    exact stands

theorem recordUnitFailure_cases (met : HandlerWorld) (table : AlertTable) (failure : Failure) :
    ((recordUnitFailure met table failure).1 = false ∧
      (recordUnitFailure met table failure).2 = table ∧
        (met.reachable = true → met.commits = true →
          (standing table (unitFailureTitle failure.unit)).isSome = true)) ∨
      (recordUnitFailure met table failure).1 = true ∧ met.reachable = true ∧ met.commits = true ∧
        standing table (unitFailureTitle failure.unit) = none ∧
        raiseAlert table sysadmin met.stamp (failureDraft failure met.schema) =
          some (recordUnitFailure met table failure).2 := by
  change _ ∨ _ ∧ _ ∧ _ ∧ _ ∧
    raiseAlert table filedUnder met.stamp (failureDraft failure met.schema) = _
  rw [recordUnitFailure]
  cases reached : met.reachable with
  | false => exact Or.inl ⟨rfl, rfl, fun no => absurd no Bool.false_ne_true⟩
  | true =>
    rw [if_neg (by decide)]
    have key : table.openRow? (sysadmin, unitFailureTitle failure.unit) =
        table.openRow? (filedUnder, unitFailureTitle failure.unit) := rfl
    cases found : table.openRow? (filedUnder, unitFailureTitle failure.unit) with
    | some row =>
      rw [Option.isSome_some, if_pos rfl]
      exact Or.inl ⟨rfl, rfl, fun _ _ => by rw [standing, key, found]; rfl⟩
    | none =>
      rw [Option.isSome_none, if_neg Bool.false_ne_true]
      obtain ⟨after, raised⟩ :=
        @raiseAlert_enabled table filedUnder met.stamp (failureDraft failure met.schema) found
      rw [raised]
      cases committed : met.commits with
      | false => exact Or.inl ⟨rfl, rfl, fun _ no => absurd no Bool.false_ne_true⟩
      | true => exact Or.inr ⟨rfl, rfl, rfl, by rw [standing, key, found]; rfl, rfl⟩

theorem kept_raised {table after : AlertTable} {agent : Text} {stamp : Int} {draft : Draft}
    (kept : Kept table) (rightful : agent = sysadmin → Rightful draft)
    (raised : raiseAlert table agent stamp draft = some after) :
    Kept after := by
  intro title content stands
  rw [standing_raised raised] at stands
  split at stands
  · rename_i same
    cases stands
    exact rightful (Prod.mk.inj same).1
  · exact kept title content stands

theorem kept_resolving {table : AlertTable} {which : Alert → Bool} {at_ : Int} (kept : Kept table) :
    Kept (table.amend (resolving which at_)) :=
  fun title content stands => kept title content (standing_resolving stands)

theorem collations_rightful (reading : CatalogReading) (about : Text) (draft : Draft)
    (offered : (about, some draft) ∈ reading.current) : Rightful draft := by
  obtain ⟨mismatch, inside, same⟩ := List.mem_map.mp offered
  cases same
  exact .collation mismatch (reading.named mismatch inside)

theorem anomalies_rightful {config : AnomalyConfig} {statistics : Statistics} {metrics : Metrics}
    {history : Dict Text (List PyFloat)} {spoken : List Text} (about : Text) (draft : Draft)
    (offered : (about, some draft) ∈ anomaliesNow config statistics
      (detectAnomalies config statistics metrics history) spoken) : Rightful draft := by
  obtain ⟨anomaly, inside, same⟩ := List.mem_map.mp offered
  obtain ⟨_, offered⟩ := Prod.mk.inj same
  split at offered
  · cases offered
  cases offered
  obtain ⟨metric, labelled⟩ := detectAnomalies_metric inside
  exact .anomaly config statistics anomaly metric labelled

theorem next_collation {table : AlertTable} (kept : Kept table) (reading : CatalogReading)
    (stamp at_ : Int) : collationFamily.reconcile reading.current stamp at_ table =
      some (next table (.collation (some reading) stamp at_)) := by
  obtain ⟨after, ran, _⟩ := OwnedFamily.reconcile_spec kept.collations reading.sees stamp at_
  rw [next, checkCollation_reconciles, ran]
  rfl

theorem next_anomalies {table : AlertTable} (kept : Kept table) {config : AnomalyConfig}
    (enabled : config.enabled = true) (statistics : Statistics) (metrics : Metrics)
    (history : Dict Text (List PyFloat)) (breached : List Text) (stamp at_ : Int) :
    anomalyFamily.reconcile (anomaliesNow config statistics
      (detectAnomalies config statistics metrics history)
        (thresholdKeys breached table)) stamp at_ table =
        some (next table (.anomalies config statistics metrics history breached stamp at_)) := by
  obtain ⟨after, ran, _⟩ := OwnedFamily.reconcile_spec kept.anomalies
    (detectAnomalies_sees config statistics metrics history (thresholdKeys breached table)) stamp at_
  rw [next, checkAnomalies_reconciles enabled, ran]
  rfl

theorem next_anomalies_off {table : AlertTable} {config : AnomalyConfig}
    (disabled : config.enabled = false) (statistics : Statistics) (metrics : Metrics)
    (history : Dict Text (List PyFloat)) (breached : List Text) (stamp at_ : Int) :
    next table (.anomalies config statistics metrics history breached stamp at_) = table := by
  rw [next, checkAnomalies, if_pos disabled]
  rfl

theorem kept_next {table : AlertTable} (kept : Kept table) (turn : Turn) : Kept (next table turn) := by
  cases turn with
  | failed met failure named =>
    rcases recordUnitFailure_cases met table failure with ⟨_, same, _⟩ | ⟨_, _, _, _, raised⟩
    · rw [next, same]
      exact kept
    · exact kept_raised kept (fun _ => .failure failure met.schema named) raised
  | started at_ => exact kept_resolving kept
  | collation reading stamp at_ =>
    cases reading with
    | none => exact kept
    | some reading =>
      exact kept_reconcile kept kept.collations reading.sees (collations_rightful reading)
        (next_collation kept reading stamp at_)
  | anomalies config statistics metrics history breached stamp at_ =>
    cases enabled : config.enabled with
    | false =>
      rw [next_anomalies_off enabled]
      exact kept
    | true =>
      exact kept_reconcile kept kept.anomalies
        (detectAnomalies_sees config statistics metrics history _)
        anomalies_rightful (next_anomalies kept enabled statistics metrics history breached stamp at_)
  | raised agent stamp draft ours =>
    rw [next]
    cases raised : raiseAlert table agent stamp draft with
    | none => exact kept
    | some after => exact kept_raised kept (fun same => .family draft (ours same)) raised
  | refreshed agent draft ours =>
    intro title content stands
    by_cases same : (agent, draft.title) = (sysadmin, title)
    · obtain ⟨rfl, rfl⟩ := Prod.mk.inj same
      rcases standing_refreshed stands with old | ⟨titled, details⟩
      · exact kept _ content old
      · refine .family content.1 ⟨titled ▸ (ours rfl).titled, fun key listed => ?_⟩
        rw [details]
        exact (ours rfl).unkeyed key listed
    · exact kept title content ((standing_refreshed_other same).symm.trans stands)
  | cleared key listed chosen at_ => exact kept_resolving kept
  | swept judging unhealthy at_ => exact kept_resolving kept
  | closed agent other which at_ => exact kept_resolving kept

theorem kept_empty : Kept (Table.empty : AlertTable) := by
  intro title content stands
  cases stands

/-! ## One turn -/

theorem fromHandler_failure (failure : Failure) (world : Except Text SchemaWorld) :
    fromHandler (failureDraft failure world).details = true := by
  have found : (failureDetails failure (schemaDiagnosis world).2).get? (text "source") =
      some (.str sourceName) :=
    Dict.get?_ofEntries (by
      simp only [List.map_cons, List.map_nil]
      decide) (List.mem_cons_of_mem _ (List.mem_cons_of_mem _ List.mem_cons_self))
  rw [failureDraft, fromHandler, found]
  exact decide_eq_true rfl

theorem Rightful.of_handler {draft : Draft} (rightful : Rightful draft)
    (written : fromHandler draft.details = true) :
    ∃ failure world, BlankFree failure.unit ∧ draft = failureDraft failure world := by
  have hidden : ∀ {details : Details}, details.get? (text "source") = none →
      fromHandler details = false := by
    intro details absent
    rw [fromHandler, absent]
  cases rightful with
  | failure failure world named => exact ⟨failure, world, named, rfl⟩
  | collation mismatch nonempty =>
    rw [hidden (collationDetails_without mismatch (by decide))] at written
    cases written
  | anomaly config statistics anomaly metric labelled =>
    rw [Anomaly.draft, hidden (anomalyDetails_without anomaly (by decide))] at written
    cases written
  | family draft familiar =>
    rw [hidden (familiar.unkeyed _ (by simp))] at written
    cases written

theorem Rightful.of_unit {draft : Draft} (rightful : Rightful draft) {unit : Text}
    (named : BlankFree unit) (titled : draft.title = unitFailureTitle unit) :
    ∃ failure world, failure.unit = unit ∧ draft = failureDraft failure world := by
  cases rightful with
  | failure failure world free => exact ⟨failure, world, List.append_cancel_right titled, rfl⟩
  | collation mismatch nonempty => exact absurd titled.symm (failure_not_collation named _)
  | anomaly config statistics anomaly metric labelled =>
    exact absurd titled.symm (failure_not_anomaly _ _)
  | family draft familiar => exact absurd (titled ▸ familiar.titled) (failure_not_family named)

/-- The turns of the families that do not find their rows by what the details name. -/
def Turn.IsOther : Turn → Prop
  | .raised _ _ _ _ | .refreshed _ _ _ | .cleared _ _ _ _ | .closed _ _ _ _ => True
  | _ => False

section Turns

variable {table : AlertTable} {title : Text}

theorem standing_other (kept : Kept table) (apart : ¬ FamilyTitle title) {turn : Turn}
    (other : turn.IsOther) : standing (next table turn) title = standing table title := by
  have notOurs : ∀ {agent : Text} {draft : Draft}, (agent = sysadmin → Familiar draft) →
      (agent, draft.title) ≠ (sysadmin, title) := by
    intro agent draft ours same
    obtain ⟨rfl, rfl⟩ := Prod.mk.inj same
    exact apart (ours rfl).titled
  cases turn with
  | failed met failure named => cases other
  | started at_ => cases other
  | collation reading stamp at_ => cases other
  | anomalies config statistics metrics history breached stamp at_ => cases other
  | swept judging unhealthy at_ => cases other
  | raised agent stamp draft ours =>
    rw [next]
    cases raised : raiseAlert table agent stamp draft with
    | none => rfl
    | some after => exact (standing_raised raised).trans (if_neg (notOurs ours))
  | refreshed agent draft ours => exact standing_refreshed_other (notOurs ours)
  | cleared key listed chosen at_ =>
    refine standing_spared fun row found => decide_eq_false ?_
    intro taken
    obtain ⟨same, chosenRow, number⟩ := List.mem_map.mp taken
    obtain ⟨active, picked⟩ := List.mem_filter.mp chosenRow
    have one : same = row :=
      Table.ident_injective (List.mem_of_mem_filter (List.mem_of_mem_filter active))
      (List.mem_of_mem_filter (Table.openRow?_eq_some.mp found).1) number
    subst one
    have titled : same.title = title := (open_titled found).2.1
    have absent : same.details.get? key = none :=
      (kept.row active).uncleared (fun family => apart (titled ▸ family)) listed
    simp [absent] at picked
  | closed agent another which at_ =>
    refine standing_spared fun row found => Bool.and_eq_false_imp.mpr fun theirs => ?_
    exact absurd ((open_titled found).1.symm.trans (of_decide_eq_true theirs)).symm another

theorem standing_failed_other {met : HandlerWorld} {failure : Failure}
    (named : BlankFree failure.unit) (apart : unitFailureTitle failure.unit ≠ title) :
    standing (next table (.failed met failure named)) title = standing table title := by
  rcases recordUnitFailure_cases met table failure with ⟨_, same, _⟩ | ⟨_, _, _, _, raised⟩
  · rw [next, same]
  · rw [next, standing_raised raised]
    exact if_neg fun same => apart (Prod.mk.inj same).2

theorem standing_started_other {at_ : Int} (apart : unitFailureTitle ownUnit ≠ title) :
    standing (next table (.started at_)) title = standing table title := by
  refine standing_spared fun row found => ?_
  have different : decide (row.title = unitFailureTitle ownUnit) = false :=
    decide_eq_false fun same => apart (same.symm.trans (open_titled found).2.1)
  simp [resolvedBy, different]

theorem standing_collation_other (kept : Kept table) {reading : Option CatalogReading}
    {stamp at_ : Int} (apart : ∀ datname, collationTitle datname ≠ title) :
    standing (next table (.collation reading stamp at_)) title = standing table title := by
  cases reading with
  | none => rfl
  | some reading =>
    obtain ⟨after, ran, _, others⟩ := OwnedFamily.reconcile_spec kept.collations reading.sees stamp at_
    cases ran.symm.trans (next_collation kept reading stamp at_)
    rw [standing, others _ fun about _ same => apart about (Prod.mk.inj same).2]
    rfl

theorem standing_anomalies_other (kept : Kept table) {config : AnomalyConfig}
    {statistics : Statistics} {metrics : Metrics} {history : Dict Text (List PyFloat)}
    {breached : List Text} {stamp at_ : Int} (apart : ∀ label, anomalyTitle label ≠ title) :
    standing (next table (.anomalies config statistics metrics history breached stamp at_)) title =
      standing table title := by
  cases enabled : config.enabled with
  | false => rw [next_anomalies_off enabled]
  | true =>
    obtain ⟨after, ran, _, others⟩ := OwnedFamily.reconcile_spec kept.anomalies
      (detectAnomalies_sees config statistics metrics history (thresholdKeys breached table)) stamp at_
    cases ran.symm.trans (next_anomalies kept enabled statistics metrics history breached stamp at_)
    rw [standing, others _ fun about _ same => apart _ (Prod.mk.inj same).2]
    rfl

theorem standing_swept (judging : Judging) (unhealthy : List Text) (at_ : Int) :
    standing (next table (.swept judging unhealthy at_)) title =
      if sweeps judging unhealthy title = true then none else standing table title := by
  split
  · rename_i taken
    refine standing_taken fun row found => ?_
    obtain ⟨ours, titled, opened⟩ := open_titled found
    simp only [ours, titled, opened, decide_true, Bool.and_self, Bool.true_and]
    exact taken
  · rename_i spared
    refine standing_spared fun row found => ?_
    have left : sweeps { judging with table } unhealthy row.title = false := by
      rw [(open_titled found).2.1]
      exact Bool.not_eq_true _ ▸ spared
    simp [left]

end Turns

theorem resolvable_unfamiliar {title : Text} (apart : ¬ FamilyTitle title) :
    resolvable title = true ↔ ∃ kind : ServiceAlertKind, text " " ++ kind.word <:+ title := by
  rw [resolvable_iff]
  constructor
  · intro matched
    rcases matched with ends | ram | ⟨lead, listed, rest, rfl⟩
    · exact ends
    · exact absurd (ram ▸ FamilyTitle.threshold .ram) apart
    · simp only [List.mem_cons, List.not_mem_nil, or_false] at listed
      rcases listed with rfl | rfl | rfl | rfl
      · exact absurd (FamilyTitle.threshold (.gpuTemperature rest)) apart
      · exact absurd (FamilyTitle.threshold (.vram rest)) apart
      · exact absurd (FamilyTitle.threshold (.criticalDisk rest)) apart
      · exact absurd (FamilyTitle.threshold (.highDisk rest)) apart
  · exact Or.inl

theorem failure_unresolvable {unit : Text} (named : BlankFree unit) :
    resolvable (unitFailureTitle unit) = false := by
  rw [← Bool.not_eq_true, resolvable_unfamiliar (failure_not_family named)]
  intro ends
  obtain ⟨kind, ends⟩ := ends
  exact ends_apart ends (List.suffix_append _ _) (by cases kind <;> decide) rfl

theorem anomaly_unresolvable (label : Text) : resolvable (anomalyTitle label) = false := by
  rw [← Bool.not_eq_true, resolvable_unfamiliar (anomaly_not_family label)]
  intro ends
  obtain ⟨kind, ends⟩ := ends
  exact ends_apart ends (List.suffix_append _ _) (by cases kind <;> decide) rfl

/-- The last word of a database's name is a service's state. -/
def sweptDatabase (datname : Text) : Bool :=
  ServiceAlertKind.all.any fun kind => (text " " ++ kind.word).isSuffixOf (text " " ++ datname)

theorem collation_resolvable (datname : Text) :
    resolvable (collationTitle datname) = sweptDatabase datname := by
  have split : collationTitle datname = text "Stale collation version on" ++
      (text " " ++ datname) := by
    rw [← List.append_assoc]
    rfl
  have words : ∀ kind : ServiceAlertKind, ∀ tail ∈ (text " " ++ kind.word).tails,
      tail.head? = some (codePoint ' ') → tail = text " " ++ kind.word := by
    intro kind
    cases kind <;> decide
  rw [Bool.eq_iff_iff, resolvable_unfamiliar (collation_not_family datname), sweptDatabase,
    List.any_eq_true]
  constructor
  · intro ends
    obtain ⟨kind, ends⟩ := ends
    refine ⟨kind, kind.mem_all, List.isSuffixOf_iff_suffix.mpr ?_⟩
    rw [split] at ends
    rcases List.suffix_or_suffix_of_suffix ends (List.suffix_append _ _) with inside | longer
    · exact inside
    · rw [words kind _ ((List.mem_tails _ _).mpr longer) rfl]
  · intro ends
    obtain ⟨kind, _, inside⟩ := ends
    exact ⟨kind, split ▸ (List.isSuffixOf_iff_suffix.mp inside).trans (List.suffix_append _ _)⟩

end SysadminAssistant.Monitor.AlertTurns
