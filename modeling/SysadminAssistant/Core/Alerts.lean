import SysadminAssistant.Library.OpenRows
import SysadminAssistant.Python.Dict
import SysadminAssistant.Python.Float
import SysadminAssistant.Python.Json
import SysadminAssistant.Python.Text

namespace SysadminAssistant.Core

open Python

/-! The quiet-then-loud alert ladder (`sysadmin/core/escalation.py`). -/

/-- The three rungs `chk_alert_severity` admits. -/
inductive Severity where
  | info | warning | critical
deriving DecidableEq, Repr

namespace Severity

/-- `SEVERITY_ORDER`. -/
def order : Severity → Nat
  | .info => 0
  | .warning => 1
  | .critical => 2

def name : Severity → Text
  | .info => text "info"
  | .warning => text "warning"
  | .critical => text "critical"

end Severity

inductive Step where
  | raise | escalate | hold
deriving DecidableEq, Repr

/-- An open row louder than `wanted` holds: de-escalation belongs to recovery. -/
def stepFor (wanted : Severity) (openSeverity : Option Severity) : Step :=
  match openSeverity with
  | none => .raise
  | some standing => if wanted.order > standing.order then .escalate else .hold

def isLouderThan (rung other : Severity) : Bool := rung.order > other.order

def quietestSeverity : Severity := .info

/-- May a held row be rewritten from `openSeverity` to `wanted`?  The floor is the
only destination. -/
def mayQuietenInPlace (wanted openSeverity : Severity) : Bool :=
  if wanted ≠ quietestSeverity then false else wanted.order < openSeverity.order

theorem mayQuietenInPlace_iff {wanted openSeverity : Severity} :
    mayQuietenInPlace wanted openSeverity = true ↔
      wanted = .info ∧ openSeverity ≠ .info := by
  cases wanted <;> cases openSeverity <;>
    simp [mayQuietenInPlace, quietestSeverity, Severity.order]

structure Ladder where
  quiet : Severity
  loud : Severity

/-- Which rung `elapsed` reaches, or `none` for neither. -/
def Ladder.severityFor (ladder : Ladder) (elapsed threshold : ℚ) (escalationGap : PyFloat) :
    Option Severity :=
  if elapsed < threshold then none
  else if reaches elapsed (escalationGap.add threshold) then some ladder.loud
  else some ladder.quiet

theorem Ladder.severityFor_zero (ladder : Ladder) {elapsed : ℚ} (nonneg : 0 ≤ elapsed)
    (escalationGap : PyFloat) : ladder.severityFor elapsed 0 escalationGap =
      some (if reaches elapsed escalationGap then ladder.loud else ladder.quiet) := by
  rw [Ladder.severityFor, if_neg (not_lt.mpr nonneg), PyFloat.add_zero]
  split <;> rfl

/-- Instants are microseconds since the epoch, as `timestamp with time zone` keeps
them.  The age of a row is clamped at zero. -/
def hoursSince (created now : Int) : ℚ := max 0 (roundToDouble (totalSeconds (now - created) / 3600))

theorem hoursSince_nonneg (created now : Int) : 0 ≤ hoursSince created now := le_max_left _ _

def plural (count : Int) (noun : String) : Text :=
  intText count ++ text (" " ++ noun) ++ if count = 1 then [] else text "s"

def humaniseHours (hours : ℚ) : Text :=
  if hours < 1 then plural (max 1 (roundHalfEven (roundToDouble (hours * 60)))) "minute"
  else if hours < 48 then plural (roundHalfEven hours) "hour"
  else plural (hours / 24).floor "day"

open Library

/-! The alerts table (`sysadmin/core/models/alert.py`) and its one insert
(`BaseAgent.raise_alert`).  `resolved` and `resolved_at` say one thing, which the
schema enforces; the partial index `uq_alerts_open_agent_title` is the table's. -/

abbrev Details := Dict Text Json

structure Alert where
  id : Nat
  agent : Text
  severity : Severity
  title : Text
  message : Text
  details : Details
  createdAt : Int
  resolvedAt : Option Int

instance : OpenRow Alert (Text × Text) where
  ident := Alert.id
  key alert := (alert.agent, alert.title)
  isOpen alert := alert.resolvedAt.isNone

abbrev AlertTable := Table Alert

/-- What a family hands to `raise_alert`. -/
structure Draft where
  severity : Severity
  title : Text
  message : Text
  details : Details

def newAlert (table : AlertTable) (agent : Text) (stamp : Int) (draft : Draft) : Alert where
  id := table.rows.length
  agent
  severity := draft.severity
  title := draft.title
  message := draft.message
  details := draft.details
  createdAt := stamp
  resolvedAt := none

/-- `raise_alert`: `stamp` is the database's clock.  `none` is an `IntegrityError`; that a title
is too long for its column, at 256 characters, is not modelled. -/
def raiseAlert (table : AlertTable) (agent : Text) (stamp : Int) (draft : Draft) :
    Option AlertTable :=
  table.insert? (newAlert table agent stamp draft)

/-- `UPDATE alerts SET resolved = TRUE, resolved_at = at WHERE …`. -/
def resolving (which : Alert → Bool) (at_ : Int) : Amendment Alert where
  apply alert := if which alert then { alert with resolvedAt := some at_ } else alert
  ident_apply alert := by split <;> rfl
  key_apply alert := by split <;> rfl
  opens_nothing alert := by
    split
    · intro opened
      simp [OpenRow.isOpen] at opened
    · exact id

def resolveAlertIds (table : AlertTable) (ids : List Nat) (at_ : Int) : AlertTable :=
  table.amend (resolving (fun alert => decide (alert.id ∈ ids)) at_)

/-- An agent's unresolved alerts, as rows. -/
def activeAlerts (table : AlertTable) (agent : Text) : List Alert :=
  table.openRows.filter fun alert => alert.agent = agent

theorem openRow?_resolving (table : AlertTable) (which : Alert → Bool) (at_ : Int)
    (key : Text × Text) :
    (table.amend (resolving which at_)).openRow? key =
      (table.openRow? key).filter fun alert => !which alert := by
  rw [Table.openRow?_amend]
  cases found : table.openRow? key with
  | none => rfl
  | some alert =>
    have opened : alert.resolvedAt.isNone = true :=
      (List.mem_filter.mp (Table.openRow?_eq_some.mp found).1).2
    cases chosen : which alert <;>
      simp [resolving, chosen, OpenRow.isOpen, Option.filter, opened]

theorem openRow?_raiseAlert {table after : AlertTable} {agent : Text} {stamp : Int} {draft : Draft}
    (raised : raiseAlert table agent stamp draft = some after) (key : Text × Text) :
    after.openRow? key = if (agent, draft.title) = key then
      some (newAlert table agent stamp draft) else table.openRow? key :=
  Table.openRow?_insert rfl raised key

theorem raiseAlert_vacant {table after : AlertTable} {agent : Text} {stamp : Int} {draft : Draft}
    (raised : raiseAlert table agent stamp draft = some after) :
    table.openRow? (agent, draft.title) = none := by
  cases standing : table.openRow? (agent, draft.title) with
  | none => rfl
  | some alert =>
    have refused : raiseAlert table agent stamp draft = none :=
      @Table.insert?_refused _ _ _ _ table (newAlert table agent stamp draft) alert rfl standing
    simp [refused] at raised

theorem openRow?_resolveAlertIds (table : AlertTable) (ids : List Nat) (at_ : Int)
    (key : Text × Text) : (resolveAlertIds table ids at_).openRow? key =
      (table.openRow? key).filter fun alert => alert.id ∉ ids := by
  rw [resolveAlertIds, openRow?_resolving]
  simp only [decide_not]

theorem raiseAlert_enabled {table : AlertTable} {agent : Text} (stamp : Int) {draft : Draft}
    (vacant : table.openRow? (agent, draft.title) = none) :
    ∃ after, raiseAlert table agent stamp draft = some after :=
  Table.insert?_enabled rfl vacant

/-- `refresh_alert`: the row as it is rewritten, or `none` when it already says this. -/
def refreshAlert (alert : Alert) (draft : Draft) : Option Alert :=
  let quietens := mayQuietenInPlace draft.severity alert.severity
  if !quietens && alert.message = draft.message &&
      Json.equal (.obj alert.details.entries) (.obj draft.details.entries) then none
  else some { alert with
    message := draft.message
    details := draft.details
    severity := if quietens then draft.severity else alert.severity }

theorem refreshAlert_eq_none {row : Alert} {draft : Draft} :
    refreshAlert row draft = none ↔ mayQuietenInPlace draft.severity row.severity = false ∧
      row.message = draft.message ∧
      Json.equal (.obj row.details.entries) (.obj draft.details.entries) = true := by
  simp only [refreshAlert]
  split
  · rename_i same
    simp only [Bool.and_eq_true, Bool.not_eq_true', decide_eq_true_eq] at same
    simp [same]
  · rename_i moved
    simp only [Bool.and_eq_true, Bool.not_eq_true', decide_eq_true_eq] at moved
    simp only [reduceCtorEq, false_iff]
    intro same
    exact moved ⟨⟨same.1, same.2.1⟩, same.2.2⟩

theorem refreshAlert_some {row updated : Alert} {draft : Draft}
    (refreshed : refreshAlert row draft = some updated) : updated = { row with
      message := draft.message
      details := draft.details
      severity := if mayQuietenInPlace draft.severity row.severity then draft.severity
        else row.severity } := by
  simp only [refreshAlert] at refreshed
  split at refreshed
  · cases refreshed
  · exact (Option.some.inj refreshed).symm

/-- `UPDATE alerts SET message = …, details = …, severity = … WHERE id = …`. -/
def rewriting (updated : Alert) : Amendment Alert where
  apply alert := if alert.id = updated.id then { alert with
      message := updated.message
      details := updated.details
      severity := updated.severity } else alert
  ident_apply alert := by split <;> rfl
  key_apply alert := by split <;> rfl
  opens_nothing alert := by split <;> exact id

theorem rewriting_refreshed {row updated : Alert} {draft : Draft}
    (refreshed : refreshAlert row draft = some updated) :
    (rewriting updated).apply row = updated := by
  rw [refreshAlert_some refreshed]
  exact if_pos rfl

theorem openRow?_rewriting (table : AlertTable) (updated : Alert) (key : Text × Text) :
    (table.amend (rewriting updated)).openRow? key =
      (table.openRow? key).map (rewriting updated).apply := by
  rw [Table.openRow?_amend]
  cases found : table.openRow? key with
  | none => rfl
  | some alert =>
    have opened : alert.resolvedAt.isNone = true :=
      (List.mem_filter.mp (Table.openRow?_eq_some.mp found).1).2
    have stays : OpenRow.isOpen ((rewriting updated).apply alert) = true := by
      simp only [rewriting, OpenRow.isOpen]
      split <;> exact opened
    simp [stays]

theorem openRow?_rewriting_other {table : AlertTable} {standing updated : Alert}
    {key other : Text × Text} (found : table.openRow? key = some standing)
    (same : updated.id = standing.id) (apart : key ≠ other) :
    (table.amend (rewriting updated)).openRow? other = table.openRow? other := by
  rw [openRow?_rewriting]
  cases there : table.openRow? other with
  | none => rfl
  | some row =>
    obtain ⟨inRows, _⟩ := Table.openRow?_eq_some.mp found
    obtain ⟨otherInRows, otherKey⟩ := Table.openRow?_eq_some.mp there
    have different : row.id ≠ updated.id := by
      intro equal
      have one : row = standing := Table.ident_injective (List.mem_of_mem_filter otherInRows)
        (List.mem_of_mem_filter inRows) (equal.trans same)
      rw [one, (Table.openRow?_eq_some.mp found).2] at otherKey
      exact apart otherKey
    exact congrArg some (if_neg different)

theorem closed_rewriting {table : AlertTable} {standing updated row : Alert} {key : Text × Text}
    (found : table.openRow? key = some standing) (same : updated.id = standing.id)
    (member : row ∈ table.rows) (closed : row.resolvedAt.isSome = true) :
    row ∈ (table.amend (rewriting updated)).rows := by
  obtain ⟨inOpen, _⟩ := Table.openRow?_eq_some.mp found
  have different : row.id ≠ updated.id := by
    intro equal
    have one : row = standing :=
      Table.ident_injective member (List.mem_of_mem_filter inOpen) (equal.trans same)
    have opened : row.resolvedAt.isNone = true := one ▸ (List.mem_filter.mp inOpen).2
    rw [Option.isNone_iff_eq_none.mp opened] at closed
    cases closed
  exact List.mem_map.mpr ⟨row, member, if_neg different⟩

/-- The number of an agent's open row under a title. -/
def openId (table : AlertTable) (agent title : Text) : Option Nat :=
  (table.openRow? (agent, title)).map Alert.id

theorem openId_isSome {table : AlertTable} {agent title : Text} :
    (openId table agent title).isSome = (table.openRow? (agent, title)).isSome := by
  rw [openId, Option.isSome_map]

theorem openId_rewriting (table : AlertTable) (updated : Alert) (agent title : Text) :
    openId (table.amend (rewriting updated)) agent title = openId table agent title := by
  have same : Alert.id ∘ (rewriting updated).apply = Alert.id := funext (rewriting updated).ident_apply
  rw [openId, openRow?_rewriting, Option.map_map, same, openId]

theorem openId_raiseAlert {table after : AlertTable} {agent : Text} {stamp : Int} {draft : Draft}
    (raised : raiseAlert table agent stamp draft = some after) (title : Text) :
    openId after agent title =
      if draft.title = title then some table.rows.length else openId table agent title := by
  rw [openId, openRow?_raiseAlert raised]
  by_cases same : draft.title = title
  · simp [same, newAlert]
  · simp [same, openId]

/-- Rows are never deleted, and nothing but `resolved_at` changes: a closed row stays
closed. -/
def Continues (before after : AlertTable) : Prop :=
  ∀ row ∈ before.rows, ∃ later ∈ after.rows, later = { row with resolvedAt := later.resolvedAt } ∧
    (row.resolvedAt.isSome → later.resolvedAt.isSome)

theorem Continues.refl (table : AlertTable) : Continues table table :=
  fun row member => ⟨row, member, rfl, id⟩

theorem Continues.trans {first second third : AlertTable} (left : Continues first second)
    (right : Continues second third) : Continues first third := by
  intro row member
  obtain ⟨later, laterMember, same, closed⟩ := left row member
  obtain ⟨last, lastMember, lastSame, lastClosed⟩ := right later laterMember
  refine ⟨last, lastMember, ?_, fun shut => lastClosed (closed shut)⟩
  rw [lastSame, same]

theorem Continues.raise {table after : AlertTable} {agent : Text} {stamp : Int} {draft : Draft}
    (raised : raiseAlert table agent stamp draft = some after) : Continues table after := by
  intro row member
  refine ⟨row, ?_, rfl, id⟩
  rw [Table.insert?_rows raised]
  exact List.mem_append_left _ member

theorem Continues.resolve (table : AlertTable) (which : Alert → Bool) (at_ : Int) :
    Continues table (table.amend (resolving which at_)) := by
  intro row member
  refine ⟨_, List.mem_map.mpr ⟨row, member, rfl⟩, ?_, ?_⟩
  · cases chosen : which row <;> simp [resolving, chosen]
  · cases chosen : which row <;> simp [resolving, chosen]

end SysadminAssistant.Core
