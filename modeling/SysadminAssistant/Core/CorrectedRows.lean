import SysadminAssistant.Core.Alerts
import SysadminAssistant.Python.JsonAgreement

namespace SysadminAssistant.Core

open Python

/-! A held alert row brought up to date (`BaseAgent.refresh_alert` in `sysadmin/core/agent.py`),
over calls between which the row is stored and read back. -/

/-- `SEVERITY_ORDER`'s keys. -/
def Severity.ofName? (name : Text) : Option Severity :=
  [Severity.info, .warning, .critical].find? fun severity => severity.name = name

/-- `may_quieten_in_place`, of a rung that need not be one. -/
def mayQuietenTo (wanted : Text) (openSeverity : Severity) : Bool :=
  match Severity.ofName? wanted with
  | none => false
  | some wanted => mayQuietenInPlace wanted openSeverity

/-- An open row as it is read from the table: `details` is a `dict` that `json.loads` built. -/
structure HeldRow where
  severity : Severity
  message : Option Text
  details : List (Text × Json)

/-- What a caller hands to `refresh_alert`. -/
structure Refresh where
  message : Option Text
  details : Option (List (PyKey × PyValue))
  severity : Option Text

/-- A row that was rewritten, with the caller's own `dict` in it. -/
structure RewrittenRow where
  severity : Severity
  message : Option Text
  details : List (PyKey × PyValue)

section

variable (repr : PyFloat → Text)

/-- `details or {}`. -/
def Refresh.wanted (call : Refresh) : List (PyKey × PyValue) := call.details.getD []

def Refresh.comparable (call : Refresh) : List (Text × Json) :=
  Json.ofPairs (PyValue.reloadedEntries repr call.wanted)

/-- The rung to write; a caller's rung is the floor when it is written at all. -/
def Refresh.quietenTo (call : Refresh) (row : HeldRow) : Option Severity :=
  (call.severity.filter fun wanted => mayQuietenTo wanted row.severity).bind Severity.ofName?

/-- `refresh_alert`: the row as it is rewritten, or `none` for `False`. -/
def refreshHeld (row : HeldRow) (call : Refresh) : Option RewrittenRow :=
  let quietenTo := call.quietenTo row
  if quietenTo.isNone && row.message = call.message && Json.pyEqual (.obj row.details)
    (.obj (call.comparable repr))
  then none
  else some {
    severity := quietenTo.getD row.severity
    message := call.message
    details := call.wanted }

/-- The row is written as JSON and read back. -/
def RewrittenRow.reloaded (row : RewrittenRow) : HeldRow where
  severity := row.severity
  message := row.message
  details := Json.ofPairs (PyValue.reloadedEntries repr row.details)

/-- The row that the next call finds. -/
def afterRefresh (row : HeldRow) (call : Refresh) : HeldRow :=
  ((refreshHeld repr row call).map (RewrittenRow.reloaded repr)).getD row

def afterRefreshes (row : HeldRow) (calls : List Refresh) : HeldRow :=
  calls.foldl (afterRefresh repr) row

end

theorem quietenTo_eq {call : Refresh} {row : HeldRow} {rung : Severity}
    (written : call.quietenTo row = some rung) : rung = .info ∧ row.severity ≠ .info := by
  obtain ⟨wanted, chosen, named⟩ := Option.bind_eq_some_iff.mp written
  have allowed := (Option.filter_eq_some_iff.mp chosen).2
  rw [mayQuietenTo, named] at allowed
  exact mayQuietenInPlace_iff.mp allowed

theorem quietenTo_info {call : Refresh} {row : HeldRow} (quiet : row.severity = .info) :
    call.quietenTo row = none := by
  cases written : call.quietenTo row with
  | none => rfl
  | some rung => exact absurd quiet (quietenTo_eq written).2

theorem comparable_equal (repr : PyFloat → Text) (call : Refresh) :
    Json.pyEqual (.obj (call.comparable repr)) (.obj (call.comparable repr)) = true :=
  Json.agree_refl Json.pyLeaf_refl _ (PyValue.reloaded_distinct repr (.dict call.wanted))

theorem comparable_same (repr : PyFloat → Text) (call : Refresh) :
    Json.sameJson (.obj (call.comparable repr)) (.obj (call.comparable repr)) = true :=
  Json.agree_refl Json.jsonLeaf_refl _ (PyValue.reloaded_distinct repr (.dict call.wanted))

theorem afterRefresh_cases (repr : PyFloat → Text) (row : HeldRow) (call : Refresh) :
    (refreshHeld repr row call = none ∧ afterRefresh repr row call = row ∧ call.quietenTo row = none ∧
      row.message = call.message ∧ Json.pyEqual (.obj row.details)
        (.obj (call.comparable repr)) = true) ∨
    (refreshHeld repr row call ≠ none ∧ afterRefresh repr row call =
        ⟨(call.quietenTo row).getD row.severity, call.message, call.comparable repr⟩ ∧
      ¬ (call.quietenTo row = none ∧ row.message = call.message ∧
        Json.pyEqual (.obj row.details) (.obj (call.comparable repr)) = true)) := by
  by_cases silent : call.quietenTo row = none ∧ row.message = call.message ∧
      Json.pyEqual (.obj row.details) (.obj (call.comparable repr)) = true
  · have refused : refreshHeld repr row call = none := by
      simp [refreshHeld, silent.1, silent.2.1, silent.2.2]
    refine Or.inl ⟨refused, ?_, silent⟩
    rw [afterRefresh, refused]
    rfl
  · have written : refreshHeld repr row call =
        some ⟨(call.quietenTo row).getD row.severity, call.message, call.wanted⟩ := by
      rw [refreshHeld, if_neg]
      simpa [and_assoc] using silent
    refine Or.inr ⟨by simp [written], ?_, silent⟩
    rw [afterRefresh, written]
    rfl

/-! What a run of refreshes leaves of a held row. -/

variable (repr : PyFloat → Text)

/-- The call has corrected the row it found, and made it no louder. -/
structure CorrectedBy (row : HeldRow) (call : Refresh) : Prop where
  message : (afterRefresh repr row call).message = call.message
  details : Json.sameJson (.obj (afterRefresh repr row call).details)
    (.obj (call.comparable repr)) = true
  neverLouder : (afterRefresh repr row call).severity.order ≤ row.severity.order
  floor : (afterRefresh repr row call).severity ≠ row.severity →
    (afterRefresh repr row call).severity = quietestSeverity
  answer : refreshHeld repr row call = none ↔ afterRefresh repr row call = row
  repeated : refreshHeld repr (afterRefresh repr row call) call = none ∧
    afterRefresh repr (afterRefresh repr row call) call = afterRefresh repr row call

/-- How often a run changes the row's severity. -/
def rungChanges (row : HeldRow) : List Refresh → Nat
  | [] => 0
  | call :: rest =>
    (if (afterRefresh repr row call).severity = row.severity then 0 else 1) +
      rungChanges (afterRefresh repr row call) rest

/-- A call that would quieten nothing and whose message and details the row `==` already holds has
no boolean where the row has a number, nor the other way round. -/
def Refresh.Plain (row : HeldRow) (call : Refresh) : Prop :=
  call.quietenTo row = none → row.message = call.message →
    Json.pyEqual (.obj row.details) (.obj (call.comparable repr)) = true →
      Json.boolsAgree (.obj row.details) (.obj (call.comparable repr)) = true

theorem quietenTo_congr {call : Refresh} {row other : HeldRow}
    (same : row.severity = other.severity) : call.quietenTo row = call.quietenTo other := by
  rw [Refresh.quietenTo, Refresh.quietenTo, same]

theorem quietenTo_after (row : HeldRow) (call : Refresh) :
    call.quietenTo (afterRefresh repr row call) = none := by
  rcases afterRefresh_cases repr row call with ⟨_, same, idle, _⟩ | ⟨_, written, _⟩
  · rw [same]
    exact idle
  · cases chosen : call.quietenTo row with
    | none =>
      refine (quietenTo_congr ?_).trans chosen
      rw [written, chosen, Option.getD_none]
    | some rung =>
      refine quietenTo_info ?_
      rw [written, chosen, Option.getD_some, (quietenTo_eq chosen).1]

theorem severity_cases (row : HeldRow) (call : Refresh) :
    (afterRefresh repr row call).severity = row.severity ∨
      (afterRefresh repr row call).severity = .info ∧ row.severity ≠ .info := by
  rcases afterRefresh_cases repr row call with ⟨_, same, _⟩ | ⟨_, written, _⟩
  · exact Or.inl (congrArg HeldRow.severity same)
  · rw [written]
    cases chosen : call.quietenTo row with
    | none => exact Or.inl rfl
    | some rung => exact Or.inr (quietenTo_eq chosen)

theorem refreshHeld_after (row : HeldRow) (call : Refresh) :
    refreshHeld repr (afterRefresh repr row call) call = none := by
  rcases afterRefresh_cases repr row call with ⟨refused, same, _⟩ | ⟨_, written, _⟩
  · rw [same]
    exact refused
  · rcases afterRefresh_cases repr (afterRefresh repr row call) call with ⟨refused, _⟩ | ⟨_, _, loud⟩
    · exact refused
    · refine absurd ⟨quietenTo_after repr row call, ?_, ?_⟩ loud
      · rw [written]
      · rw [written]
        exact comparable_equal repr call

theorem afterRefresh_of_none {row : HeldRow} {call : Refresh}
    (refused : refreshHeld repr row call = none) : afterRefresh repr row call = row := by
  rw [afterRefresh, refused]
  rfl

theorem refreshHeld_none_iff (row : HeldRow) (call : Refresh) :
    refreshHeld repr row call = none ↔ afterRefresh repr row call = row := by
  refine ⟨afterRefresh_of_none repr, fun same => ?_⟩
  have after := refreshHeld_after repr row call
  rw [same] at after
  exact after

theorem correctedBy_iff (row : HeldRow) (call : Refresh) :
    CorrectedBy repr row call ↔ call.Plain repr row := by
  constructor
  · intro corrected idle message equal
    have same : afterRefresh repr row call = row := by
      rcases afterRefresh_cases repr row call with ⟨_, same, _⟩ | ⟨_, _, loud⟩
      · exact same
      · exact absurd ⟨idle, message, equal⟩ loud
    have details := corrected.details
    rw [same, Json.sameJson_eq, Bool.and_eq_true] at details
    exact details.2
  · intro plain
    refine ⟨?_, ?_, ?_, ?_, refreshHeld_none_iff repr row call, refreshHeld_after repr row call, ?_⟩
    · rcases afterRefresh_cases repr row call with ⟨_, same, _, message, _⟩ | ⟨_, written, _⟩
      · rw [same]
        exact message
      · rw [written]
    · rcases afterRefresh_cases repr row call with ⟨_, same, idle, message, equal⟩ | ⟨_, written, _⟩
      · rw [same, Json.sameJson_eq, equal, plain idle message equal, Bool.and_self]
      · rw [written]
        exact comparable_same repr call
    · rcases severity_cases repr row call with same | ⟨quiet, _⟩
      · rw [same]
      · rw [quiet]
        exact Nat.zero_le _
    · intro moved
      rcases severity_cases repr row call with same | ⟨quiet, _⟩
      · exact absurd same moved
      · exact quiet
    · exact afterRefresh_of_none repr (refreshHeld_after repr row call)

theorem rungChanges_info (row : HeldRow) (calls : List Refresh) (quiet : row.severity = .info) :
    rungChanges repr row calls = 0 := by
  induction calls generalizing row with
  | nil => rfl
  | cons call rest ih =>
    have kept : (afterRefresh repr row call).severity = row.severity := by
      rcases severity_cases repr row call with same | ⟨_, loud⟩
      · exact same
      · exact absurd quiet loud
    rw [rungChanges, if_pos kept, ih _ (kept.trans quiet)]

theorem rungChanges_le (row : HeldRow) (calls : List Refresh) : rungChanges repr row calls ≤ 1 := by
  induction calls generalizing row with
  | nil => exact Nat.zero_le 1
  | cons call rest ih =>
    rw [rungChanges]
    rcases severity_cases repr row call with same | ⟨quiet, _⟩
    · rw [if_pos same, Nat.zero_add]
      exact ih _
    · rw [rungChanges_info repr _ rest quiet]
      split <;> omega

/-- Every call of a run corrects the row it finds, exactly when no call of the run hands `==` a
boolean for a number in details that are otherwise the row's. -/
theorem refreshes_corrected_iff (row : HeldRow) (calls : List Refresh) :
    ((∀ before call after, calls = before ++ call :: after →
        CorrectedBy repr (afterRefreshes repr row before) call) ∧ rungChanges repr row calls ≤ 1) ↔
      ∀ before call after, calls = before ++ call :: after →
        call.Plain repr (afterRefreshes repr row before) := by
  constructor
  · intro corrected before call after shape
    exact (correctedBy_iff repr _ call).mp (corrected.1 before call after shape)
  · intro plain
    refine ⟨fun before call after shape => ?_, rungChanges_le repr row calls⟩
    exact (correctedBy_iff repr _ call).mpr (plain before call after shape)

/-! ## A flag that was a number -/

def countedRow : HeldRow := ⟨.warning, none, [(text "armed", .int 1)]⟩

def flagCall : Refresh := ⟨none, some [(.str (text "armed"), .bool true)], none⟩

/-- `1 == True`: the call answers `False`, and the row goes on saying `1`. -/
theorem flagCall_ignored : ¬ CorrectedBy (fun _ => []) countedRow flagCall := by
  intro corrected
  have idle : refreshHeld (fun _ => []) countedRow flagCall = none := by decide
  have details := corrected.details
  rw [corrected.answer.mp idle] at details
  exact absurd details (by decide)

end SysadminAssistant.Core
