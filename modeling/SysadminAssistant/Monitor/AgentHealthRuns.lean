import SysadminAssistant.Monitor.AgentHealth

namespace SysadminAssistant.Monitor

open Python SysadminAssistant.Core Library

/-! Runs of `_check_agent_health`: what successive calls do to an agent's rows. -/

inductive HealthFamily where
  | stalled | failing
deriving DecidableEq

def HealthFamily.title : HealthFamily → Text → Text
  | .stalled => stallTitle
  | .failing => failureTitle

def HealthFamily.detailKey : HealthFamily → Text
  | .stalled => text "stalled_agent"
  | .failing => text "failing_agent"

def HealthCall.clock (call : HealthCall) : HealthFamily → CheckClock
  | .stalled => call.livenessClock
  | .failing => call.failuresClock

def familyRow (family : HealthFamily) (name : Text) (table : AlertTable) : Option Alert :=
  table.openRow? (sysadmin, family.title name)

/-- What one call may do to the open row of one agent. -/
inductive RungStep (call : HealthCall) (family : HealthFamily) :
    Option Alert → Option Alert → Prop where
  | cleared {before : Option Alert} : RungStep call family before none
  | raised {row : Alert} (stamped : row.createdAt = (call.clock family).stamp)
      (rung : row.severity = if reaches 0 call.gap then .critical else .warning) :
      RungStep call family none (some row)
  | held {row : Alert} : RungStep call family (some row) (some row)
  | escalated {quiet loud : Alert} (quietRung : quiet.severity = .warning)
      (loudRung : loud.severity = .critical)
      (stood : reaches (hoursSince quiet.createdAt (call.clock family).now) call.gap = true) :
      RungStep call family (some quiet) (some loud)

def Exclusive (table : AlertTable) : Prop :=
  ∀ name, familyRow .stalled name table = none ∨ familyRow .failing name table = none

/-- At most one open row of a family names an agent. -/
def Single (table : AlertTable) : Prop :=
  ∀ family : HealthFamily, ∀ name, ∀ left ∈ activeAlerts table sysadmin,
    ∀ right ∈ activeAlerts table sysadmin,
      detailName family.detailKey left.details = some name →
        detailName family.detailKey right.details = some name → left = right

/-- A row that another one takes the place of is resolved, and the other is new. -/
def Replaced (before after : AlertTable) : Prop :=
  ∀ family : HealthFamily, ∀ name quiet loud, familyRow family name before = some quiet →
    familyRow family name after = some loud → quiet.severity ≠ loud.severity →
      (∃ shut ∈ after.rows, shut = { quiet with resolvedAt := shut.resolvedAt } ∧
        shut.resolvedAt.isSome) ∧ before.rows.length ≤ loud.id

structure CallStep (call : HealthCall) (before after : AlertTable) : Prop where
  continues : Continues before after
  rung : ∀ family name, RungStep call family (familyRow family name before)
    (familyRow family name after)
  replaced : Replaced before after

section Step

variable {rendering : Rendering} {table after : AlertTable} {call : HealthCall}

theorem HealthRows.single (rows : HealthRows table) : Single table := by
  intro family name left inLeft right inRight leftNames rightNames
  have titles : ∀ row ∈ activeAlerts table sysadmin,
      detailName family.detailKey row.details = some name → row.title = family.title name := by
    intro row member named
    cases family with
    | stalled =>
      rcases rows.owned row member with ⟨own, stall⟩ | ⟨own, failure⟩
      · rw [stall.titled, Option.some.inj (stall.found.symm.trans named)]
        rfl
      · have hidden := failure.hidden
        simp [HealthFamily.detailKey, hidden] at named
    | failing =>
      rcases rows.owned row member with ⟨own, stall⟩ | ⟨own, failure⟩
      · have hidden := stall.hidden
        simp [HealthFamily.detailKey, hidden] at named
      · rw [failure.titled, Option.some.inj (failure.found.symm.trans named)]
        rfl
  have leftOpen := mem_activeAlerts.mp inLeft
  have rightOpen := mem_activeAlerts.mp inRight
  rw [titles left inLeft leftNames] at leftOpen
  rw [titles right inRight rightNames] at rightOpen
  exact Option.some.inj (leftOpen.symm.trans rightOpen)

theorem replaced_of_continues {before : AlertTable} (continues : Continues before after) :
    Replaced before after := by
  intro family name quiet loud wasOpen isOpen different
  obtain ⟨wasMember, wasKey⟩ := Table.openRow?_eq_some.mp wasOpen
  obtain ⟨isMember, isKey⟩ := Table.openRow?_eq_some.mp isOpen
  obtain ⟨later, laterMember, same, _⟩ := continues quiet (List.mem_filter.mp wasMember).1
  have laterKey : OpenRow.key later = (sysadmin, family.title name) := by
    rw [same]
    exact wasKey
  have laterRung : later.severity = quiet.severity := by rw [same]
  refine ⟨⟨later, laterMember, same, ?_⟩, ?_⟩
  · cases shut : later.resolvedAt with
    | some _ => rfl
    | none =>
      have opened : later ∈ after.openRows :=
        List.mem_filter.mpr ⟨laterMember, by simp [OpenRow.isOpen, shut]⟩
      have equal := Table.key_injective opened isMember (laterKey.trans isKey.symm)
      exact absurd (laterRung.symm.trans (congrArg Alert.severity equal)) different
  · by_contra older
    have listed : loud.id ∈ before.rows.map OpenRow.ident := by
      rw [before.numbered, List.mem_range]
      omega
    obtain ⟨old, oldMember, oldId⟩ := List.mem_map.mp listed
    obtain ⟨later, laterMember, same, shuts⟩ := continues old oldMember
    have laterId : OpenRow.ident later = OpenRow.ident loud := by
      rw [same]
      exact oldId
    have equal := Table.ident_injective laterMember (List.mem_filter.mp isMember).1 laterId
    subst equal
    have opened : later.resolvedAt.isNone = true := (List.mem_filter.mp isMember).2
    have oldOpen : old ∈ before.openRows := by
      refine List.mem_filter.mpr ⟨oldMember, ?_⟩
      cases shut : old.resolvedAt with
      | none => simp [OpenRow.isOpen, shut]
      | some _ =>
        have closed := shuts (by simp [shut])
        simp [Option.isNone_iff_eq_none.mp opened] at closed
    have oldKey : OpenRow.key old = (sysadmin, family.title name) := by
      rw [← isKey, same]
      rfl
    have sameRow := Table.key_injective oldOpen wasMember (oldKey.trans wasKey.symm)
    have sameRung : later.severity = old.severity := by rw [same]
    exact different (by rw [sameRung, sameRow])

theorem LadderStep.rung {family : LadderFamily} {kind : HealthFamily} {name : Text}
    {before later : Option Alert}
    (step : LadderStep family sysadmin (call.clock kind) call.gap name before later) :
    RungStep call kind before later := by
  cases step with
  | raised written rung =>
    obtain ⟨_, _, _, _, stamped⟩ := written.details
    exact .raised stamped rung
  | held => exact .held
  | escalated _ quietRung loudRung stood => exact .escalated quietRung loudRung stood

theorem FamilyChecked.rung (kind : HealthFamily) {family : LadderFamily} {entries : List AgentEntry}
    (checked : FamilyChecked family sysadmin (call.clock kind) call.gap entries table after)
    (name : Text) : RungStep call kind (table.openRow? (sysadmin, family.title name))
      (after.openRow? (sysadmin, family.title name)) := by
  by_cases listed : name ∈ entries.map AgentEntry.name
  · obtain ⟨entry, member, same⟩ := List.mem_map.mp listed
    have step := checked.present entry member
    rw [same] at step
    exact step.rung
  · rw [checked.recovered name listed]
    exact .cleared

/-- A call that raises takes its transaction with it. -/
def settleHealth (rendering : Rendering) (table : AlertTable) (call : HealthCall) : AlertTable :=
  (checkAgentHealth rendering table call).getD table

theorem callStep_refl (call : HealthCall) (table : AlertTable) : CallStep call table table where
  continues := Continues.refl table
  rung family name := by
    cases familyRow family name table with
    | none => exact .cleared
    | some row => exact .held
  replaced := replaced_of_continues (Continues.refl table)

theorem BothChecked.step {report : List AgentEntry} {between : AlertTable}
    (both : BothChecked rendering call report table between after) : CallStep call table after := by
  have continues := both.liveness.continues.trans both.failing.continues
  refine ⟨continues, ?_, replaced_of_continues continues⟩
  intro family name
  cases family with
  | stalled =>
    have step : RungStep call .stalled (familyRow .stalled name table)
        (between.openRow? (sysadmin, stallTitle name)) :=
      FamilyChecked.rung .stalled both.liveness name
    rw [← both.stall_kept name] at step
    exact step
  | failing =>
    have step : RungStep call .failing (between.openRow? (sysadmin, failureTitle name))
        (familyRow .failing name after) :=
      FamilyChecked.rung .failing both.failing name
    have kept : between.openRow? (sysadmin, failureTitle name) =
        table.openRow? (sysadmin, failureTitle name) :=
      both.liveness.others _ fun other same =>
        stallTitle_ne_failureTitle other name (congrArg Prod.snd same).symm
    rw [kept] at step
    exact step

theorem checkAgentHealth_step (rows : HealthRows table) (call : HealthCall) :
    (checkAgentHealth rendering table call = none ↔ call.raises = true) ∧
      HealthRows (settleHealth rendering table call) ∧
      CallStep call table (settleHealth rendering table call) := by
  cases raises : call.raises with
  | true =>
    have raised := @checkAgentHealth_raises rendering table call raises
    rw [settleHealth, raised, Option.getD_none]
    exact ⟨by simp, rows, callStep_refl call table⟩
  | false =>
    cases enabled : call.config.selfMonitor.enabled with
    | false =>
      have untouched : checkAgentHealth rendering table call = some table := by
        simp [checkAgentHealth, enabled]
      rw [settleHealth, untouched, Option.getD_some]
      exact ⟨by simp, rows, callStep_refl call table⟩
    | true =>
      obtain ⟨report, between, after, done, both⟩ :=
        @checkAgentHealth_checked rendering table call rows enabled raises
      rw [settleHealth, done, Option.getD_some]
      exact ⟨by simp, both.rows rows, both.step⟩

end Step

/-! ## Episodes -/

section Episode

variable (rendering : Rendering) (family : HealthFamily) (name : Text)

/-- The agent's open row after each of several calls, when there is one throughout. -/
def openAlong : AlertTable → List HealthCall → Option (List Alert)
  | _, [] => some []
  | table, call :: later => do
    let next := settleHealth rendering table call
    let row ← familyRow family name next
    let rows ← openAlong next later
    some (row :: rows)

/-- The rows after a first one: the same row throughout, or a warning and then, once
it has stood for the gap of the call that says so, one critical row. -/
def ClimbsOnce (row : Alert) (later : List HealthCall) (rows : List Alert) : Prop :=
  (∀ other ∈ rows, other = row) ∨
    row.severity = .warning ∧ ∃ quietRows loud loudRows call,
      rows = quietRows ++ loud :: loudRows ∧ later[quietRows.length]? = some call ∧
      (∀ other ∈ quietRows, other = row) ∧ (∀ other ∈ loudRows, other = loud) ∧
      loud.severity = .critical ∧
      reaches (hoursSince row.createdAt (call.clock family).now) call.gap = true

/-- An uninterrupted episode, from the call that opens it. -/
def Episode : List HealthCall → List Alert → Prop
  | call :: later, row :: rows =>
    row.severity = (if reaches 0 call.gap then .critical else .warning) ∧
      row.createdAt = (call.clock family).stamp ∧ ClimbsOnce family row later rows
  | calls, rows => calls = [] ∧ rows = []

variable {rendering family name}

theorem openAlong_cons {table : AlertTable} {call : HealthCall} {later : List HealthCall}
    {rows : List Alert} (healthy : HealthRows table)
    (along : openAlong rendering family name table (call :: later) = some rows) :
    ∃ next row rest, HealthRows next ∧ RungStep call family (familyRow family name table)
      (some row) ∧ familyRow family name next = some row ∧
      openAlong rendering family name next later = some rest ∧ rows = row :: rest := by
  obtain ⟨-, nextHealthy, step⟩ := @checkAgentHealth_step rendering table healthy call
  simp only [openAlong, Option.bind_eq_bind, Option.bind_eq_some_iff, Option.some.injEq] at along
  obtain ⟨row, standing, rest, onward, shape⟩ := along
  have rung := step.rung family name
  rw [standing] at rung
  exact ⟨_, row, rest, nextHealthy, rung, standing, onward, shape.symm⟩

theorem critical_stays {calls : List HealthCall} {table : AlertTable} {row : Alert}
    {rows : List Alert} (healthy : HealthRows table)
    (standing : familyRow family name table = some row) (loud : row.severity = .critical)
    (along : openAlong rendering family name table calls = some rows) :
    ∀ other ∈ rows, other = row := by
  induction calls generalizing table rows with
  | nil =>
    simp only [openAlong, Option.some.injEq] at along
    simp [← along]
  | cons call later ih =>
    obtain ⟨next, after, rest, nextHealthy, rung, nextStanding, onward, rfl⟩ :=
      openAlong_cons healthy along
    rw [standing] at rung
    cases rung with
    | held =>
      intro other member
      rcases List.mem_cons.mp member with rfl | inside
      · rfl
      · exact ih nextHealthy nextStanding onward other inside
    | escalated quietRung _ _ => simp [loud] at quietRung

theorem climbs_once {calls : List HealthCall} {table : AlertTable} {row : Alert} {rows : List Alert}
    (healthy : HealthRows table) (standing : familyRow family name table = some row)
    (along : openAlong rendering family name table calls = some rows) :
    ClimbsOnce family row calls rows := by
  induction calls generalizing table rows with
  | nil =>
    simp only [openAlong, Option.some.injEq] at along
    exact Or.inl (by simp [← along])
  | cons call later ih =>
    obtain ⟨next, after, rest, nextHealthy, rung, nextStanding, onward, rfl⟩ :=
      openAlong_cons healthy along
    rw [standing] at rung
    cases rung with
    | held =>
      rcases ih nextHealthy nextStanding onward with same | climbed
      · refine Or.inl ?_
        intro other member
        rcases List.mem_cons.mp member with rfl | inside
        · rfl
        · exact same other inside
      · obtain ⟨quiet, quietRows, loud, loudRows, louder, shape, at_, before, facts⟩ := climbed
        refine Or.inr ⟨quiet, row :: quietRows, loud, loudRows, louder, by simp [shape], ?_, ?_, facts⟩
        · simpa using at_
        · intro other member
          rcases List.mem_cons.mp member with rfl | inside
          · rfl
          · exact before other inside
    | escalated quietRung loudRung stood =>
      have stays := critical_stays nextHealthy nextStanding loudRung onward
      exact Or.inr ⟨quietRung, [], after, rest, call, rfl, rfl, by simp, stays, loudRung, stood⟩

theorem episode_of_vacant {calls : List HealthCall} {table : AlertTable} {rows : List Alert}
    (healthy : HealthRows table) (vacant : familyRow family name table = none)
    (along : openAlong rendering family name table calls = some rows) :
    Episode family calls rows := by
  cases calls with
  | nil =>
    simp only [openAlong, Option.some.injEq] at along
    exact ⟨rfl, along.symm⟩
  | cons call later =>
    obtain ⟨next, row, rest, nextHealthy, rung, standing, onward, rfl⟩ := openAlong_cons healthy along
    rw [vacant] at rung
    cases rung with
    | raised stamped opening => exact ⟨opening, stamped, climbs_once nextHealthy standing onward⟩

end Episode

theorem healthRows_of_closed {table : AlertTable} (closed : table.openRows = []) :
    HealthRows table where
  owned row active := by simp [activeAlerts, closed] at active
  audible row active := by simp [activeAlerts, closed] at active
  exclusive name := Or.inl (by simp [Table.openRow?, closed])

/-! ## A daemon that loses one of its agents -/

def sampleInstant : Int := 1790812800000000

def sampleRendering : Rendering where
  isoformat _ := text "2026-10-01T00:00:00+00:00"
  truncateAtWord value _ := value

def sampleAgents : AgentsConfig :=
  ⟨true, 300, true, 24, true, 60, true, 24, true, 6, true, 60⟩

/-- The log aggregator ran at `sampleInstant` and not in the hour since. -/
def stalledCall (escalateAfterHours : PyFloat) (valid : escalateAfterHours.isNegative = false) :
    HealthCall where
  config :=
    { agents := sampleAgents
      selfMonitor := ⟨true, .finite 3, 300, 10, escalateAfterHours, 2, valid, by decide⟩ }
  history := [⟨text "log_aggregator", .completed, sampleInstant, none, none, none⟩]
  interrupted := false
  reportedAt := sampleInstant + 3600000000
  livenessClock := ⟨sampleInstant + 3600000000, sampleInstant + 3600000000, sampleInstant + 3600000000⟩
  failuresClock := ⟨sampleInstant + 3600000000, sampleInstant + 3600000000, sampleInstant + 3600000000⟩

def openingSeverityOf (call : HealthCall) : Option Severity :=
  ((checkAgentHealth sampleRendering Table.empty call).bind
    (familyRow .stalled (text "log_aggregator"))).map Alert.severity

example : openingSeverityOf (stalledCall (.finite 24) (by decide)) = some .warning := by
  decide +kernel

/-- A gap of zero is critical from the first detection. -/
theorem zero_gap_opens_critical :
    openingSeverityOf (stalledCall (.finite 0) (by decide)) = some .critical ∧
      ¬ ∀ call severity, openingSeverityOf call = some severity → severity = .warning := by
  have opened : openingSeverityOf (stalledCall (.finite 0) (by decide)) = some .critical := by
    decide +kernel
  refine ⟨opened, ?_⟩
  intro always
  have impossible := always _ _ opened
  simp at impossible

theorem dayGap_valid : (PyFloat.finite 24).isNegative = false := by decide

/-- The same call where the file organiser scans every hundred million hours, and has run. -/
def distantScan : HealthCall :=
  let stalled := stalledCall (.finite 24) dayGap_valid
  { stalled with
    config := { stalled.config with
      agents := { sampleAgents with fileOrganiserScanIntervalHours := 100000000 } }
    history := ⟨text "file_organiser", .completed, sampleInstant, none, none, none⟩ ::
      stalled.history }

example : distantScan.raises = true := by decide +kernel

/-- From no open rows, whatever the calls read and whichever of them raise: no agent is
in both families, no family has two open rows for an agent, and every episode climbs at
most once. -/
theorem checkAgentHealth_ladders (rendering : Rendering) {start : AlertTable}
    (closed : start.openRows = []) (past : List HealthCall) : ∃ table,
      past.foldl (settleHealth rendering) start = table ∧ Exclusive table ∧ Single table ∧
      (∀ call, (checkAgentHealth rendering table call = none ↔ call.raises = true) ∧
        CallStep call table (settleHealth rendering table call)) ∧
      ∀ family name calls rows, familyRow family name table = none →
        openAlong rendering family name table calls = some rows → Episode family calls rows := by
  have run : ∀ table, HealthRows table → HealthRows (past.foldl (settleHealth rendering) table) := by
    induction past with
    | nil => exact fun table healthy => healthy
    | cons call later ih =>
      intro table healthy
      exact ih _ (@checkAgentHealth_step rendering table healthy call).2.1
  have healthy := run start (healthRows_of_closed closed)
  refine ⟨_, rfl, healthy.exclusive, healthy.single, ?_, ?_⟩
  · intro call
    obtain ⟨raised, -, step⟩ := @checkAgentHealth_step rendering _ healthy call
    exact ⟨raised, step⟩
  · intro family name calls rows vacant along
    exact episode_of_vacant healthy vacant along

theorem checkAgentHealth_ladders_sample : ∃ table,
    [stalledCall (.finite 24) (by decide), distantScan].foldl (settleHealth sampleRendering)
      Table.empty = table ∧ Exclusive table ∧ Single table ∧
      (∀ call, (checkAgentHealth sampleRendering table call = none ↔ call.raises = true) ∧
        CallStep call table (settleHealth sampleRendering table call)) ∧
      ∀ family name calls rows, familyRow family name table = none →
        openAlong sampleRendering family name table calls = some rows → Episode family calls rows :=
  checkAgentHealth_ladders sampleRendering rfl _

end SysadminAssistant.Monitor
