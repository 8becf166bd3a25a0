import SysadminAssistant.Units.UnitAlertLoops

namespace SysadminAssistant.Units

open Python SysadminAssistant.Core Library

/-! Whole sweeps: after each, the rows of the three families are what the sweep judged. -/

/-- The rows of the families after a run, against its sweep and its port report. -/
structure Tracked (before after : AlertTable) (scan : UnitScan) (report : PortReport) : Prop where
  single : ∀ left ∈ after.openRows, ∀ right ∈ after.openRows, left.agent = serviceDiscovery →
    right.agent = serviceDiscovery → left.title = right.title → left = right
  armed : ∀ (unit : Text) (scope : Scope),
    (∃ row ∈ after.openRows, row.agent = serviceDiscovery ∧ row.title = armedTitle unit scope) ↔
      ∃ finding ∈ scan.armed, finding.unit = unit ∧ finding.scope = scope
  loud : ∀ finding ∈ scan.armed, finding.restartBounded = false → ∀ row ∈ after.openRows,
    row.agent = serviceDiscovery → row.title = finding.armedAlertTitle → row.severity = .critical
  /-- Whatever becomes of the others, the row of an orphan that is no louder than it stays. -/
  held : ∀ finding ∈ scan.armed, ∀ row ∈ before.openRows, row.agent = serviceDiscovery →
    row.title = finding.armedAlertTitle → finding.armedAlertSeverity.order ≤ row.severity.order →
      row ∈ after.openRows
  closed : ∀ row ∈ before.rows, row.resolvedAt.isSome = true → row ∈ after.rows
  ports : report.ok = true → ∀ port : Int,
    (∃ row ∈ after.openRows, row.agent = serviceDiscovery ∧ row.title = portAlertTitle port) ↔
      ∃ finding ∈ report.collisions, finding.port = port
  portsKept : report.ok = false → ∀ (port : Int) (row : Alert), row.title = portAlertTitle port →
    (row ∈ after.rows ↔ row ∈ before.rows)

/-- The sweep returns and its rows are taken; the title of an orphan that escalates, read as a
pattern, takes its own row and no other that is open by then; and no armed orphan is named as the
roll-up is. -/
structure Unambiguous (host : Host) (table : AlertTable) (run : DiscoveryRun) (scan : UnitScan) :
    Prop where
  scanned : run.scan host = some scan
  stored : run.auditStored = true
  armedAccepted : ∀ finding ∈ scan.armed, host.accepts finding.armedDraft = true
  portsAccepted : ∀ port ∈ run.report.contested, host.accepts (run.report.draft port) = true
  rolledUpAccepted : host.accepts scan.rolledUpDraft = true
  escalations : ∀ earlier finding later, scan.armed = earlier ++ finding :: later →
    Escalates table finding → OwnRowOnly host table earlier finding
  rolledUp : ∀ finding ∈ scan.armed,
    patternTakes host.lowering alertTitle finding.armedAlertTitle = false

section

variable {host : Host} {run : DiscoveryRun} {scan : UnitScan} {before table after : AlertTable}

theorem armed_nodup (scanned : run.scan host = some scan) :
    (scan.armed.map UnitFinding.armedAlertTitle).Nodup := by
  rw [DiscoveryRun.scan, scanUnits] at scanned
  obtain ⟨findings, classified, scanned⟩ := Option.bind_eq_some_iff.mp scanned
  obtain ⟨risks, _, scanned⟩ := Option.bind_eq_some_iff.mp scanned
  cases scanned
  have places := (classifyUnits_classified classified).places_nodup run.distinct
  have armed : ((findings.filter UnitFinding.armed).map UnitFinding.place).Nodup :=
    places.sublist (List.filter_sublist.map _)
  have titles : (findings.filter UnitFinding.armed).map UnitFinding.armedAlertTitle =
      ((findings.filter UnitFinding.armed).map UnitFinding.place).map fun place =>
        armedTitle place.1 place.2 := by
    rw [List.map_map]
    rfl
  rw [UnitScan.armed, titles]
  apply armed.map
  intro left right same
  obtain ⟨units, scopes⟩ := armedTitle_injective same
  exact Prod.ext units scopes

/-! ## One family after another -/

theorem openRow?_resolveUnjudged {titlePrefix : Text} (plain : sqlWildcards.Literal titlePrefix)
    (judged : List Text) (at_ : Int) (title : Text) :
    (resolveUnjudged table titlePrefix judged at_).openRow? (serviceDiscovery, title) =
      if titlePrefix <+: title ∧ title ∉ judged then none else table.openRow?
        (serviceDiscovery, title) := by
  rw [resolveUnjudged, openRow?_resolveWhere]
  simp only [Bool.and_eq_true, like_family plain, decide_eq_true_eq, true_and]

theorem mem_resolveUnjudged {titlePrefix : Text} (plain : sqlWildcards.Literal titlePrefix)
    {judged : List Text} {at_ : Int} {row : Alert} (other : ¬ titlePrefix <+: row.title) :
    row ∈ (resolveUnjudged table titlePrefix judged at_).rows ↔ row ∈ table.rows := by
  apply mem_resolveWhere
  intro _ taken
  rw [Bool.and_eq_true, like_family plain] at taken
  exact absurd taken.1 other

/-- The armed orphans of a sweep have their rows, and no other unit has. -/
structure ArmedMaintained (before : AlertTable) (scan : UnitScan) (table : AlertTable) : Prop where
  judged : ∀ finding ∈ scan.armed, ∃ row,
    table.openRow? (serviceDiscovery, finding.armedAlertTitle) = some row ∧
      (before.openRow? (serviceDiscovery, finding.armedAlertTitle) = some row ∧
          finding.armedAlertSeverity.order ≤ row.severity.order ∨
        (before.openRow? (serviceDiscovery, finding.armedAlertTitle) = none ∨
          Escalates before finding) ∧ row.severity = finding.armedAlertSeverity)
  gone : ∀ title, armedTitlePrefix <+: title → title ∉ scan.armed.map UnitFinding.armedAlertTitle →
    table.openRow? (serviceDiscovery, title) = none
  closed : ∀ row ∈ before.rows, row.resolvedAt.isSome = true → row ∈ table.rows
  elsewhere : ∀ row, ¬ armedTitlePrefix <+: row.title → (row ∈ table.rows ↔ row ∈ before.rows)

theorem maintainArmedAlerts_some (clear : Unambiguous host before run scan) : ∃ table,
    maintainArmedAlerts host run before scan = some table ∧ ArmedMaintained before scan table := by
  obtain ⟨last, ran, maintained⟩ :=
    @foldlM_maintained host run before scan.armed (armed_nodup clear.scanned)
    clear.armedAccepted clear.escalations
  refine ⟨_, Option.map_eq_some_iff.mpr ⟨last, ran, rfl⟩, ?_, ?_, ?_, ?_⟩
  · intro finding member
    have judged : finding.armedAlertTitle ∈ scan.armed.map UnitFinding.armedAlertTitle :=
      List.mem_map_of_mem member
    rw [openRow?_resolveUnjudged armedTitlePrefix_plain, if_neg fun both => both.2 judged]
    exact maintained.judged finding member
  · intro title opens absent
    rw [openRow?_resolveUnjudged armedTitlePrefix_plain, if_pos ⟨opens, absent⟩]
  · intro row member shut
    exact closed_resolveWhere (maintained.closed row member shut) shut
  · intro row other
    rw [mem_resolveUnjudged armedTitlePrefix_plain other]
    exact maintained.elsewhere row fun unit scope same => other (same ▸ armedTitle_opens unit scope)

/-- The ports of a report that was made have their rows, and no other port has. -/
structure PortsSettled (before : AlertTable) (report : PortReport) (table : AlertTable) : Prop where
  judged : report.ok = true → ∀ port, (table.openRow? (serviceDiscovery, portAlertTitle port)).isSome ↔
    port ∈ report.contested
  others : ∀ title, ¬ portTitlePrefix <+: title →
    table.openRow? (serviceDiscovery, title) = before.openRow? (serviceDiscovery, title)
  closed : ∀ row ∈ before.rows, row.resolvedAt.isSome = true → row ∈ table.rows
  failed : report.ok = false → table = before

theorem maintainPortAlerts_some
    (accepted : ∀ port ∈ run.report.contested, host.accepts (run.report.draft port) = true) :
    ∃ table, maintainPortAlerts host run before = some table ∧
      PortsSettled before run.report table := by
  rw [maintainPortAlerts]
  cases made : run.report.ok with
  | false =>
    refine ⟨before, rfl, ?_, fun _ _ => rfl, fun _ member _ => member, fun _ => rfl⟩
    intro ok
    rw [made] at ok
    cases ok
  | true =>
    obtain ⟨last, ran, maintained⟩ := @foldlM_portsMaintained host run before run.report.contested
      (contested_nodup run.report) accepted
    refine ⟨_, Option.map_eq_some_iff.mpr ⟨last, ran, rfl⟩, ?_, ?_, ?_, ?_⟩
    · intro _ port
      have listed : portAlertTitle port ∈ run.report.contested.map portAlertTitle ↔
          port ∈ run.report.contested := by
        rw [List.mem_map]
        constructor
        · intro found
          obtain ⟨other, member, same⟩ := found
          exact portAlertTitle_injective same ▸ member
        · intro member
          exact ⟨port, member, rfl⟩
      rw [openRow?_resolveUnjudged portTitlePrefix_plain]
      split
      · rename_i absent
        have calm : port ∉ run.report.contested := fun member => absent.2 (listed.mpr member)
        simp [calm]
      · rename_i present
        have member : port ∈ run.report.contested := by
          by_contra absent
          exact present ⟨portAlertTitle_opens port, fun named => absent (listed.mp named)⟩
        obtain ⟨row, stands⟩ := maintained.judged port member
        simp [stands, member]
    · intro title other
      rw [openRow?_resolveUnjudged portTitlePrefix_plain, if_neg fun both => other both.1]
      refine maintained.others serviceDiscovery title fun _ member => other ?_
      obtain ⟨port, _, same⟩ := List.mem_map.mp member
      exact same ▸ portAlertTitle_opens port
    · intro row member shut
      exact closed_resolveWhere (maintained.closed row member shut) shut
    · intro failed
      rw [made] at failed
      cases failed

/-- The roll-up touches no row that its own title, as a pattern, does not take, and opens none
under another. -/
structure RolledUp (lowering : Lowering) (before table : AlertTable) : Prop where
  opensNone : ∀ title, ¬ alertTitle <+: title → before.openRow? (serviceDiscovery, title) = none →
    table.openRow? (serviceDiscovery, title) = none
  others : ∀ title, patternTakes lowering alertTitle title = false →
    table.openRow? (serviceDiscovery, title) = before.openRow? (serviceDiscovery, title)
  closed : ∀ row ∈ before.rows, row.resolvedAt.isSome = true → row ∈ table.rows
  elsewhere : ∀ row, patternTakes lowering alertTitle row.title = false →
    (row ∈ table.rows ↔ row ∈ before.rows)

theorem rolledUp_resolved (lowering : Lowering) (at_ : Int) :
    RolledUp lowering before (resolveAlerts lowering before serviceDiscovery alertTitle at_) where
  opensNone title _ absent := by
    rw [resolveAlerts, openRow?_resolveWhere, absent, ite_self]
  others title other := by
    rw [resolveAlerts, openRow?_resolveWhere, if_neg]
    simp [other]
  closed row member shut := closed_resolveWhere member shut
  elsewhere row other := by
    apply mem_resolveWhere
    intro _ taken
    rw [other] at taken
    cases taken

theorem RolledUp.raise {cleared : AlertTable} {stamp : Int}
    (rolled : RolledUp host.lowering before cleared)
    (raised : raiseAlert cleared serviceDiscovery stamp scan.rolledUpDraft = some after) :
    RolledUp host.lowering before after := by
  have apart : ∀ title, patternTakes host.lowering alertTitle title = false →
      title ≠ scan.rolledUpDraft.title := by
    intro title other same
    rw [same, rolledUp_takes_own] at other
    cases other
  refine ⟨?_, ?_, ?_, ?_⟩
  · intro title other absent
    have different : (serviceDiscovery, scan.rolledUpDraft.title) ≠ (serviceDiscovery, title) :=
      fun key => other ((Prod.mk.inj key).2 ▸ rolledUp_opens scan)
    rw [openRow?_raiseAlert raised, if_neg different]
    exact rolled.opensNone title other absent
  · intro title other
    have different : (serviceDiscovery, scan.rolledUpDraft.title) ≠ (serviceDiscovery, title) :=
      fun key => apart title other (Prod.mk.inj key).2.symm
    rw [openRow?_raiseAlert raised, if_neg different]
    exact rolled.others title other
  · intro row member shut
    exact kept_raiseAlert raised (rolled.closed row member shut)
  · intro row other
    rw [mem_raiseAlert raised (apart row.title other)]
    exact rolled.elsewhere row other

theorem rolledUp_start (lowering : Lowering) : RolledUp lowering before before :=
  ⟨fun _ _ absent => absent, fun _ _ => rfl, fun _ member _ => member, fun _ _ => Iff.rfl⟩

theorem maintainAlert_some (accepted : host.accepts scan.rolledUpDraft = true) : ∃ after,
    maintainAlert host run before scan = some after ∧ RolledUp host.lowering before after := by
  have resolved := @rolledUp_resolved before host.lowering run.rolledUpAt
  rw [maintainAlert]
  by_cases quiet : run.alertThreshold ≤ 0 ∨ (scan.actionable : Int) < run.alertThreshold
  · exact ⟨_, if_pos quiet, resolved⟩
  · simp only [if_neg quiet]
    split
    · rename_i nobody
      have vacant : before.openRow? (serviceDiscovery, scan.rolledUpDraft.title) = none := by
        rw [Table.openRow?_eq_none]
        intro row member key
        have inside : row ∈ rolledUpRows host before := by
          refine List.mem_filter.mpr ⟨member, ?_⟩
          rw [show row.title = scan.rolledUpDraft.title from congrArg Prod.snd key,
            rolledUp_takes_own, Bool.and_true]
          exact decide_eq_true (congrArg Prod.fst key)
        have short := List.getElem?_eq_none_iff.mp nobody
        exact absurd (Nat.mod_lt run.picked (List.length_pos_of_mem inside)) (Nat.not_lt.mpr short)
      obtain ⟨after, ran, raised⟩ :=
        @raiseRow_some host before scan.rolledUpDraft run.stamp accepted vacant
      exact ⟨after, ran, (rolledUp_start host.lowering).raise raised⟩
    · split
      · exact ⟨before, rfl, rolledUp_start host.lowering⟩
      · have vacant : (resolveAlerts host.lowering before serviceDiscovery alertTitle
            run.rolledUpAt).openRow? (serviceDiscovery, scan.rolledUpDraft.title) = none := by
          rw [resolveAlerts, openRow?_resolveWhere]
          exact if_pos ⟨rfl, rolledUp_takes_own _ _⟩
        obtain ⟨after, ran, raised⟩ :=
          @raiseRow_some host _ scan.rolledUpDraft run.stamp accepted vacant
        exact ⟨after, ran, resolved.raise raised⟩

theorem executeSweep_tracked (clear : Unambiguous host before run scan) :
    ∃ after, executeSweep host before run = some after ∧ Tracked before after scan run.report := by
  obtain ⟨afterArmed, ranArmed, armed⟩ := maintainArmedAlerts_some clear
  obtain ⟨afterPorts, ranPorts, ports⟩ :=
    @maintainPortAlerts_some host run afterArmed clear.portsAccepted
  obtain ⟨after, ranRollUp, rolled⟩ :=
    @maintainAlert_some host run scan afterPorts clear.rolledUpAccepted
  have ran : executeSweep host before run = some after := by
    rw [executeSweep, clear.scanned]
    simp only [Option.bind_eq_bind, Option.bind_some, clear.stored, if_true, ranArmed,
      ranPorts, ranRollUp]
  -- a title of the armed family that was judged passes through the ports and the roll-up
  have judged : ∀ finding ∈ scan.armed, after.openRow? (serviceDiscovery, finding.armedAlertTitle) =
      afterArmed.openRow? (serviceDiscovery, finding.armedAlertTitle) := by
    intro finding member
    rw [rolled.others _ (clear.rolledUp finding member)]
    exact ports.others _ (armed_not_port (armedTitle_opens finding.unit finding.scope))
  have portTitle : ∀ port : Int, after.openRow? (serviceDiscovery, portAlertTitle port) =
      afterPorts.openRow? (serviceDiscovery, portAlertTitle port) :=
    fun port => rolled.others _ (rolledUp_not_port host.lowering port)
  have opened : ∀ {table : AlertTable} {row : Alert} {title : Text}, row ∈ table.openRows →
      row.agent = serviceDiscovery → row.title = title →
        table.openRow? (serviceDiscovery, title) = some row :=
    fun inOpen agent title => Table.openRow?_eq_some.mpr ⟨inOpen, Prod.ext agent title⟩
  refine ⟨after, ran, ?_, ?_, ?_, ?_, ?_, ?_, ?_⟩
  · intro left inLeft right inRight leftAgent rightAgent same
    exact Table.key_injective inLeft inRight (Prod.ext (leftAgent.trans rightAgent.symm) same)
  · intro unit scope
    have opens := armedTitle_opens unit scope
    constructor
    · intro found
      obtain ⟨row, inOpen, agent, title⟩ := found
      by_contra nobody
      have absent : armedTitle unit scope ∉ scan.armed.map UnitFinding.armedAlertTitle := by
        intro listed
        obtain ⟨finding, member, same⟩ := List.mem_map.mp listed
        exact nobody ⟨finding, member, armedTitle_injective same⟩
      have gone := armed.gone _ opens absent
      rw [← ports.others _ (armed_not_port opens)] at gone
      have closed := rolled.opensNone _ (armed_not_rolledUp opens) gone
      rw [opened inOpen agent title] at closed
      cases closed
    · intro found
      obtain ⟨finding, member, itsUnit, itsScope⟩ := found
      obtain ⟨row, stands, _⟩ := armed.judged finding member
      rw [← judged finding member] at stands
      obtain ⟨inOpen, key⟩ := Table.openRow?_eq_some.mp stands
      refine ⟨row, inOpen, congrArg Prod.fst key, ?_⟩
      rw [show row.title = finding.armedAlertTitle from congrArg Prod.snd key,
        UnitFinding.armedAlertTitle, itsUnit, itsScope]
  · intro finding member unbounded row inOpen agent title
    have stands := opened inOpen agent title
    rw [judged finding member] at stands
    obtain ⟨there, found, rung⟩ := armed.judged finding member
    have critical : finding.armedAlertSeverity = .critical := if_neg (by simp [unbounded])
    cases stands.symm.trans found
    rcases rung with held | raised
    · rw [critical] at held
      cases rung : row.severity <;> simp_all [Severity.order]
    · exact raised.2.trans critical
  · intro finding member row inOpen agent title quiet
    have stood := opened inOpen agent title
    obtain ⟨there, found, rung⟩ := armed.judged finding member
    have same : there = row := by
      rcases rung with held | raised
      · exact Option.some.inj (held.1.symm.trans stood)
      · rcases raised.1 with absent | louder
        · rw [stood] at absent
          cases absent
        · obtain ⟨other, standing, louder⟩ := louder
          cases stood.symm.trans standing
          omega
    rw [← judged finding member, same] at found
    exact (Table.openRow?_eq_some.mp found).1
  · intro row member shut
    exact rolled.closed row (ports.closed row (armed.closed row member shut) shut) shut
  · intro made port
    rw [← mem_contested, ← ports.judged made port, ← portTitle port, Option.isSome_iff_exists]
    constructor
    · intro found
      obtain ⟨row, inOpen, agent, title⟩ := found
      exact ⟨row, opened inOpen agent title⟩
    · intro found
      obtain ⟨row, found⟩ := found
      obtain ⟨inOpen, key⟩ := Table.openRow?_eq_some.mp found
      exact ⟨row, inOpen, congrArg Prod.fst key, congrArg Prod.snd key⟩
  · intro failed port row title
    rw [rolled.elsewhere row (title ▸ rolledUp_not_port host.lowering port), ports.failed failed]
    refine armed.elsewhere row fun opens => ?_
    rw [title] at opens
    exact armed_not_port opens (portAlertTitle_opens port)

end

/-! ## Histories -/

/-- What others do to the table, and then a run. -/
structure SweepTurn where
  elsewhere : AlertTable → AlertTable
  run : DiscoveryRun

/-- The table after a turn: a run that raises is rolled back. -/
def sweptTable (host : Host) (table : AlertTable) (turn : SweepTurn) : AlertTable :=
  (executeSweep host (turn.elsewhere table) turn.run).getD (turn.elsewhere table)

/-- Something of every run of a history, and of the table it finds. -/
def EveryRun (host : Host) (holds : AlertTable → DiscoveryRun → Prop) :
    AlertTable → List SweepTurn → Prop
  | _, [] => True
  | table, turn :: rest =>
    holds (turn.elsewhere table) turn.run ∧ EveryRun host holds (sweptTable host table turn) rest

/-- The run returns, and leaves the rows that its sweep and its report judged. -/
def RunTracked (host : Host) (found : AlertTable) (run : DiscoveryRun) : Prop :=
  ∃ scan after, run.scan host = some scan ∧ executeSweep host found run = some after ∧
    Tracked found after scan run.report

def RunUnambiguous (host : Host) (found : AlertTable) (run : DiscoveryRun) : Prop :=
  ∃ scan, Unambiguous host found run scan

/-- In a history whose patterns never take more than they should, every run leaves what it judged. -/
theorem sweeps_tracked (host : Host) (table : AlertTable) (turns : List SweepTurn)
    (clear : EveryRun host (RunUnambiguous host) table turns) :
    EveryRun host (RunTracked host) table turns := by
  induction turns generalizing table with
  | nil => trivial
  | cons turn rest ih =>
    obtain ⟨⟨scan, now⟩, later⟩ := clear
    obtain ⟨after, ran, tracked⟩ := executeSweep_tracked now
    exact ⟨⟨scan, after, now.scanned, ran, tracked⟩, ih _ later⟩

/-! A unit whose directory is gone: first it fails once, then it is restarted for ever. -/

def sweepHost : Host := ⟨sweepTools, .c, fun _ => true⟩

def deadUnit (name : String) (restarts : Bool) : UnitFile where
  name := text name
  scope := .user
  path := text "/u/" ++ text name
  workingDirectory := some (text "/gone")
  enabled := true
  restart := if restarts then some (text "always") else none
  restartSec := some (.finite 10)

def sweepOf (units : List UnitFile) (distinct : (units.map UnitFile.place).Nodup) : SweepTurn where
  elsewhere := id
  run := {
    units, distinct
    excluded := []
    projects := []
    pathExists := fun _ => false
    wired := []
    report := ⟨[], some (text "ss not found")⟩
    alertThreshold := 5
    auditStored := true
    stamp := 0
    escalatedAt := fun _ => 0
    disarmedAt := 0
    uncontestedAt := 0
    rolledUpAt := 0
    picked := 0 }

def restartsLater : List SweepTurn :=
  [sweepOf [deadUnit "old.service" false] (by decide),
    sweepOf [deadUnit "old.service" true] (by decide)]

theorem one_unambiguous {host : Host} {found : AlertTable} {run : DiscoveryRun}
    (accepts : host.accepts = fun _ => true) (stored : run.auditStored = true)
    (alone : ((run.scan host).any fun scan => decide (scan.armed.length = 1) &&
      scan.armed.all fun finding =>
      patternTakes host.lowering finding.armedAlertTitle finding.armedAlertTitle &&
        !patternTakes host.lowering alertTitle finding.armedAlertTitle && found.openRows.all fun row =>
          decide (row.title = finding.armedAlertTitle) ||
            !patternTakes host.lowering finding.armedAlertTitle row.title) = true) :
    RunUnambiguous host found run := by
  obtain ⟨scan, scanned, checks⟩ := (Option.any_eq_true _ _).mp alone
  simp only [Bool.and_eq_true, decide_eq_true_eq, List.all_eq_true, Bool.not_eq_true',
    Bool.or_eq_true] at checks
  obtain ⟨single, checks⟩ := checks
  have taken : ∀ draft, host.accepts draft = true := fun draft => by rw [accepts]
  refine ⟨scan, scanned, stored, fun _ _ => taken _, fun _ _ => taken _, taken _, ?_, ?_⟩
  · intro earlier finding later shape _
    have first : earlier = [] := by
      rw [shape, List.length_append, List.length_cons] at single
      exact List.length_eq_zero_iff.mp (by omega)
    have member : finding ∈ scan.armed := by
      rw [shape]
      exact List.mem_append_right _ List.mem_cons_self
    obtain ⟨⟨own, _⟩, standing⟩ := checks finding member
    refine ⟨own, ?_, ?_⟩
    · intro row inOpen _ different
      exact (standing row inOpen).resolve_left different
    · intro other inside
      rw [first] at inside
      cases inside
  · intro finding member
    exact (checks finding member).1.2

theorem restartsLater_tracked :
    EveryRun sweepHost (RunTracked sweepHost) Table.empty restartsLater := by
  apply sweeps_tracked
  exact ⟨one_unambiguous rfl rfl (by decide +kernel), one_unambiguous rfl rfl (by decide +kernel),
    trivial⟩

def bothOnce : SweepTurn :=
  sweepOf [deadUnit "a_b.service" false, deadUnit "a-b.service" false] (by decide)

def oneForEver : SweepTurn :=
  sweepOf [deadUnit "a_b.service" true, deadUnit "a-b.service" false] (by decide)

/-- An underscore stands for any symbol: the second run escalates the row of `a_b.service`, and
resolves that of `a-b.service`, which is armed still. -/
theorem underscored_untracked :
    ¬ EveryRun sweepHost (RunTracked sweepHost) Table.empty [bothOnce, oneForEver] := by
  intro tracked
  obtain ⟨_, ⟨scan, after, scanned, ran, tracked⟩, _⟩ := tracked
  have lost : ((oneForEver.run.scan sweepHost).bind fun scan =>
      (executeSweep sweepHost (sweptTable sweepHost Table.empty bothOnce) oneForEver.run).map
        fun after =>
        (scan.armed.any fun finding => decide (finding.unit = text "a-b.service" ∧
          finding.scope = .user),
          (after.openRow? (serviceDiscovery, armedTitle (text "a-b.service") .user)).isSome)) =
      some (true, false) := by
    decide +kernel
  have found : executeSweep sweepHost (sweptTable sweepHost Table.empty bothOnce) oneForEver.run =
      some after := ran
  rw [scanned, found] at lost
  obtain ⟨judged, closed⟩ := Prod.mk.inj (Option.some.inj lost)
  obtain ⟨finding, member, itself⟩ := List.any_eq_true.mp judged
  obtain ⟨row, inOpen, agent, title⟩ :=
    (tracked.armed _ _).mpr ⟨finding, member, of_decide_eq_true itself⟩
  have stands : after.openRow? (serviceDiscovery, armedTitle (text "a-b.service") .user) = some row :=
    Table.openRow?_eq_some.mpr ⟨inOpen, Prod.ext agent title⟩
  rw [stands] at closed
  cases closed

end SysadminAssistant.Units
