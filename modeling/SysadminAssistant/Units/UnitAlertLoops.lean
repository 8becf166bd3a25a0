import Mathlib.Data.List.Find
import SysadminAssistant.Library.LocalSteps
import SysadminAssistant.Python.DecimalText
import SysadminAssistant.Units.UnitAlerts

namespace SysadminAssistant.Units

open Python SysadminAssistant.Core Library

/-! The titles of the three families, and the patterns that find them. -/

theorem like_family {titlePrefix : Text} (plain : sqlWildcards.Literal titlePrefix) (title : Text) :
    like (titlePrefix ++ text "%") title = true ↔ titlePrefix <+: title :=
  Wildcards.like_prefix plain title

theorem armedTitlePrefix_plain : sqlWildcards.Literal armedTitlePrefix := by decide

theorem portTitlePrefix_plain : sqlWildcards.Literal portTitlePrefix := by decide

theorem armedTitle_opens (unit : Text) (scope : Scope) :
    armedTitlePrefix <+: armedTitle unit scope := by
  simp only [armedTitle, List.append_assoc]
  exact List.prefix_append _ _

theorem portAlertTitle_opens (port : Int) : portTitlePrefix <+: portAlertTitle port := by
  simp only [portAlertTitle, List.append_assoc]
  exact List.prefix_append _ _

theorem rolledUp_opens (scan : UnitScan) : alertTitle <+: scan.rolledUpDraft.title := by
  simp only [UnitScan.rolledUpDraft, List.append_assoc]
  exact List.prefix_append _ _

theorem prefix_unique {left right title : Text} (apart : left.head? ≠ right.head?)
    (someLeft : left ≠ []) (someRight : right ≠ []) (opens : left <+: title) :
    ¬ right <+: title := by
  intro otherwise
  obtain ⟨rest, shape⟩ := opens
  obtain ⟨other, same⟩ := otherwise
  rw [← shape] at same
  cases left with
  | nil => exact someLeft rfl
  | cons first left =>
    cases right with
    | nil => exact someRight rfl
    | cons second right => exact apart (congrArg some (List.cons.inj same).1.symm)

theorem armed_not_port {title : Text} (opens : armedTitlePrefix <+: title) :
    ¬ portTitlePrefix <+: title :=
  prefix_unique (by decide) (by decide) (by decide) opens

theorem armed_not_rolledUp {title : Text} (opens : armedTitlePrefix <+: title) :
    ¬ alertTitle <+: title :=
  prefix_unique (by decide) (by decide) (by decide) opens

theorem armedTitle_injective {unit other : Text} {scope otherScope : Scope}
    (same : armedTitle unit scope = armedTitle other otherScope) :
    unit = other ∧ scope = otherScope := by
  have ends : ∀ (unit : Text) (scope : Scope),
      (armedTitle unit scope).reverse.take 2 =
        (text " (" ++ scope.name ++ text ")").reverse.take 2 := by
    intro unit scope
    rw [armedTitle, List.append_assoc, List.append_assoc, ← List.append_assoc (text " ("),
      List.reverse_append, List.take_append_of_le_length]
    cases scope <;> decide
  have scopes : scope = otherScope := by
    have last := ends unit scope
    rw [same, ends] at last
    revert last
    cases scope <;> cases otherScope <;> decide
  subst scopes
  simp only [armedTitle] at same
  exact ⟨List.append_cancel_left (List.append_cancel_right (List.append_cancel_right
    (List.append_cancel_right same))), rfl⟩

theorem portAlertTitle_injective {port other : Int}
    (same : portAlertTitle port = portAlertTitle other) :
    port = other := intText_injective (List.append_cancel_left same)

/-! ## The roll-up's pattern -/

theorem alertTitle_lowered (lowering : Lowering) :
    lowering.text alertTitle = alertTitle.map asciiLower :=
  lowering.text_ascii (by decide)

theorem rolledUp_takes (lowering : Lowering) (title : Text) :
    patternTakes lowering alertTitle title = true ↔
    alertTitle.map asciiLower <:+: lowering.text title := by
  rw [← alertTitle_lowered lowering]
  refine patternTakes_literal ?_ title
  rw [alertTitle_lowered]
  decide

theorem rolledUp_takes_own (lowering : Lowering) (scan : UnitScan) :
    patternTakes lowering alertTitle scan.rolledUpDraft.title = true := by
  rw [rolledUp_takes, ← alertTitle_lowered lowering]
  exact ((rolledUp_opens scan).map lowering.lower).isInfix

theorem rolledUp_not_port (lowering : Lowering) (port : Int) :
    patternTakes lowering alertTitle (portAlertTitle port) = false := by
  have opening : (portTitlePrefix ++ text " ").all (fun c =>
      c.val < 128 && asciiLower c ≠ codePoint 'm') = true := by
    decide
  have chars : ∀ c ∈ portAlertTitle port, c.val < 128 ∧ asciiLower c ≠ codePoint 'm' := by
    intro c member
    rcases List.mem_append.mp member with opens | digits
    · simpa using List.all_eq_true.mp opening c opens
    · rcases mem_intText digits with sign | digit
      · rw [sign]
        decide
      · have lowered : asciiLower c = c := dif_neg (by omega)
        refine ⟨by omega, fun same => ?_⟩
        rw [lowered] at same
        rw [same] at digit
        revert digit
        decide
  have ascii : (portAlertTitle port).all (fun c => c.val < 128) = true := by
    simpa using fun c member => (chars c member).1
  rw [Bool.eq_false_iff, ne_eq, rolledUp_takes, lowering.text_ascii ascii]
  intro inside
  have found : codePoint 'm' ∈ (portAlertTitle port).map asciiLower := inside.subset (by decide)
  obtain ⟨c, member, same⟩ := List.mem_map.mp found
  exact (chars c member).2 same

/-! What the two loops of a sweep do to the table, one finding after another. -/

/-- An orphan whose row stands quieter than it is judged. -/
def Escalates (table : AlertTable) (finding : UnitFinding) : Prop :=
  ∃ row, table.openRow? (serviceDiscovery, finding.armedAlertTitle) = some row ∧
    row.severity.order < finding.armedAlertSeverity.order

theorem familyRows_find {titlePrefix title : Text} (plain : sqlWildcards.Literal titlePrefix)
    (opens : titlePrefix <+: title) (table : AlertTable) :
    ((familyRows table titlePrefix).find? fun row => row.title = title) = table.openRow?
      (serviceDiscovery, title) := by
  rw [familyRows, List.find?_filter]
  refine List.find?_congr fun row _ => ?_
  rw [Bool.eq_iff_iff]
  simp only [Bool.and_eq_true, decide_eq_true_eq, like_family plain]
  constructor
  · intro found
    exact Prod.ext found.1.1 found.2
  · intro key
    have title_ : row.title = title := congrArg Prod.snd key
    exact ⟨⟨congrArg Prod.fst key, title_ ▸ opens⟩, title_⟩

/-! ## Armed orphans -/

/-- What the loop has done once the orphans `done` are maintained. -/
structure Maintained (before : AlertTable) (done : List UnitFinding) (table : AlertTable) : Prop where
  others : ∀ owner title, (owner = serviceDiscovery → title ∉ done.map UnitFinding.armedAlertTitle) →
    table.openRow? (owner, title) = before.openRow? (owner, title)
  judged : ∀ finding ∈ done, ∃ row, table.openRow? (serviceDiscovery, finding.armedAlertTitle) =
    some row ∧ (before.openRow? (serviceDiscovery, finding.armedAlertTitle) = some row ∧
        finding.armedAlertSeverity.order ≤ row.severity.order ∨
      (before.openRow? (serviceDiscovery, finding.armedAlertTitle) = none ∨
        Escalates before finding) ∧ row.severity = finding.armedAlertSeverity)
  closed : ∀ row ∈ before.rows, row.resolvedAt.isSome = true → row ∈ table.rows
  elsewhere : ∀ row, (∀ unit scope, row.title ≠ armedTitle unit scope) →
    (row ∈ table.rows ↔ row ∈ before.rows)

section

variable {host : Host} {run : DiscoveryRun} {before table next : AlertTable}
  {done : List UnitFinding} {finding : UnitFinding}

theorem maintained_start : Maintained before [] before where
  others _ _ _ := rfl
  judged finding member := by cases member
  closed _ member _ := member
  elsewhere _ _ := Iff.rfl

theorem raiseRow_some {draft : Draft} {stamp : Int} (accepted : host.accepts draft = true)
    (vacant : table.openRow? (serviceDiscovery, draft.title) = none) :
    ∃ next, raiseRow host table stamp draft = some next ∧
      raiseAlert table serviceDiscovery stamp draft = some next := by
  obtain ⟨next, raised⟩ := raiseAlert_enabled stamp vacant
  exact ⟨next, by rw [raiseRow, if_pos accepted, raised], raised⟩

theorem mem_raiseAlert {draft : Draft} {stamp : Int} {row : Alert}
    (raised : raiseAlert table serviceDiscovery stamp draft = some next)
    (other : row.title ≠ draft.title) :
    row ∈ next.rows ↔ row ∈ table.rows := by
  rw [Table.insert?_rows raised, List.mem_append, List.mem_singleton]
  refine or_iff_left fun same => other ?_
  rw [same]
  rfl

theorem kept_raiseAlert {draft : Draft} {stamp : Int} {row : Alert}
    (raised : raiseAlert table serviceDiscovery stamp draft = some next) (member : row ∈ table.rows) :
    row ∈ next.rows := by
  rw [Table.insert?_rows raised]
  exact List.mem_append_left _ member

theorem Maintained.raise (maintained : Maintained before done table) {cleared : AlertTable}
    {stamp : Int} (new : finding.armedAlertTitle ∉ done.map UnitFinding.armedAlertTitle)
    (due : before.openRow? (serviceDiscovery, finding.armedAlertTitle) = none ∨
      Escalates before finding)
    (same : ∀ owner title, (owner = serviceDiscovery → title ≠ finding.armedAlertTitle) →
      cleared.openRow? (owner, title) = table.openRow? (owner, title))
    (closed : ∀ row ∈ table.rows, row.resolvedAt.isSome = true → row ∈ cleared.rows)
    (elsewhere : ∀ row, (∀ unit scope, row.title ≠ armedTitle unit scope) →
      (row ∈ cleared.rows ↔ row ∈ table.rows))
    (raised : raiseAlert cleared serviceDiscovery stamp finding.armedDraft = some next) :
    Maintained before (done ++ [finding]) next where
  others owner title other := by
    have notOwn : owner = serviceDiscovery → title ≠ finding.armedAlertTitle := by
      intro ours here
      exact other ours (List.mem_map.mpr ⟨finding, List.mem_append_right _ List.mem_cons_self,
        here.symm⟩)
    have different : (serviceDiscovery, finding.armedDraft.title) ≠ (owner, title) := by
      intro key
      obtain ⟨ours, here⟩ := Prod.mk.inj key
      exact notOwn ours.symm here.symm
    rw [openRow?_raiseAlert raised, if_neg different, same owner title notOwn]
    refine maintained.others owner title fun ours member => other ours ?_
    rw [List.map_append]
    exact List.mem_append_left _ member
  judged other member := by
    rcases List.mem_append.mp member with earlier | here
    · have different : other.armedAlertTitle ≠ finding.armedAlertTitle :=
        fun equal => new (equal ▸ List.mem_map_of_mem earlier)
      have apart : (serviceDiscovery, finding.armedDraft.title) ≠ (serviceDiscovery,
          other.armedAlertTitle) :=
        fun key => different (Prod.mk.inj key).2.symm
      rw [openRow?_raiseAlert raised, if_neg apart, same serviceDiscovery _ fun _ => different]
      exact maintained.judged other earlier
    · rw [List.mem_singleton.mp here]
      have own : (serviceDiscovery, finding.armedDraft.title) = (serviceDiscovery,
          finding.armedAlertTitle) := rfl
      rw [openRow?_raiseAlert raised, if_pos own]
      exact ⟨_, rfl, Or.inr ⟨due, rfl⟩⟩
  closed row member shut :=
    kept_raiseAlert raised (closed row (maintained.closed row member shut) shut)
  elsewhere row other := by
    rw [mem_raiseAlert raised (other finding.unit finding.scope), elsewhere row other]
    exact maintained.elsewhere row other

/-- The resolve of an escalation takes the row of its own title, and of no other that is open. -/
structure OwnRowOnly (host : Host) (before : AlertTable) (done : List UnitFinding)
    (finding : UnitFinding) : Prop where
  own : patternTakes host.lowering finding.armedAlertTitle finding.armedAlertTitle = true
  standing : ∀ row ∈ before.openRows, row.agent = serviceDiscovery →
    row.title ≠ finding.armedAlertTitle →
    patternTakes host.lowering finding.armedAlertTitle row.title = false
  earlier : ∀ other ∈ done,
    patternTakes host.lowering finding.armedAlertTitle other.armedAlertTitle = false

theorem maintainArmed_some (maintained : Maintained before done table)
    (new : finding.armedAlertTitle ∉ done.map UnitFinding.armedAlertTitle)
    (accepted : host.accepts finding.armedDraft = true)
    (alone : Escalates before finding → OwnRowOnly host before done finding) :
    ∃ next, maintainArmed host (familyRows before armedTitlePrefix) run table finding = some next ∧
      Maintained before (done ++ [finding]) next := by
  have opens : armedTitlePrefix <+: finding.armedAlertTitle :=
    armedTitle_opens finding.unit finding.scope
  have existing := familyRows_find armedTitlePrefix_plain opens before
  have now := maintained.others serviceDiscovery finding.armedAlertTitle fun _ => new
  rw [maintainArmed]
  simp only [existing]
  cases found : before.openRow? (serviceDiscovery, finding.armedAlertTitle) with
  | none =>
    obtain ⟨next, ran, raised⟩ := raiseRow_some accepted (now.trans found)
    refine ⟨next, ran, ?_⟩
    exact maintained.raise new (Or.inl found) (fun _ _ _ => rfl) (fun _ member _ => member)
      (fun _ _ => Iff.rfl) raised
  | some standing =>
    by_cases louder : standing.severity.order < finding.armedAlertSeverity.order
    · have escalates : Escalates before finding := ⟨standing, found, louder⟩
      have only := alone escalates
      have step : stepFor finding.armedAlertSeverity ((some standing).map Alert.severity) =
          .escalate := if_pos louder
      rw [step]
      -- no open row of another title is taken
      have untaken : ∀ title row, title ≠ finding.armedAlertTitle →
          table.openRow? (serviceDiscovery, title) = some row →
            patternTakes host.lowering finding.armedAlertTitle title = false := by
        intro title row different there
        by_cases known : title ∈ done.map UnitFinding.armedAlertTitle
        · obtain ⟨other, member, same⟩ := List.mem_map.mp known
          rw [← same]
          exact only.earlier other member
        · rw [maintained.others serviceDiscovery title fun _ => known] at there
          obtain ⟨inOpen, key⟩ := Table.openRow?_eq_some.mp there
          have named : row.title = title := congrArg Prod.snd key
          rw [← named]
          exact only.standing row inOpen (congrArg Prod.fst key) (named ▸ different)
      have same : ∀ owner title, (owner = serviceDiscovery → title ≠ finding.armedAlertTitle) →
          (resolveAlerts host.lowering table serviceDiscovery finding.armedAlertTitle
            (run.escalatedAt finding.armedAlertTitle)).openRow? (owner, title) =
              table.openRow? (owner, title) := by
        intro owner title other
        rw [resolveAlerts, openRow?_resolveWhere]
        split
        · rename_i taken
          rw [taken.1]
          cases there : table.openRow? (serviceDiscovery, title) with
          | none => rfl
          | some row =>
            rw [untaken title row (other taken.1) there] at taken
            cases taken.2
        · rfl
      have vacant : (resolveAlerts host.lowering table serviceDiscovery finding.armedAlertTitle
          (run.escalatedAt finding.armedAlertTitle)).openRow? (serviceDiscovery,
            finding.armedDraft.title) = none := by
        rw [resolveAlerts, openRow?_resolveWhere]
        exact if_pos ⟨rfl, only.own⟩
      obtain ⟨next, ran, raised⟩ := raiseRow_some accepted vacant
      refine ⟨next, ran, maintained.raise new (Or.inr escalates) same ?_ ?_ raised⟩
      · intro row member shut
        exact closed_resolveWhere member shut
      · intro row other
        apply mem_resolveWhere
        intro ours taken
        cases there : table.openRow? (row.agent, row.title) with
        | none => rfl
        | some open_ =>
          rw [ours] at there
          rw [untaken row.title open_ (other finding.unit finding.scope) there] at taken
          cases taken
    · have step : stepFor finding.armedAlertSeverity ((some standing).map Alert.severity) =
          .hold := if_neg louder
      rw [step]
      refine ⟨table, rfl, ?_, ?_, maintained.closed, maintained.elsewhere⟩
      · intro owner title other
        refine maintained.others owner title fun ours member => other ours ?_
        rw [List.map_append]
        exact List.mem_append_left _ member
      · intro other member
        rcases List.mem_append.mp member with earlier | here
        · exact maintained.judged other earlier
        · rw [List.mem_singleton.mp here]
          exact ⟨standing, now.trans found, Or.inl ⟨found, Nat.not_lt.mp louder⟩⟩

theorem foldlM_maintained {findings : List UnitFinding}
    (distinct : (findings.map UnitFinding.armedAlertTitle).Nodup)
    (accepted : ∀ finding ∈ findings, host.accepts finding.armedDraft = true)
    (alone : ∀ earlier finding later, findings = earlier ++ finding :: later →
    Escalates before finding →
      OwnRowOnly host before earlier finding) :
    ∃ last, findings.foldlM (maintainArmed host (familyRows before armedTitlePrefix) run) before =
      some last ∧ Maintained before findings last := by
  refine run_reaches maintained_start fun {early finding late table} shape maintained => ?_
  have new : finding.armedAlertTitle ∉ early.map UnitFinding.armedAlertTitle := by
    rw [shape, List.map_append, List.map_cons, List.nodup_append] at distinct
    intro member
    exact distinct.2.2 _ member _ List.mem_cons_self rfl
  have member : finding ∈ findings := shape ▸ List.mem_append_right early List.mem_cons_self
  exact maintainArmed_some maintained new (accepted finding member) (alone early finding late shape)

end

/-! ## Contested ports -/

/-- What the loop has done once the ports `done` are maintained. -/
structure PortsMaintained (before : AlertTable) (done : List Int) (table : AlertTable) : Prop where
  others : ∀ owner title, (owner = serviceDiscovery → title ∉ done.map portAlertTitle) →
    table.openRow? (owner, title) = before.openRow? (owner, title)
  judged : ∀ port ∈ done, ∃ row, table.openRow? (serviceDiscovery, portAlertTitle port) = some row
  closed : ∀ row ∈ before.rows, row.resolvedAt.isSome = true → row ∈ table.rows

section

variable {host : Host} {run : DiscoveryRun} {before table : AlertTable} {done : List Int} {port : Int}

theorem PortsMaintained.step {next : AlertTable} (maintained : PortsMaintained before done table)
    (same : ∀ owner title, (owner = serviceDiscovery → title ≠ portAlertTitle port) →
      next.openRow? (owner, title) = table.openRow? (owner, title))
    (stands : ∃ row, next.openRow? (serviceDiscovery, portAlertTitle port) = some row)
    (closed : ∀ row ∈ table.rows, row.resolvedAt.isSome = true → row ∈ next.rows) :
    PortsMaintained before (done ++ [port]) next where
  others owner title other := by
    have notOwn : owner = serviceDiscovery → title ≠ portAlertTitle port := by
      intro ours here
      exact other ours (List.mem_map.mpr ⟨port, List.mem_append_right _ List.mem_cons_self, here.symm⟩)
    rw [same owner title notOwn]
    refine maintained.others owner title fun ours member => other ours ?_
    rw [List.map_append]
    exact List.mem_append_left _ member
  judged other member := by
    by_cases here : portAlertTitle other = portAlertTitle port
    · rw [here]
      exact stands
    · rw [same serviceDiscovery _ fun _ => here]
      rcases List.mem_append.mp member with earlier | last
      · exact maintained.judged other earlier
      · exact absurd (congrArg portAlertTitle (List.mem_singleton.mp last)) here
  closed row member shut := closed row (maintained.closed row member shut) shut

theorem maintainPort_some (maintained : PortsMaintained before done table)
    (new : portAlertTitle port ∉ done.map portAlertTitle)
    (accepted : host.accepts (run.report.draft port) = true) :
    ∃ next, maintainPort host (familyRows before portTitlePrefix) run table port = some next ∧
      PortsMaintained before (done ++ [port]) next := by
  have standing := familyRows_find portTitlePrefix_plain (portAlertTitle_opens port) before
  have now := maintained.others serviceDiscovery (portAlertTitle port) fun _ => new
  rw [maintainPort]
  simp only [show (run.report.draft port).title = portAlertTitle port from rfl, standing]
  cases found : before.openRow? (serviceDiscovery, portAlertTitle port) with
  | none =>
    obtain ⟨next, ran, raised⟩ :=
      @raiseRow_some host table (run.report.draft port) run.stamp accepted (now.trans found)
    have own : (serviceDiscovery, (run.report.draft port).title) =
        (serviceDiscovery, portAlertTitle port) := rfl
    refine ⟨next, ran, maintained.step ?_ ?_ fun row member _ => kept_raiseAlert raised member⟩
    · intro owner title other
      have different : (serviceDiscovery, (run.report.draft port).title) ≠ (owner, title) :=
        fun key => other (Prod.mk.inj key).1.symm (Prod.mk.inj key).2.symm
      rw [openRow?_raiseAlert raised, if_neg different]
    · rw [openRow?_raiseAlert raised, if_pos own]
      exact ⟨_, rfl⟩
  | some row =>
    have held : table.openRow? (serviceDiscovery, portAlertTitle port) = some row := now.trans found
    cases refreshed : refreshAlert row (run.report.draft port) with
    | none =>
      exact ⟨table,
        by simp only [refreshed], maintained.step (fun _ _ _ => rfl) ⟨row, held⟩ fun _ member _ => member⟩
    | some updated =>
      have sameId : updated.id = row.id := by rw [refreshAlert_some refreshed]
      refine ⟨table.amend (rewriting updated),
        by simp only [refreshed, accepted, if_true], maintained.step ?_ ?_ ?_⟩
      · intro owner title other
        refine openRow?_rewriting_other held sameId fun key => ?_
        exact other (Prod.mk.inj key).1.symm (Prod.mk.inj key).2.symm
      · rw [openRow?_rewriting, held]
        exact ⟨_, rfl⟩
      · intro other member shut
        exact closed_rewriting held sameId member shut

theorem portsMaintained_start : PortsMaintained before [] before :=
  ⟨fun _ _ _ => rfl, fun _ member => (by cases member), fun _ member _ => member⟩

theorem foldlM_portsMaintained {ports : List Int} (distinct : ports.Nodup)
    (accepted : ∀ port ∈ ports, host.accepts (run.report.draft port) = true) :
    ∃ last, ports.foldlM (maintainPort host (familyRows before portTitlePrefix) run) before =
      some last ∧ PortsMaintained before ports last := by
  refine run_reaches portsMaintained_start fun {early port late table} shape maintained => ?_
  have new : portAlertTitle port ∉ early.map portAlertTitle := by
    intro listed
    obtain ⟨other, inside, same⟩ := List.mem_map.mp listed
    rw [portAlertTitle_injective same] at inside
    rw [shape] at distinct
    exact (List.nodup_append.mp distinct).2.2 _ inside _ List.mem_cons_self rfl
  have member : port ∈ ports := shape ▸ List.mem_append_right early List.mem_cons_self
  exact maintainPort_some maintained new (accepted port member)

theorem contested_nodup (report : PortReport) : report.contested.Nodup :=
  (List.perm_insertionSort _ _).nodup_iff.mpr (List.nodup_dedup _)

theorem mem_contested {report : PortReport} : port ∈ report.contested ↔
    ∃ finding ∈ report.collisions, finding.port = port := by
  rw [PortReport.contested, (List.perm_insertionSort _ _).mem_iff, List.mem_dedup, List.mem_map]

end

end SysadminAssistant.Units
