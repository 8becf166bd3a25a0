import SysadminAssistant.Library.RaisingLoops
import SysadminAssistant.Units.UnitScan

namespace SysadminAssistant.Units

open Python Library

/-! The buckets of a sweep and their sums. -/

def UnitFile.place (unit : UnitFile) : Text × Scope := (unit.name, unit.scope)

def UnitFinding.place (finding : UnitFinding) : Text × Scope := (finding.unit, finding.scope)

def foldedTimer (units : List UnitFile) (unit : UnitFile) : Bool :=
  unit.key ∈ (foldTimers units).folded

def monitored (units : List UnitFile) (wired : List Text) (unit : UnitFile) : Bool :=
  decide (unit.key ∉ (foldTimers units).folded) && isWired unit wired (foldTimers units).timerFor

/-- Is there a finding of the unit, of such a category? -/
def listedAs (findings : List UnitFinding) (unit : UnitFile) (category : Category → Bool) : Bool :=
  findings.any fun finding => finding.place = unit.place && category finding.category

def ExactlyOne (first second third : Bool) : Prop := [first, second, third].count true = 1

structure Audited (tools : CaseTools) (units : List UnitFile) (wired : List Text)
    (scan : UnitScan) : Prop where
  bucket : ∀ unit ∈ units,
    ExactlyOne (foldedTimer units unit) (monitored units wired unit)
      (listedAs scan.findings unit fun _ => true)
  folded : scan.timersFolded = units.countP (foldedTimer units)
  monitored : scan.monitoredCount = units.countP (Units.monitored units wired)
  listed : (scan.findings.map UnitFinding.place).Perm
    ((units.filter fun unit => listedAs scan.findings unit fun _ => true).map UnitFile.place)
  scanned : scan.unitsScanned = units.length ∧
    scan.unitsScanned = scan.monitoredCount + scan.timersFolded + scan.findings.length
  categories : (categoryOrder.map scan.count).sum = scan.findings.length
  risks : (scan.restartFindings.map UnitFinding.place).Perm
    ((units.filter fun unit => unit.restartBounded tools = some false &&
      !listedAs scan.findings unit fun category => category = .orphaned).map UnitFile.place)
  beside : (∀ risk ∈ scan.restartFindings, risk.category = .restartUnbounded) ∧
    scan.count .restartUnbounded = 0

theorem wiredKey_injective {unit other : Text} {scope otherScope : Scope}
    (same : wiredKey unit scope = wiredKey other otherScope) : unit = other ∧ scope = otherScope := by
  have heads : ∀ (name : Text) (scope : Scope), (wiredKey name scope).head? = scope.name.head? := by
    intro name scope
    cases scope <;> rfl
  have scopes : scope = otherScope := by
    have first := heads unit scope
    rw [same, heads] at first
    revert first
    cases scope <;> cases otherScope <;> decide
  subst scopes
  exact ⟨List.append_cancel_left same, rfl⟩

section

variable {tools : CaseTools} {projects : List ProjectRef} {pathExists : Text → Bool}
  {units : List UnitFile} {wired : List Text}

theorem keys_nodup (distinct : (units.map UnitFile.place).Nodup) : (units.map UnitFile.key).Nodup := by
  have keys : units.map UnitFile.key = (units.map UnitFile.place).map fun place =>
      wiredKey place.1 place.2 := by
    rw [List.map_map]
    rfl
  rw [keys]
  apply distinct.map
  intro left right same
  obtain ⟨names, scopes⟩ := wiredKey_injective same
  exact Prod.ext names scopes

theorem folded_units {folding : Folding} {known : Dict Text UnitFile} {key : Text}
    (member : key ∈ (units.foldl (foldTimer known) folding).folded) :
    key ∈ folding.folded ∨ key ∈ units.map UnitFile.key := by
  induction units generalizing folding with
  | nil => exact Or.inl member
  | cons unit rest ih =>
    rw [List.foldl_cons] at member
    rcases ih member with before | later
    · simp only [foldTimer] at before
      split at before
      · exact Or.inl before
      · rcases Finset.mem_insert.mp before with here | old
        · exact Or.inr (here ▸ List.mem_cons_self)
        · exact Or.inl old
    · exact Or.inr (List.mem_cons_of_mem _ later)

theorem card_folded (distinct : (units.map UnitFile.place).Nodup) :
    (foldTimers units).folded.card = units.countP (foldedTimer units) := by
  have members : (foldTimers units).folded =
      ((units.filter (foldedTimer units)).map UnitFile.key).toFinset := by
    ext key
    rw [List.mem_toFinset, List.mem_map]
    constructor
    · intro member
      rcases folded_units member with impossible | inside
      · cases impossible
      · obtain ⟨unit, inUnits, same⟩ := List.mem_map.mp inside
        exact ⟨unit, List.mem_filter.mpr ⟨inUnits, decide_eq_true (same ▸ member)⟩, same⟩
    · intro found
      obtain ⟨unit, inside, same⟩ := found
      exact same ▸ of_decide_eq_true (List.mem_filter.mp inside).2
  rw [members, List.toFinset_card_of_nodup, List.length_map, ← List.countP_eq_length_filter]
  exact (keys_nodup distinct).sublist (List.filter_sublist.map _)

/-! ## Findings -/

theorem assignCategory_eq (finding : UnitFinding) (found : UnitMatch) :
    ∃ category ∈ categoryOrder, ∃ reason,
    assignCategory finding found = { finding with category, reason } := by
  simp only [assignCategory]
  split
  · exact ⟨.orphaned, by decide, _, rfl⟩
  · exact ⟨.host, by decide, _, rfl⟩
  · split
    · exact ⟨.orphaned, by decide, _, rfl⟩
    · exact ⟨.unmonitored, by decide, _, rfl⟩

theorem assignCategory_enabled (finding : UnitFinding) (found : UnitMatch) :
    (assignCategory finding found).enabled = finding.enabled := by
  obtain ⟨_, _, _, assigned⟩ := assignCategory_eq finding found
  rw [assigned]

theorem assignCategory_deadPath (finding : UnitFinding) (found : UnitMatch) :
    (assignCategory finding found).deadPath = finding.deadPath := by
  obtain ⟨_, _, _, assigned⟩ := assignCategory_eq finding found
  rw [assigned]

theorem classifyUnit_some {timerFor : Dict Text Text} {known : Dict Text UnitFile} {unit : UnitFile}
    {finding : UnitFinding}
    (classified : classifyUnit tools projects pathExists timerFor known unit = some finding) :
    finding.place = unit.place ∧ finding.category ∈ categoryOrder := by
  rw [classifyUnit, Option.map_eq_some_iff] at classified
  obtain ⟨bounded, _, same⟩ := classified
  obtain ⟨category, listed, reason, assigned⟩ := assignCategory_eq
    (describe tools projects pathExists timerFor known unit bounded .host) (matchUnit tools unit
      projects pathExists)
  rw [← same, assigned]
  exact ⟨rfl, listed⟩

/-- Findings of the three categories, each unit's once. -/
structure Classified (units : List UnitFile) (wired : List Text) (findings : List UnitFinding) :
    Prop where
  places : (findings.map UnitFinding.place).Perm ((units.filter fun unit =>
    !(foldedTimer units unit || isWired unit wired (foldTimers units).timerFor)).map UnitFile.place)
  categories : ∀ finding ∈ findings, finding.category ∈ categoryOrder

theorem classifyUnits_classified {findings : List UnitFinding}
    (classified : classifyUnits tools projects pathExists units wired = some findings) :
    Classified units wired findings := by
  rw [classifyUnits, Option.map_eq_some_iff] at classified
  obtain ⟨found, ran, same⟩ := classified
  have order :=
    List.perm_insertionSort (fun left right => findingOrder left ≤ findingOrder right) found
  rw [same] at order
  constructor
  · refine (order.map UnitFinding.place).trans (List.Perm.of_eq ?_)
    exact mapM_map (fun unit _ finding result => (classifyUnit_some result).1) ran
  · intro finding member
    obtain ⟨unit, _, result⟩ := mapM_mem ran (order.mem_iff.mp member)
    exact (classifyUnit_some result).2

theorem Classified.listed {findings : List UnitFinding}
    (classified : Classified units wired findings) (distinct : (units.map UnitFile.place).Nodup)
    {unit : UnitFile} (member : unit ∈ units) :
    listedAs findings unit (fun _ => true) =
      !(foldedTimer units unit || isWired unit wired (foldTimers units).timerFor) := by
  have places : listedAs findings unit (fun _ => true) = true ↔
      unit.place ∈ findings.map UnitFinding.place := by
    simp only [listedAs, Bool.and_true, List.any_eq_true, decide_eq_true_eq, List.mem_map]
  rw [Bool.eq_iff_iff, places, classified.places.mem_iff, List.mem_map]
  constructor
  · intro found
    obtain ⟨other, inside, same⟩ := found
    obtain ⟨inUnits, unwatched⟩ := List.mem_filter.mp inside
    rwa [← List.inj_on_of_nodup_map distinct inUnits member same]
  · intro unwatched
    exact ⟨unit, List.mem_filter.mpr ⟨member, unwatched⟩, rfl⟩

theorem Classified.places_nodup {findings : List UnitFinding}
    (classified : Classified units wired findings) (distinct : (units.map UnitFile.place).Nodup) :
    (findings.map UnitFinding.place).Nodup :=
  classified.places.nodup_iff.mpr (distinct.sublist (List.filter_sublist.map _))

theorem categories_sum {findings : List UnitFinding}
    (categories : ∀ finding ∈ findings, finding.category ∈ categoryOrder) :
    (categoryOrder.map fun category => findings.countP fun finding =>
      finding.category = category).sum = findings.length := by
  induction findings with
  | nil => rfl
  | cons finding rest ih =>
    obtain ⟨here, later⟩ := List.forall_mem_cons.mp categories
    have counts := ih later
    simp only [categoryOrder, List.map_cons, List.map_nil, List.sum_cons, List.sum_nil] at counts ⊢
    simp only [List.countP_cons, List.length_cons]
    have kinds : finding.category = .orphaned ∨ finding.category = .unmonitored ∨
        finding.category = .host := by
          simpa only [categoryOrder, List.mem_cons, List.not_mem_nil, or_false] using here
    rcases kinds with kind | kind | kind <;>
      simp only [kind, decide_true, decide_false, reduceCtorEq, if_true, if_false,
        Bool.false_eq_true] <;>
      omega

/-! ## The second pass -/

theorem restartRisk_place {findings : List UnitFinding} {timerFor : Dict Text Text}
    {known : Dict Text UnitFile} {unit : UnitFile} (nodup : (findings.map UnitFinding.place).Nodup) :
    (restartRisk tools projects pathExists
      (Dict.ofEntries (findings.map fun finding => (finding.key, finding))) timerFor known unit).map
        UnitFinding.place =
      if listedAs findings unit (fun category => category = .orphaned) then none
      else some unit.place := by
  have keyed : ((findings.map fun finding => (finding.key, finding)).map Prod.fst).Nodup := by
    rw [List.map_map]
    have keys : findings.map (Prod.fst ∘ fun finding => (finding.key, finding)) =
        (findings.map UnitFinding.place).map fun place => wiredKey place.1 place.2 := by
      rw [List.map_map]
      rfl
    rw [keys]
    apply nodup.map
    intro left right same
    obtain ⟨names, scopes⟩ := wiredKey_injective same
    exact Prod.ext names scopes
  simp only [restartRisk]
  cases found : (Dict.ofEntries (findings.map fun finding => (finding.key, finding))).get? unit.key
    with
  | none =>
    have absent : listedAs findings unit (fun category => category = .orphaned) = false := by
      apply List.any_eq_false.mpr
      intro finding member both
      simp only [Bool.and_eq_true, decide_eq_true_eq] at both
      have key : finding.key = unit.key :=
        congrArg (fun place : Text × Scope => wiredKey place.1 place.2) both.1
      rw [← key, Dict.get?_ofEntries keyed (List.mem_map.mpr ⟨finding, member, rfl⟩)] at found
      cases found
    simp [absent, describe, UnitFinding.place, UnitFile.place]
  | some existing =>
    obtain ⟨finding, member, same⟩ := List.mem_map.mp (Dict.get?_ofEntries_mem found)
    obtain ⟨key, rfl⟩ := Prod.mk.inj same
    have place : finding.place = unit.place := by
      obtain ⟨names, scopes⟩ := wiredKey_injective key
      exact Prod.ext names scopes
    have only : listedAs findings unit (fun category => category = .orphaned) =
        decide (finding.category = .orphaned) := by
      rw [Bool.eq_iff_iff, listedAs, List.any_eq_true, decide_eq_true_eq]
      constructor
      · intro listed
        obtain ⟨other, inside, both⟩ := listed
        simp only [Bool.and_eq_true, decide_eq_true_eq] at both
        rw [← List.inj_on_of_nodup_map nodup inside member (both.1.trans place.symm)]
        exact both.2
      · intro orphaned
        exact ⟨finding, member, by simp [place, orphaned]⟩
    rw [only]
    by_cases orphaned : finding.category = .orphaned
    · simp [orphaned]
    · simp only [if_neg orphaned, decide_eq_true_eq, Option.map_some]
      exact congrArg some place

theorem restartRisk_category {classified : Dict Text UnitFinding} {timerFor : Dict Text Text}
    {known : Dict Text UnitFile} {unit : UnitFile} {risk : UnitFinding}
    (risky : restartRisk tools projects pathExists classified timerFor known unit = some risk) :
    risk.category = .restartUnbounded := by
  simp only [restartRisk] at risky
  split at risky
  · split at risky
    · cases risky
    · exact (congrArg UnitFinding.category (Option.some.inj risky)).symm
  · exact (congrArg UnitFinding.category (Option.some.inj risky)).symm

theorem filterMap_ite {α β : Type} (which : α → Bool) (image : α → β) (inputs : List α) :
    inputs.filterMap (fun input => if which input then some (image input) else none) =
      (inputs.filter which).map image := by
  induction inputs with
  | nil => rfl
  | cons input rest ih => cases chosen : which input <;> simp [chosen, ih]

theorem restartRiskFindings_risks {findings risks : List UnitFinding}
    (nodup : (findings.map UnitFinding.place).Nodup)
    (ran : restartRiskFindings tools projects pathExists units findings = some risks) :
    (risks.map UnitFinding.place).Perm
      ((units.filter fun unit => unit.restartBounded tools = some false &&
      !listedAs findings unit fun category => category = .orphaned).map UnitFile.place) ∧
    ∀ risk ∈ risks, risk.category = .restartUnbounded := by
  rw [restartRiskFindings, Option.map_eq_some_iff] at ran
  obtain ⟨found, ran, same⟩ := ran
  have order := List.perm_insertionSort (fun left right => riskOrder left ≤ riskOrder right)
      (found.filterMap id)
  rw [same] at order
  constructor
  · refine (order.map UnitFinding.place).trans (List.Perm.of_eq ?_)
    have each := @mapM_map _ _ _ _ (Option.map UnitFinding.place) (fun unit : UnitFile =>
      if unit.restartBounded tools = some false &&
        !listedAs findings unit (fun category => category = .orphaned) then some unit.place else none)
        _ _ ?_ ran
    · have kept : (found.filterMap id).map UnitFinding.place =
          (found.map (Option.map UnitFinding.place)).filterMap id := by
        rw [List.map_filterMap, List.filterMap_map]
        rfl
      rw [kept, each, List.filterMap_map]
      exact filterMap_ite _ _ _
    · intro unit _ output result
      obtain ⟨bounded, known, same⟩ := Option.map_eq_some_iff.mp result
      cases bounded with
      | true =>
        rw [if_pos rfl] at same
        simp [← same, known]
      | false =>
        rw [if_neg Bool.false_ne_true] at same
        rw [← same, restartRisk_place nodup]
        cases orphaned : listedAs findings unit (fun category => category = .orphaned) <;> simp [known]
  · intro risk member
    obtain ⟨output, inFound, here⟩ := List.mem_filterMap.mp (order.mem_iff.mp member)
    obtain ⟨unit, _, result⟩ := mapM_mem ran inFound
    obtain ⟨bounded, _, same⟩ := Option.map_eq_some_iff.mp result
    cases bounded with
    | true =>
      rw [if_pos rfl] at same
      simp [← same] at here
    | false =>
      rw [if_neg Bool.false_ne_true] at same
      rw [← same] at here
      exact restartRisk_category here

/-! ## The sweep -/

/-- A restart limit that is read, and whose number of restarts no double holds. -/
def UnitFile.BurstOverflows (tools : CaseTools) (unit : UnitFile) : Prop :=
  (∃ restart, unit.restart = some restart ∧ tools.lower restart.strip ∉ [text "", text "no"]) ∧
    (unit.startLimitInterval.getD defaultStartLimitInterval).isNonPositive = false ∧
    unit.restartSec.getD defaultRestartSec ≠ .infinite false ∧
    1 < unit.startLimitBurst.getD defaultStartLimitBurst ∧
    PyFloat.ofInt? (unit.startLimitBurst.getD defaultStartLimitBurst - 1) = none

theorem restartBounded_isSome {unit : UnitFile} :
    (unit.restartBounded tools).isSome ↔ ¬ unit.BurstOverflows tools := by
  simp only [UnitFile.restartBounded, restartIsBounded, UnitFile.BurstOverflows]
  cases unit.restart with
  | none => simp
  | some restart =>
    simp only [Option.some.injEq, exists_eq_left']
    split
    · rename_i idle
      simp [idle]
    · rename_i restarts
      split
      · rename_i off
        simp only [Bool.or_eq_true, decide_eq_true_eq] at off
        simp only [Option.isSome_some, true_iff]
        intro overflows
        obtain ⟨_, positive, _, more, _⟩ := overflows
        rcases off with off | off
        · rw [positive] at off
          cases off
        · omega
      · rename_i limited
        simp only [Bool.or_eq_true, decide_eq_true_eq, not_or, Bool.not_eq_true] at limited
        split
        · rename_i never
          simp [never]
        · rename_i cadence
          split
          · rename_i one
            simp [one]
          · rename_i several
            have more : 1 < unit.startLimitBurst.getD defaultStartLimitBurst := by omega
            simp only [Option.isSome_map, restarts, not_false_eq_true, limited.1, cadence,
              ne_eq, more, true_and, Option.isSome_iff_ne_none]

theorem scanUnits_isSome {excluded : List Text} :
    (scanUnits tools projects pathExists units excluded wired).isSome ↔
      ∀ unit ∈ units, ¬ unit.BurstOverflows tools := by
  have classify : (∀ unit ∈ units, (unit.restartBounded tools).isSome) →
      (classifyUnits tools projects pathExists units wired).isSome := by
    intro bounded
    rw [classifyUnits, Option.isSome_map, mapM_isSome]
    intro unit member
    rw [classifyUnit, Option.isSome_map]
    exact bounded unit (List.mem_of_mem_filter member)
  have risks : ∀ findings, (restartRiskFindings tools projects pathExists units findings).isSome ↔
      ∀ unit ∈ units, (unit.restartBounded tools).isSome := by
    intro findings
    rw [restartRiskFindings, Option.isSome_map, mapM_isSome]
    simp only [Option.isSome_map]
  simp only [← restartBounded_isSome]
  constructor
  · intro scanned
    obtain ⟨scan, scanned⟩ := Option.isSome_iff_exists.mp scanned
    rw [scanUnits] at scanned
    obtain ⟨findings, _, scanned⟩ := Option.bind_eq_some_iff.mp scanned
    obtain ⟨risky, ran, _⟩ := Option.bind_eq_some_iff.mp scanned
    exact (risks findings).mp (Option.isSome_iff_exists.mpr ⟨risky, ran⟩)
  · intro bounded
    obtain ⟨findings, classified⟩ := Option.isSome_iff_exists.mp (classify bounded)
    obtain ⟨risky, ran⟩ := Option.isSome_iff_exists.mp ((risks findings).mpr bounded)
    simp [scanUnits, classified, ran]

theorem length_of_exactlyOne {α : Type} {first second third : α → Bool} {members : List α}
    (one : ∀ member ∈ members, ExactlyOne (first member) (second member) (third member)) :
    members.length = members.countP second + members.countP first + members.countP third := by
  induction members with
  | nil => rfl
  | cons member rest ih =>
    obtain ⟨here, later⟩ := List.forall_mem_cons.mp one
    have count := ih later
    simp only [List.length_cons, List.countP_cons]
    revert here
    cases first member <;> cases second member <;> cases third member <;>
      simp [ExactlyOne] <;> omega

theorem scanUnits_audited {excluded : List Text} {scan : UnitScan}
    (distinct : (units.map UnitFile.place).Nodup)
    (scanned : scanUnits tools projects pathExists units excluded wired = some scan) :
    Audited tools units wired scan := by
  rw [scanUnits] at scanned
  obtain ⟨findings, classified, scanned⟩ := Option.bind_eq_some_iff.mp scanned
  obtain ⟨risky, ran, scanned⟩ := Option.bind_eq_some_iff.mp scanned
  cases scanned
  have found := classifyUnits_classified classified
  obtain ⟨places, kinds⟩ := restartRiskFindings_risks (found.places_nodup distinct) ran
  have listed : ∀ unit ∈ units, listedAs findings unit (fun _ => true) =
      !(foldedTimer units unit || isWired unit wired (foldTimers units).timerFor) :=
    fun unit member => found.listed distinct member
  have one : ∀ unit ∈ units, ExactlyOne (foldedTimer units unit) (monitored units wired unit)
      (listedAs findings unit fun _ => true) := by
    intro unit member
    have apart : monitored units wired unit =
        (!foldedTimer units unit && isWired unit wired (foldTimers units).timerFor) := by
      simp only [monitored, foldedTimer, decide_not]
    rw [listed unit member, apart]
    cases foldedTimer units unit <;> cases isWired unit wired (foldTimers units).timerFor <;> rfl
  have buckets : (findings.map UnitFinding.place).Perm
      ((units.filter fun unit => listedAs findings unit fun _ => true).map UnitFile.place) := by
    rw [List.filter_congr listed]
    exact found.places
  have folded := card_folded distinct
  refine ⟨one, folded, rfl, buckets, ⟨rfl, ?_⟩, categories_sum found.categories, places, kinds, ?_⟩
  · have counted := buckets.length_eq
    rw [List.length_map, List.length_map, ← List.countP_eq_length_filter] at counted
    have total := length_of_exactlyOne one
    change units.length = units.countP (monitored units wired) + (foldTimers units).folded.card +
      findings.length
    rw [folded, counted, total]
  · apply List.countP_eq_zero.mpr
    intro finding member
    have kind := found.categories finding member
    rw [decide_eq_true_eq]
    intro risk
    rw [risk] at kind
    revert kind
    decide

/-- Every sweep partitions its units and adds up, exactly if no restart limit overflows. -/
theorem sweep_audited_iff (tools : CaseTools) (projects : List ProjectRef)
    (pathExists : Text → Bool) (units : List UnitFile) (excluded wired : List Text)
    (distinct : (units.map UnitFile.place).Nodup) :
    (∃ scan, scanUnits tools projects pathExists units excluded wired = some scan ∧
      Audited tools units wired scan) ↔ ∀ unit ∈ units, ¬ unit.BurstOverflows tools := by
  rw [← @scanUnits_isSome tools projects pathExists units wired excluded]
  constructor
  · intro audited
    obtain ⟨scan, scanned, _⟩ := audited
    exact Option.isSome_iff_exists.mpr ⟨scan, scanned⟩
  · intro returns
    obtain ⟨scan, scanned⟩ := Option.isSome_iff_exists.mp returns
    exact ⟨scan, scanned, scanUnits_audited distinct scanned⟩

end

/-! A backup with its timer, a wired service that loops for ever, and an orphan. -/

def sweepTools : CaseTools := ⟨id, id⟩

def sweptUnits : List UnitFile :=
  [{ name := text "backup.service", scope := .system, path := text "/etc/backup.service",
      serviceType := text "oneshot" },
    { name := text "backup.timer", scope := .system, path := text "/etc/backup.timer",
      triggers := some (text "backup.service"), enabled := true },
    { name := text "web.service", scope := .user, path := text "/u/web.service",
      restart := some (text "always"), restartSec := some (.finite 10) },
    { name := text "old.service", scope := .user, path := text "/u/old.service",
      workingDirectory :=
      some (text "/gone"), restart := some (text "always"), restartSec := some (.finite 10) }]

def sweptWired : List Text := [text "user:web.service"]

example : ((scanUnits sweepTools [] (fun _ => false) sweptUnits [] sweptWired).map fun scan =>
    (scan.monitoredCount, scan.timersFolded, scan.findings.map UnitFinding.unit,
      scan.restartFindings.map UnitFinding.unit)) =
    some (1, 1, [text "old.service", text "backup.service"], [text "web.service"]) := by
  decide +kernel

theorem sweptUnits_audited : (sweptUnits.map UnitFile.place).Nodup ∧
    ((∃ scan, scanUnits sweepTools [] (fun _ => false) sweptUnits [] sweptWired = some scan ∧
      Audited sweepTools sweptUnits sweptWired scan) ↔ ∀ unit ∈ sweptUnits,
        ¬ unit.BurstOverflows sweepTools) :=
  ⟨by decide, sweep_audited_iff sweepTools [] (fun _ => false) sweptUnits [] sweptWired (by decide)⟩

def endlessBurst : List UnitFile :=
  [{ name := text "web.service", scope := .user, path := text "/u/web.service",
      restart := some (text "always"), startLimitBurst := some (2 ^ 1024 + 1) }]

theorem endlessBurst_raises :
    ¬ ∃ scan, scanUnits sweepTools [] (fun _ => false) endlessBurst [] sweptWired =
    some scan ∧ Audited sweepTools endlessBurst sweptWired scan := by
  intro audited
  obtain ⟨scan, scanned, _⟩ := audited
  have raises : scanUnits sweepTools [] (fun _ => false) endlessBurst [] sweptWired = none := by
    apply Option.isNone_iff_eq_none.mp
    decide +kernel
  rw [raises] at scanned
  cases scanned

end SysadminAssistant.Units
