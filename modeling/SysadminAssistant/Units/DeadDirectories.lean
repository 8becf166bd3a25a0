import SysadminAssistant.Units.SweepBuckets

namespace SysadminAssistant.Units

open Python Library

/-! Units whose working directory is gone. -/

section

variable {tools : CaseTools} {projects : List ProjectRef} {pathExists : Text → Bool}
  {units : List UnitFile} {wired : List Text} {unit : UnitFile}

/-- A declared path lies under the project's root. -/
def UnitFile.pathsUnder (unit : UnitFile) (project : ProjectRef) : Bool :=
  unit.declaredPaths.any fun declared => under declared project.path

theorem bestByPath_eq_none :
    bestByPath unit projects = none ↔ ∀ project ∈ projects, unit.pathsUnder project = false := by
  have folded : ∀ best, projects.foldl (fun best candidate =>
      if unit.declaredPaths.any fun declared => under declared candidate.path then
        if best.all fun best => candidate.path.length > best.path.length then some candidate else best
      else best) best = none ↔ best = none ∧ ∀ project ∈ projects,
        unit.pathsUnder project = false := by
    induction projects with
    | nil => simp
    | cons candidate rest ih =>
      intro best
      rw [List.foldl_cons, ih, List.forall_mem_cons]
      cases matched : unit.pathsUnder candidate with
      | false =>
        have unmatched : (unit.declaredPaths.any fun declared =>
            under declared candidate.path) = false := matched
        simp [unmatched]
      | true =>
        have shown : (unit.declaredPaths.any fun declared => under declared candidate.path) =
            true := matched
        rw [if_pos shown]
        cases best with
        | none => simp
        | some best => split <;> simp
  exact (folded none).trans (and_iff_right rfl)

/-- The unit is neither a folded timer nor wired. -/
structure Unwatched (units : List UnitFile) (wired : List Text) (unit : UnitFile) : Prop where
  member : unit ∈ units
  unfolded : unit.key ∉ (foldTimers units).folded
  unwired : isWired unit wired (foldTimers units).timerFor = false

theorem Unwatched.listed (unwatched : Unwatched units wired unit) : unit ∈ units.filter fun unit =>
    !(decide (unit.key ∈ (foldTimers units).folded) || isWired unit wired
      (foldTimers units).timerFor) :=
  List.mem_filter.mpr ⟨unwatched.member, by simp [unwatched.unfolded, unwatched.unwired]⟩

theorem Unwatched.of_listed (listed : unit ∈ units.filter fun unit =>
    !(decide (unit.key ∈ (foldTimers units).folded) || isWired unit wired
      (foldTimers units).timerFor)) :
    Unwatched units wired unit := by
  obtain ⟨member, quiet⟩ := List.mem_filter.mp listed
  simp only [Bool.not_eq_true', Bool.or_eq_false_iff, decide_eq_false_iff_not] at quiet
  exact ⟨member, quiet.1, quiet.2⟩

/-- What `classify_units` says of a unit in its turn. -/
def findingOf (tools : CaseTools) (projects : List ProjectRef) (pathExists : Text → Bool)
    (units : List UnitFile) (unit : UnitFile) : Option UnitFinding :=
  classifyUnit tools projects pathExists (foldTimers units).timerFor (byKey units) unit

theorem classifyUnits_isSome : (classifyUnits tools projects pathExists units wired).isSome ↔
    ∀ other, Unwatched units wired other → ¬ other.BurstOverflows tools := by
  simp only [← restartBounded_isSome]
  rw [classifyUnits, Option.isSome_map, mapM_isSome]
  constructor
  · intro all other unwatched
    have made := all other unwatched.listed
    rwa [classifyUnit, Option.isSome_map] at made
  · intro all other listed
    rw [classifyUnit, Option.isSome_map]
    exact all other (Unwatched.of_listed listed)

theorem findingOf_listed {findings : List UnitFinding} (unwatched : Unwatched units wired unit)
    (classified : classifyUnits tools projects pathExists units wired = some findings) :
    ∃ finding ∈ findings, findingOf tools projects pathExists units unit = some finding := by
  rw [classifyUnits, Option.map_eq_some_iff] at classified
  obtain ⟨found, ran, same⟩ := classified
  obtain ⟨finding, member, made⟩ := mapM_result ran unwatched.listed
  rw [← same]
  exact ⟨finding, (List.mem_insertionSort _).mpr member, made⟩

/-- The sweep reports the unit as an orphan, with the directory. -/
def ReportsDead (tools : CaseTools) (projects : List ProjectRef) (pathExists : Text → Bool)
    (units : List UnitFile) (wired : List Text) (unit : UnitFile) (directory : Text) : Prop :=
  ∃ findings, classifyUnits tools projects pathExists units wired = some findings ∧
    ∃ finding ∈ findings, findingOf tools projects pathExists units unit = some finding ∧
      finding.place = unit.place ∧ finding.category = .orphaned ∧ finding.deadPath = some directory

theorem workingDirectories_eq {directory : Text} (declares : directory ∈ unit.workingDirectories) :
    unit.workingDirectories = [directory] ∧ directory ≠ [] := by
  simp only [UnitFile.workingDirectories, Option.mem_toList, Option.filter_eq_some_iff] at declares ⊢
  obtain ⟨declared, filled⟩ := declares
  have nonempty : directory ≠ [] := of_decide_eq_true filled
  exact ⟨by simp [declared, Option.filter_some, nonempty], nonempty⟩

theorem assignCategory_orphaned {finding : UnitFinding} {found : UnitMatch} {directory : Text}
    (dead : finding.deadPath = some directory) (filled : directory ≠ []) :
    (assignCategory finding found).category = .orphaned := by
  cases directory with
  | nil => exact absurd rfl filled
  | cons c rest => simp [assignCategory, dead]

theorem matchUnit_deadPaths {directory : Text} (declares : directory ∈ unit.workingDirectories)
    (gone : pathExists directory = false) :
    (matchUnit tools unit projects pathExists).deadPaths =
      if bestByPath unit projects = none then [directory] else [] := by
  obtain ⟨only, _⟩ := workingDirectories_eq declares
  cases best : bestByPath unit projects with
  | some project => simp [matchUnit, best]
  | none =>
    cases named : bestByName tools unit projects <;> simp [matchUnit, best, named, only, gone]

end

theorem reportsDead_iff (tools : CaseTools) (projects : List ProjectRef) (pathExists : Text → Bool)
    (units : List UnitFile) (wired : List Text) (unit : UnitFile) (directory : Text)
    (unwatched : Unwatched units wired unit) (declares : directory ∈ unit.workingDirectories)
    (gone : pathExists directory = false) :
    ReportsDead tools projects pathExists units wired unit directory ↔
      (∀ project ∈ projects, unit.pathsUnder project = false) ∧
        ∀ other, Unwatched units wired other → ¬ other.BurstOverflows tools := by
  rw [← bestByPath_eq_none, ← @classifyUnits_isSome tools projects pathExists]
  have deadPaths := @matchUnit_deadPaths tools projects pathExists unit directory declares gone
  have made : ∀ {finding}, findingOf tools projects pathExists units unit = some finding →
      finding.deadPath = (matchUnit tools unit projects pathExists).deadPaths.head? := by
    intro finding found
    obtain ⟨bounded, _, rfl⟩ := Option.map_eq_some_iff.mp found
    exact assignCategory_deadPath _ _
  constructor
  · intro reports
    obtain ⟨findings, classified, finding, _, found, _, _, dead⟩ := reports
    refine ⟨?_, by rw [classified]; rfl⟩
    rw [made found, deadPaths] at dead
    split at dead
    · assumption
    · cases dead
  · intro holds
    obtain ⟨findings, classified⟩ := Option.isSome_iff_exists.mp holds.2
    obtain ⟨finding, member, found⟩ := findingOf_listed unwatched classified
    have dead := made found
    rw [deadPaths, if_pos holds.1, List.head?_cons] at dead
    refine ⟨findings, classified, finding, member, found, (classifyUnit_some found).1, ?_, dead⟩
    obtain ⟨bounded, _, rfl⟩ := Option.map_eq_some_iff.mp found
    rw [assignCategory_deadPath] at dead
    exact assignCategory_orphaned dead (workingDirectories_eq declares).2

def goneUnit : UnitFile where
  name := text "web.service"
  scope := .user
  path := text "/u/web.service"
  workingDirectory := some (text "/p/web/app")

theorem goneUnit_reported :
    ReportsDead sweepTools [⟨text "api", text "/p/api", text "active"⟩] (fun _ => false)
    [goneUnit] [] goneUnit (text "/p/web/app") :=
  (reportsDead_iff sweepTools _ _ _ _ _ _ ⟨List.mem_singleton_self _, by decide, by decide⟩
    (by decide) rfl).mpr ⟨by decide, by
      intro other unwatched overflows
      rw [List.mem_singleton.mp unwatched.member] at overflows
      obtain ⟨⟨restart, declared, _⟩, _⟩ := overflows
      cases declared⟩

/-- A directory under a project that is still listed. -/
theorem listed_project_hides_dead_directory : ¬ ∀ tools projects pathExists units wired unit directory,
    Unwatched units wired unit → directory ∈ unit.workingDirectories → pathExists directory = false →
      ReportsDead tools projects pathExists units wired unit directory := by
  intro claim
  have reports :=
    claim sweepTools [⟨text "web", text "/p/web", text "active"⟩] (fun _ => false) [goneUnit] []
    goneUnit (text "/p/web/app") ⟨List.mem_singleton_self _, by decide, by decide⟩ (by decide) rfl
  obtain ⟨_, _, finding, _, found, _, orphaned, _⟩ := reports
  have unmonitored : (findingOf sweepTools [⟨text "web", text "/p/web", text "active"⟩]
      (fun _ => false)
      [goneUnit] goneUnit).map UnitFinding.category = some .unmonitored := by decide
  rw [found, Option.map_some, orphaned] at unmonitored
  cases unmonitored

end SysadminAssistant.Units
