import SysadminAssistant.Files.FilePlans
import SysadminAssistant.Files.PlannedRemovals

namespace SysadminAssistant.Files

open Python

/-! What the planners take from under the scan root, and from where. -/

/-- A directory name that no rule keeps a walk out of. -/
def Enterable (skipDirs : List Text) (name : Text) : Prop :=
  isHidden name = false ∧ name ∉ protectedDirNames ∧ name ∉ skipDirs

/-- A plain file that is not hidden, inside the scan root and in no excluded tree, below directories
that may all be entered. -/
structure ConfinedSource (machine : Machine) (tree : Tree) (root : Path) (skipDirs : List Text)
    (excludedRoots : List Path) (source : Path) : Prop where
  regular : ∃ content modified, tree.get? source = some (.file content modified)
  plain : isSymlink machine.steps tree source = false
  shown : ∀ name ∈ source.head?, isHidden name = false
  resolved : ∃ place, realPath machine.steps tree source = some place ∧ place ≠ [] ∧
    root <:+ place.tail ∧ ∀ excluded ∈ excludedRoots, ¬ excluded <:+ place.tail
  parents : ∀ name directory, (name :: directory) <:+ source.tail → root <:+ directory →
    Enterable skipDirs name

/-- A directory in no excluded tree, below the scan root by directories that may be entered. -/
structure OpenStart (root : Path) (skipDirs : List Text) (excludedRoots : List Path)
    (start : Path) : Prop where
  excluded : ∀ excluded ∈ excludedRoots, ¬ excluded <:+ start
  parents : ∀ name directory, (name :: directory) <:+ start → root <:+ directory →
    Enterable skipDirs name

theorem openStart_root {root : Path} {skipDirs : List Text} {excludedRoots : List Path} :
    OpenStart root skipDirs excludedRoots root ↔ ∀ excluded ∈ excludedRoots, ¬ excluded <:+ root := by
  refine ⟨OpenStart.excluded, fun outside => ⟨outside, ?_⟩⟩
  intro name directory inside above
  have shorter := inside.length_le
  have longer := above.length_le
  rw [List.length_cons] at shorter
  omega

variable {machine : Machine} {reading : Reading} {tree : Tree} {root : Path} {skipDirs : List Text}
  {excludedRoots : List Path}

theorem walkFiles_between {depth : Nat} {here place : Path}
    (short : ∀ entry ∈ tree.keys, entry.length ≤ machine.steps) (real : Real tree here)
    (found : place ∈ walkFiles machine reading tree skipDirs excludedRoots depth here) :
    ∃ last directory, place = last :: directory ∧ here <:+ directory ∧ isHidden last = false ∧
      ∀ name later, (name :: later) <:+ directory → here <:+ later → Enterable skipDirs name ∧
        ∀ excluded ∈ excludedRoots, ¬ excluded <:+ name :: later := by
  induction depth generalizing here with
  | zero => simp [walkFiles] at found
  | succ depth ih =>
    rcases walkFiles_cases found with ⟨name, _, rfl, shown, _⟩ | ⟨name, inside, kept, plain, walked⟩
    · refine ⟨name, here, rfl, List.suffix_refl here, shown, fun other later inside above => ?_⟩
      have shorter := inside.length_le
      have longer := above.length_le
      rw [List.length_cons] at shorter
      omega
    · simp only [skipDirectory, Bool.or_eq_false_iff, List.contains_eq_mem,
        decide_eq_false_iff_not] at kept
      obtain ⟨⟨⟨⟨shown, allowed⟩, unskipped⟩, _⟩, outside⟩ := kept
      obtain ⟨realPlace, bound⟩ := walked_entry short real inside shown plain
      rw [realPath_of_real realPlace bound, Option.all_some, List.any_eq_false] at outside
      obtain ⟨last, directory, same, under, hidden, each⟩ := ih realPlace walked
      have entered : Enterable skipDirs name ∧ ∀ excluded ∈ excludedRoots,
          ¬ excluded <:+ name :: here :=
        ⟨⟨shown, allowed, unskipped⟩, fun excluded member within =>
          outside excluded member (List.isSuffixOf_iff_suffix.mpr within)⟩
      refine ⟨last, directory, same, (List.suffix_cons name here).trans under, hidden, ?_⟩
      intro other later inner above
      rcases List.suffix_or_suffix_of_suffix inner under with higher | lower
      · have size := above.length_le
        have sameSize := higher.length_le
        rw [List.length_cons, List.length_cons] at sameSize
        have entry : other :: later = name :: here :=
          higher.eq_of_length (by rw [List.length_cons, List.length_cons]; omega)
        obtain ⟨rfl, rfl⟩ := List.cons.inj entry
        exact entered
      · rcases List.suffix_cons_iff.mp lower with entry | deeper
        · obtain ⟨rfl, rfl⟩ := List.cons.inj entry
          exact entered
        · exact each other later inner deeper

theorem walked_confined_iff {start place : Path}
    (short : ∀ entry ∈ tree.keys, entry.length ≤ machine.steps) (real : Real tree start)
    (within : root <:+ start)
    (found : place ∈ walkFiles machine reading tree skipDirs excludedRoots
    (tree.entries.length + 1) start) :
    ConfinedSource machine tree root skipDirs excludedRoots place ↔
      OpenStart root skipDirs excludedRoots start := by
  obtain ⟨realPlace, filed, fits, _⟩ := walkFiles_file short real found
  obtain ⟨last, directory, same, under, shown, each⟩ := walkFiles_between short real found
  have led := realPath_of_real realPlace fits
  constructor
  · intro confined
    refine ⟨fun excluded member inside => ?_, fun name upper inside above => ?_⟩
    · obtain ⟨resolved, leads, _, _, outside⟩ := confined.resolved
      rw [led] at leads
      cases leads
      rw [same] at outside
      exact outside excluded member (inside.trans under)
    · refine confined.parents name upper ?_ above
      rw [same]
      exact inside.trans under
  · intro opens
    refine ⟨any_isFile filed, ?_, ?_, ⟨place, led, ?_, ?_, ?_⟩, ?_⟩
    · obtain ⟨content, modified, present⟩ := any_isFile filed
      rw [isSymlink, entryOf_of_real realPlace fits, Option.bind_some, present]
      rfl
    · rw [same]
      intro name first
      cases first
      exact shown
    · rw [same]
      exact List.cons_ne_nil _ _
    · rw [same]
      exact within.trans under
    · intro excluded member inside
      rw [same, List.tail_cons] at inside
      rcases List.suffix_or_suffix_of_suffix inside under with outer | inner
      · exact opens.excluded excluded member outer
      · cases excluded with
        | nil => exact opens.excluded [] member List.nil_suffix
        | cons name later =>
          rcases List.suffix_cons_iff.mp inner with entry | deeper
          · exact opens.excluded _ member (entry ▸ List.suffix_refl _)
          · exact (each name later inside deeper).2 _ member (List.suffix_refl _)
    · rw [same]
      intro name upper inside above
      rw [List.tail_cons] at inside
      rcases List.suffix_or_suffix_of_suffix inside under with outer | inner
      · exact opens.parents name upper outer above
      · rcases List.suffix_cons_iff.mp inner with entry | deeper
        · exact opens.parents name upper (entry ▸ List.suffix_refl _) above
        · exact (each name upper inside deeper).1

/-! ## The loops -/

/-- A turn plans nothing, or one operation on its own file. -/
def PlansOwn (turn : Manifest → Path → Except PlanError Manifest) : Prop :=
  ∀ manifest path next, turn manifest path = .ok next → next.operations = manifest.operations ∨
    ∃ operation : PlannedOperation, operation.source = path ∧
      next.operations = manifest.operations ++ [operation]

theorem planEach_source {turn : Manifest → Path → Except PlanError Manifest} (own : PlansOwn turn)
    {maxOperations : Int} {paths : List Path} {start final : Manifest}
    (planned : planEach turn maxOperations paths start = .ok final) {operation : PlannedOperation}
    (member : operation ∈ final.operations) :
    operation ∈ start.operations ∨ operation.source ∈ paths := by
  induction paths generalizing start with
  | nil =>
    cases planned
    exact Or.inl member
  | cons path rest ih =>
    simp only [planEach] at planned
    split at planned
    · cases planned
      exact Or.inl member
    · split at planned
      · cases planned
      · rename_i next turned
        rcases ih planned with early | later
        · rcases own start path next turned with same | ⟨added, source, shape⟩
          · exact Or.inl (same ▸ early)
          · rw [shape, List.mem_append, List.mem_singleton] at early
            rcases early with before | now
            · exact Or.inl before
            · exact Or.inr (by rw [now, source]; exact List.mem_cons_self)
        · exact Or.inr (List.mem_cons_of_mem _ later)

variable {inspection : Inspection} {config : PlanningConfig}

theorem organiseFile_own {wanted : Option (List Text)} :
    PlansOwn (organiseFile machine inspection config tree root wanted) := by
  intro manifest path next turned
  simp only [organiseFile] at turned
  repeat' split at turned
  all_goals first
    | cases turned
      exact Or.inl rfl
    | cases turned
      exact Or.inr ⟨_, rfl, rfl⟩
    | cases turned

theorem clearDownload_own {downloads : Path} {archive : Option Path} {cutoff : ℚ} :
    PlansOwn (clearDownload machine inspection tree downloads archive cutoff) := by
  intro manifest path next turned
  simp only [clearDownload] at turned
  repeat' split at turned
  all_goals first
    | cases turned
      exact Or.inl rfl
    | cases turned
      exact Or.inr ⟨_, rfl, rfl⟩

/-! ## The planners -/

theorem planOrganise_source {categories : Option (List Text)} {response : FileActionResponse}
    (planned : planOrganise machine inspection config excludedRoots categories tree = .ok response)
    {operation : PlannedOperation} (member : operation ∈ response.operations) :
    ∃ root, realPath machine.steps tree config.scanRoot = some root ∧ operation.source ∈
      walkFiles machine inspection.toReading tree config.skipDirs excludedRoots
        (tree.entries.length + 1) root := by
  simp only [planOrganise] at planned
  cases led : realPath machine.steps tree config.scanRoot with
  | none => simp [led] at planned
  | some root =>
    rw [led] at planned
    dsimp only at planned
    split at planned
    · cases planned
      cases member
    · refine ⟨root, rfl, ?_⟩
      cases looped : planEach (organiseFile machine inspection config tree root (wantedOf categories))
          config.actions.maxOperations
            (walkFiles machine inspection.toReading tree config.skipDirs excludedRoots
            (tree.entries.length + 1) root) .empty with
      | error raised =>
        rw [looped] at planned
        cases planned
      | ok manifest =>
        rw [looped] at planned
        cases planned
        exact (planEach_source organiseFile_own looped member).resolve_left List.not_mem_nil

theorem downloadFolders_within {mode : DownloadMode} {downloads : Path} {archive : Option Path}
    (folders : downloadFolders machine config tree root mode = .ok (downloads, archive)) :
    resolveWithin machine tree root (config.downloadsDir.under root) = .within downloads := by
  simp only [downloadFolders] at folders
  repeat' split at folders
  all_goals cases folders
  all_goals assumption

theorem planDownloadsCleanup_source {mode : Text} {olderThanDays : Option Int}
    {response : FileActionResponse}
    (planned : planDownloadsCleanup machine inspection config excludedRoots mode olderThanDays
    tree = .ok response)
    {operation : PlannedOperation} (member : operation ∈ response.operations) :
    ∃ root downloads, realPath machine.steps tree config.scanRoot = some root ∧
      resolveWithin machine tree root (config.downloadsDir.under root) = .within downloads ∧
      operation.source ∈ walkFiles machine inspection.toReading tree config.skipDirs excludedRoots
        (tree.entries.length + 1) downloads := by
  simp only [planDownloadsCleanup] at planned
  split at planned
  · cases planned
  · split at planned
    · cases planned
    · split at planned
      · cases planned
      · rename_i root led
        split at planned
        · cases planned
        · rename_i downloads archive folders
          split at planned
          · cases planned
            cases member
          · split at planned
            · cases planned
            · rename_i cutoff _
              refine ⟨root, downloads, led, downloadFolders_within folders, ?_⟩
              cases looped : planEach (clearDownload machine inspection tree downloads archive cutoff)
                  config.actions.maxOperations
                    (walkFiles machine inspection.toReading tree config.skipDirs
                    excludedRoots (tree.entries.length + 1) downloads) .empty with
              | error raised =>
                rw [looped] at planned
                cases planned
              | ok manifest =>
                rw [looped] at planned
                cases planned
                exact (planEach_source clearDownload_own looped member).resolve_left List.not_mem_nil

theorem resolveWithin_real {path place : Path}
    (resolved : resolveWithin machine tree root path = .within place) :
    Real tree place ∧ root <:+ place := by
  simp only [resolveWithin] at resolved
  split at resolved
  · cases resolved
  · rename_i found led
    split at resolved
    · rename_i inside
      cases resolved
      exact ⟨(realPath_real led).1, List.isSuffixOf_iff_suffix.mp inside⟩
    · cases resolved

end SysadminAssistant.Files
