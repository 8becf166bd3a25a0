import SysadminAssistant.Files.PlannedRemovals
import SysadminAssistant.Files.NeededKeepers

namespace SysadminAssistant.Files

open Python Library

/-! Cleaning duplicates keeps a copy of everything, as long as the keepers stand. -/

variable {machine : Machine} {reading : Reading} {planned began : Tree}

/-- The fingerprints tell contents apart. -/
def Telling (reading : Reading) (tree : Tree) : Prop :=
  ∀ left right content modified other stamped digest, tree.get? left = some (.file content modified) →
    tree.get? right = some (.file other stamped) → digestOf reading tree left = some digest →
    digestOf reading tree right = some digest → content = other

/-- Since planning, no keeper was touched, no link made or removed, and of the files to remove
some may be gone. -/
structure Undisturbed (operations : List FileOperation) (planned began : Tree) : Prop where
  links : SameLinks planned began
  sources : ∀ operation ∈ operations, ∀ node, began.get? operation.source = some node →
    planned.get? operation.source = some node
  keepers : ∀ operation ∈ operations, ∀ keep, operation.keepPath = some keep →
    began.get? keep = planned.get? keep

theorem planned_stands {organiser : FileOrganiserConfig} {excludedRoots : List Path}
    {given : Option Text} {forceDelete : Bool} {home : Option Path}
    {operations : List FileOperation} {execution : Execution}
    (plan : planDuplicateCleanup machine reading organiser excludedRoots given planned =
    .ok operations)
    (prepared : preparePlan machine organiser forceDelete home operations began = some execution)
    (undisturbed : Undisturbed operations planned began)
    (short : ∀ entry ∈ planned.keys, entry.length ≤ machine.steps) (telling : Telling reading planned)
    (outside : ∀ place ∈ walkedFrom machine reading organiser excludedRoots planned execution.root,
      Untrashed execution planned place) : KeepersStand execution operations began := by
  simp only [preparePlan, Option.bind_eq_bind, Option.bind_eq_some_iff, Option.some.injEq] at prepared
  obtain ⟨root, rooted, place, _, _, _, rfl⟩ := prepared
  rw [← realPath_sameLinks undisturbed.links] at rooted
  dsimp only at outside
  have walkedFile : ∀ {path}, path ∈ walkedFrom machine reading organiser excludedRoots planned root →
      (∃ content modified, planned.get? path = some (.file content modified)) ∧
        resolveWithin machine began root path = .within path := by
    intro path walked
    obtain ⟨real, filed, fits, below⟩ := walkFiles_file short (realPath_real rooted).1 walked
    exact ⟨any_isFile filed, resolveWithin_walked (real.sameLinks undisturbed.links) fits below⟩
  have each : ∀ {operation}, operation ∈ operations → ∃ strategy digest keeper path,
      strategyFor given organiser.actions.duplicateStrategy = some strategy ∧
      operation = removal strategy keeper path ∧ path ≠ keeper ∧
      path ∈ walkedFrom machine reading organiser excludedRoots planned root ∧
      digestOf reading planned path = some digest ∧
      pickKeeper reading planned strategy
        ((walkedFrom machine reading organiser excludedRoots planned root).filter
        fun path => digestOf reading planned path = some digest) = some keeper := by
    intro operation member
    obtain ⟨strategy, base, chosen, led, digest, keeper, path, shape, facts⟩ :=
      planned_removal plan member
    rw [rooted] at led
    cases led
    exact ⟨strategy, digest, keeper, path, chosen, shape, facts⟩
  -- the keeper of an operation has its bytes, and is the keeper of every other member of its group
  have keeps : ∀ {operation source}, operation ∈ operations →
      removes ⟨machine, root, trashRootFor place organiser.actions.trashDir,
        forceDelete && organiser.actions.allowPermanentDelete⟩ began operation = some source →
      ∃ keeper content modified stamped, operation.keepPath = some keeper ∧ keeper ≠ source ∧
        resolveWithin machine began root keeper = .within keeper ∧
        began.get? source = some (.file content modified) ∧
          began.get? keeper = some (.file content stamped) ∧
        keeper ∈ walkedFrom machine reading organiser excludedRoots planned root ∧
        ∀ rival ∈ operations, removes ⟨machine, root, trashRootFor place organiser.actions.trashDir,
          forceDelete && organiser.actions.allowPermanentDelete⟩ began rival ≠ some keeper := by
    intro operation source member found
    obtain ⟨strategy, digest, keeper, path, chosen, rfl, apart, walked, hashed, picked⟩ := each member
    obtain ⟨resolved, content, modified, sourceFile⟩ := removes_resolved found
    rw [show (removal strategy keeper path).source = path from rfl, (walkedFile walked).2] at resolved
    cases resolved
    have planFile := undisturbed.sources _ member _ sourceFile
    have among := List.mem_filter.mp (pickKeeper_mem picked)
    obtain ⟨⟨other, stamped, keeperFile⟩, keeperItself⟩ := walkedFile among.1
    have keeperHashed : digestOf reading planned keeper = some digest := by simpa using among.2
    have same :=
      telling source keeper content modified other stamped digest planFile keeperFile hashed
        keeperHashed
    subst same
    refine ⟨keeper, content, modified, stamped, rfl, apart.symm, keeperItself, sourceFile, ?_,
      among.1, ?_⟩
    · rw [undisturbed.keepers _ member keeper rfl, keeperFile]
    · intro rival rivalMember removed
      obtain ⟨strategy', digest', keeper', path', chosen', rfl, apart', walked', hashed',
          picked'⟩ := each rivalMember
      have landed := (removes_resolved removed).1
      rw [show (removal strategy' keeper' path').source = path' from rfl, (walkedFile walked').2]
        at landed
      cases landed
      rw [chosen] at chosen'
      cases chosen'
      rw [keeperHashed] at hashed'
      cases hashed'
      rw [picked] at picked'
      exact apart' (Option.some.inj picked')
  refine ⟨?_, ?_⟩
  · intro before operation source reached found
    have inside : ∀ other ∈ before ++ [operation], other ∈ operations :=
      fun other member => reached.1.subset member
    obtain ⟨keeper, content, modified, stamped, named, apart, resolved, sourceFile, keeperFile,
        _, spared⟩ :=
      keeps (inside operation (by simp)) found
    exact ⟨keeper, keeper, content, modified, stamped, named, resolved, apart, sourceFile,
      keeperFile, fun earlier member => spared earlier (inside earlier (by simp [member]))⟩
  · intro before operation source content modified reached found present _
    obtain ⟨keeper, bytes, stamp, stamped, _, _, _, sourceFile, keeperFile, walked, spared⟩ :=
      keeps (reached.1.subset (by simp)) found
    rw [present] at sourceFile
    cases sourceFile
    refine ⟨keeper, stamped, keeperFile, fun bin inside => ?_, fun others other arrived => ?_⟩
    · rw [← trashPlaces_sameLinks undisturbed.links] at inside
      exact outside keeper walked bin inside
    · exact spared other (arrived.1.subset (by simp))

/-- No removal of `execute_plan` is the last. -/
def RemovesNoLast (machine : Machine) (faults : Nat → Faults) (organiser : FileOrganiserConfig)
    (forceDelete : Bool) (home : Option Path) (operations : List FileOperation)
    (began : Tree) : Prop :=
  ∀ execution, preparePlan machine organiser forceDelete home operations began = some execution →
    Throughout (turn execution faults) (keeperThere execution faults) began operations.zipIdx ∧
      CopiesRemain execution began
        (executePlan machine faults organiser forceDelete home operations began).2

theorem removesNoLast_iff {faults : Nat → Faults} {organiser : FileOrganiserConfig}
    {forceDelete : Bool} {home : Option Path} {operations : List FileOperation} {execution : Execution}
    (prepared : preparePlan machine organiser forceDelete home operations began = some execution) :
    RemovesNoLast machine faults organiser forceDelete home operations began ↔
      KeepsCopies execution faults operations began := by
  simp only [RemovesNoLast, KeepsCopies, executePlan, prepared, Option.some.injEq, forall_eq']

/-- Cleaning duplicates keeps a copy of everything, whatever fails, if and only if the keepers stand
when execution begins; they do where nothing that the manifest names was touched. -/
theorem duplicates_keep_a_copy (machine : Machine) (reading : Reading)
    (organiser : FileOrganiserConfig) (excludedRoots : List Path) (given : Option Text)
    (forceDelete : Bool) (home : Option Path) {planned began : Tree}
    {operations : List FileOperation} {execution : Execution}
    (plan : planDuplicateCleanup machine reading organiser excludedRoots given planned =
    .ok operations)
    (prepared : preparePlan machine organiser forceDelete home operations began = some execution) :
    (TrashSettled execution operations began →
      (KeepersStand execution operations began →
        ∀ faults, RemovesNoLast machine faults organiser forceDelete home operations began) ∧
      (TrashThere machine.steps began execution.trashRoot →
        (∀ faults, RemovesNoLast machine faults organiser forceDelete home operations began) →
        KeepersStand execution operations began)) ∧
    (Undisturbed operations planned began → (∀ entry ∈ planned.keys, entry.length ≤ machine.steps) →
      Telling reading planned →
      (∀ place ∈ walkedFrom machine reading organiser excludedRoots planned execution.root,
        Untrashed execution planned place) → KeepersStand execution operations began) := by
  have removals : ∀ operation ∈ operations, operation.action = text "trash" ∧
      operation.status = .planned := by
    intro operation member
    obtain ⟨strategy, root, _, _, digest, keeper, path, rfl, _⟩ := planned_removal plan member
    exact ⟨rfl, rfl⟩
  have run : execution.machine = machine := by
    simp only [preparePlan, Option.bind_eq_bind, Option.bind_eq_some_iff, Option.some.injEq]
      at prepared
    obtain ⟨root, _, place, _, _, _, rfl⟩ := prepared
    rfl
  simp only [removesNoLast_iff prepared]
  refine ⟨fun settled => ⟨fun stands faults => stands.keepsCopies settled removals,
    fun there keeps => ?_⟩, ?_⟩
  · rw [← run] at there
    exact KeepersStand.of_keepsCopies settled there removals keeps
  · exact planned_stands plan prepared

theorem keeperThere_file {execution : Execution} {faults : Nat → Faults} {before : Tree}
    {item : FileOperation × Nat} (there : keeperThere execution faults before item)
    (done : (executeOperation execution (faults item.2) item.1 before).1.any fun reported =>
      reported.status = .done) :
    ∃ keep keeper, item.1.keepPath = some keep ∧
      resolveWithin execution.machine before execution.root keep = .within keeper ∧
      (before.get? keeper).any Node.isFile = true := by
  cases ran : executeOperation execution (faults item.2) item.1 before with
  | mk result after =>
    rw [ran] at done
    cases result with
    | none => simp at done
    | some reported =>
      obtain ⟨keep, keeper, _, content, _, stamped, named, resolved, _, _, present⟩ :=
        there reported after ran (by simpa using done)
      exact ⟨keep, keeper, named, resolved, by simp [present, Node.isFile]⟩

/-! Two copies of one photograph; the newer one is deleted between planning and execution. -/

def oneDisk : Machine := { twoDisks with device := fun _ => 0 }

def photo (modified : ℚ) : Node := .file (List.replicate 1024 0) modified

def photoTree : Tree := Dict.ofEntries [
  ([], .directory), (path ["home"], .directory), (path ["home", "old"], .directory),
  (path ["home", "a.jpg"], photo 2), (path ["home", "old", "a.jpg"], photo 1)]

/-- The digest is that of `1024` and the bytes of the photograph. -/
def photoReading : Reading :=
  ⟨fun _ => text "663fe09cec1df81b50e0ad0534cf0055", fun _ => true, fun _ => true, fun _ => true,
    fun _ => true⟩

def photoPlan : List FileOperation :=
  [removal .newest (path ["home", "a.jpg"]) (path ["home", "old", "a.jpg"])]

theorem photoPlan_planned :
    planDuplicateCleanup oneDisk photoReading homeOrganiser [] none photoTree = .ok photoPlan := by
  decide +kernel

def photoExecution : Execution :=
  ⟨oneDisk, path ["home"], path ["home", ".local", "share", "Trash"], false⟩

theorem photoExecution_prepared (tree : Tree)
    (rooted : realPath 8 tree (path ["home"]) = some (path ["home"])) :
    preparePlan oneDisk homeOrganiser false none photoPlan tree = some photoExecution := by
  have retained : retainsOne photoPlan = true := by decide
  simp [preparePlan, homeOrganiser, oneDisk, twoDisks, rooted, retained, photoExecution,
    trashRootFor, guard]
  decide

theorem last_photo_trashed :
    planDuplicateCleanup oneDisk photoReading homeOrganiser [] none photoTree = .ok photoPlan ∧
    ¬ RemovesNoLast oneDisk (fun _ _ => none) homeOrganiser false none photoPlan
      (photoTree.erase (path ["home", "a.jpg"])) := by
  refine ⟨photoPlan_planned, fun kept => ?_⟩
  have here := (kept photoExecution (photoExecution_prepared _ (by decide))).1.1
  obtain ⟨keep, keeper, named, resolved, filed⟩ := keeperThere_file here (by decide)
  cases named
  have itself : resolveWithin oneDisk (photoTree.erase (path ["home", "a.jpg"])) (path ["home"])
      (path ["home", "a.jpg"]) = .within (path ["home", "a.jpg"]) := by decide
  have same := itself.symm.trans resolved
  cases same
  exact absurd filed (by decide)

/-! The same photographs with a trash, in which a link to the newer one lies; a third is saved
between planning and execution. -/

def trashedLink : Path := path ["home", ".local", "share", "Trash", "files", "a.jpg"]

def linkedTree : Tree := Dict.ofEntries (photoTree.entries ++ [
  (path ["home", ".local"], .directory), (path ["home", ".local", "share"], .directory),
  (path ["home", ".local", "share", "Trash"], .directory),
  (path ["home", ".local", "share", "Trash", "files"], .directory),
  (path ["home", ".local", "share", "Trash", "info"], .directory),
  (trashedLink, .link true [text "home", text "a.jpg"])])

def savedTree : Tree := linkedTree.set (path ["home", "b.jpg"]) (photo 3)

theorem photoPlan_linked :
    planDuplicateCleanup oneDisk photoReading homeOrganiser [] none linkedTree = .ok photoPlan := by
  decide +kernel

theorem linkedTree_file {place : Path} {content : Bytes} {modified : ℚ}
    (found : linkedTree.get? place = some (.file content modified)) :
    content = List.replicate 1024 0 := by
  have all : linkedTree.entries.all
      (fun entry => entry.2 = photo 1 ∨ entry.2 = photo 2 ∨ entry.2.isFile = false) = true := by
        decide +kernel
  rcases of_decide_eq_true (List.all_eq_true.mp all _ (Dict.get?_eq_some.mp found)) with older
    | newer | other
  · exact (Node.file.inj older).1
  · exact (Node.file.inj newer).1
  · cases other

theorem savedTree_undisturbed : Undisturbed photoPlan linkedTree savedTree where
  links := by
    refine SameLinks.of_change fun place => ?_
    by_cases saved : path ["home", "b.jpg"] = place
    · subst saved
      refine Or.inr ⟨fun node found => ?_, fun node found => ?_⟩
      · have absent : linkedTree.get? (path ["home", "b.jpg"]) = none := by decide
        rw [absent] at found
        contradiction
      · rw [savedTree, Dict.get?_set_self] at found
        cases found
        rfl
    · exact Or.inl (Dict.get?_set_other linkedTree (photo 3) saved).symm
  sources := by
    intro operation member node found
    rw [List.mem_singleton.mp member] at found ⊢
    rw [savedTree, Dict.get?_set_other _ _ (by decide)] at found
    exact found
  keepers := by
    intro operation member keep named
    rw [List.mem_singleton.mp member] at named
    cases named
    exact Dict.get?_set_other _ _ (by decide)

theorem savedTree_settled : TrashSettled photoExecution photoPlan savedTree where
  links := by
    intro place absolute target found _
    have one : savedTree.entries.all (fun entry => !entry.2.isLink || entry.1 = trashedLink) =
        true := by decide
    have here : place = trashedLink := by
      simpa [Node.isLink] using List.all_eq_true.mp one _ (Dict.get?_eq_some.mp found)
    subst here
    refine ⟨path ["home", "a.jpg"], by decide, by decide, fun operation member => ?_⟩
    rw [List.mem_singleton.mp member]
    decide
  sources := by
    intro operation member source resolved inside
    rw [List.mem_singleton.mp member] at resolved
    have itself : resolveWithin oneDisk savedTree (path ["home"]) (path ["home", "old", "a.jpg"]) =
        .within (path ["home", "old", "a.jpg"]) := by decide
    have same := itself.symm.trans resolved
    cases same
    exact absurd inside (by decide)
  once := List.pairwise_singleton _ _

theorem photo_kept :
    TrashThere 8 savedTree photoExecution.trashRoot ∧ KeepersStand photoExecution photoPlan savedTree ∧
      ∀ faults, RemovesNoLast oneDisk faults homeOrganiser false none photoPlan savedTree := by
  have shallow : linkedTree.keys.all (fun place => place.length ≤ 8) = true := by decide
  have walked : (walkedFrom oneDisk photoReading homeOrganiser [] linkedTree (path ["home"])).all
      (fun place =>
      (trashPlaces 8 linkedTree (path ["home", ".local", "share", "Trash"])).all
        fun bin => !bin.isSuffixOf place) = true := by
    decide
  obtain ⟨exact_keepers, undisturbed_stands⟩ :=
    duplicates_keep_a_copy oneDisk photoReading homeOrganiser [] none false
    none photoPlan_linked (photoExecution_prepared savedTree (by decide))
  have stands : KeepersStand photoExecution photoPlan savedTree := by
    refine undisturbed_stands savedTree_undisturbed ?_ ?_ ?_
    · intro place member
      exact of_decide_eq_true (List.all_eq_true.mp shallow place member)
    · intro left right content modified other stamped digest leftFile rightFile _ _
      rw [linkedTree_file leftFile, linkedTree_file rightFile]
    · intro place member bin inside below
      have away := List.all_eq_true.mp (List.all_eq_true.mp walked place member) bin inside
      rw [List.isSuffixOf_iff_suffix.mpr below] at away
      contradiction
  exact ⟨⟨by decide, by decide⟩, stands, (exact_keepers savedTree_settled).1 stands⟩

end SysadminAssistant.Files
