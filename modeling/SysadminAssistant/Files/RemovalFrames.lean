import SysadminAssistant.Files.Conservation

namespace SysadminAssistant.Files

open Python

/-! What a removal may touch: the file it removes, and the two directories of the trash. -/

variable {machine : Machine} {faults : Faults}

/-- Only `taken` is gone, and no file is new but directly in one of `bins`; no link is new. -/
def Frames (bins : List Path) (taken : Option Path) (before after : Tree) : Prop :=
  ∀ place, after.get? place = before.get? place ∨ (taken = some place ∧ after.get? place = none) ∨
    (before.get? place = none ∧ ∀ node, after.get? place = some node →
      node.isLink = false ∧ (node.isFile = true → place.tail ∈ bins))

namespace Frames

variable {bins : List Path} {taken : Option Path} {before middle after : Tree}

theorem refl (tree : Tree) : Frames bins taken tree tree := fun _ => Or.inl rfl

theorem of_adds {allowed : Path → Prop} (adds : AddsDirectories allowed before after) :
    Frames bins taken before after := by
  intro place
  rcases adds place with same | ⟨_, absent, made⟩
  · exact Or.inl same
  · refine Or.inr (Or.inr ⟨absent, fun node found => ?_⟩)
    rw [made] at found
    cases found
    exact ⟨rfl, fun file => by contradiction⟩

theorem put {place : Path} {node : Node} (frames : Frames bins taken before middle)
    (absent : before.get? place = none) (plain : node.isLink = false) (inside : place.tail ∈ bins) :
    Frames bins taken before (middle.set place node) := by
  intro other
  by_cases same : place = other
  · subst same
    refine Or.inr (Or.inr ⟨absent, fun shown found => ?_⟩)
    rw [Dict.get?_set_self] at found
    cases found
    exact ⟨plain, fun _ => inside⟩
  · rw [Dict.get?_set_other _ _ same]
    exact frames other

theorem take {place : Path} (frames : Frames bins (some place) before middle) :
    Frames bins (some place) before (middle.erase place) := by
  intro other
  rw [Dict.get?_erase]
  by_cases same : place = other
  · exact Or.inr (Or.inl ⟨congrArg some same, if_pos same⟩)
  · rw [if_neg same]
    exact frames other

theorem erase {place : Path} (frames : Frames bins taken before middle)
    (absent : before.get? place = none) : Frames bins taken before (middle.erase place) := by
  intro other
  rw [Dict.get?_erase]
  by_cases same : place = other
  · subst same
    exact Or.inl (by rw [if_pos rfl, absent])
  · rw [if_neg same]
    exact frames other

theorem after_adds {allowed : Path → Prop} (adds : AddsDirectories allowed before middle)
    (frames : Frames bins taken middle after) : Frames bins taken before after := by
  intro place
  rcases adds place with same | ⟨_, absent, made⟩
  · rw [← same]
    exact frames place
  · rcases frames place with still | ⟨isTaken, gone⟩ | ⟨free, _⟩
    · refine Or.inr (Or.inr ⟨absent, fun node found => ?_⟩)
      rw [still, made] at found
      cases found
      exact ⟨rfl, fun file => by contradiction⟩
    · exact Or.inl (by rw [gone, absent])
    · rw [made] at free
      contradiction

theorem sameLinks (frames : Frames bins taken before after)
    (plain : ∀ place node, taken = some place → before.get? place = some node → node.isLink = false) :
    SameLinks before after := by
  apply SameLinks.of_change
  intro place
  rcases frames place with same | ⟨isTaken, gone⟩ | ⟨absent, made⟩
  · exact Or.inl same.symm
  · refine Or.inr ⟨fun node found => plain place node isTaken found, fun node found => ?_⟩
    rw [gone] at found
    contradiction
  · refine Or.inr ⟨fun node found => ?_, fun node found => (made node found).1⟩
    rw [absent] at found
    contradiction

end Frames

/-- The directories of the trash, where their paths lead. -/
def trashPlaces (steps : Nat) (tree : Tree) (trashRoot : Path) : List Path :=
  (realPath steps tree (text "files" :: trashRoot)).toList ++
    (realPath steps tree (text "info" :: trashRoot)).toList

theorem trashPlaces_sameLinks {before after : Tree} (same : SameLinks before after) (steps : Nat)
    (trashRoot : Path) : trashPlaces steps before trashRoot = trashPlaces steps after trashRoot := by
  simp only [trashPlaces, realPath_sameLinks same]

theorem existsAt_grows {before after : Tree} {steps : Nat} {place : Path}
    (same : SameLinks before after) (kept : ∀ there node, before.get? there = some node →
    (after.get? there).isSome = true)
    (present : existsAt steps before place = true) : existsAt steps after place = true := by
  have entered := kept place
  cases place with
  | nil =>
    obtain ⟨node, found⟩ := Option.isSome_iff_exists.mp present
    exact entered node found
  | cons name directory =>
    cases found : before.get? (name :: directory) with
    | none => simp [existsAt, statAt, found] at present
    | some node =>
      obtain ⟨standing, still⟩ := Option.isSome_iff_exists.mp (entered node found)
      cases linked : standing.isLink with
      | true =>
        have former := (same _ standing linked).mpr still
        cases standing with
        | link absolute target =>
          simp only [existsAt, statAt, former, follow_sameLinks same] at present
          simp only [existsAt, statAt, still]
          obtain ⟨shown, led⟩ := Option.isSome_iff_exists.mp present
          obtain ⟨there, leads, here⟩ := Option.bind_eq_some_iff.mp led
          rw [leads]
          exact kept there shown here
        | _ => cases linked
      | false => cases standing <;> simp_all [existsAt, statAt, Node.isLink]

/-- No link that stands directly in the trash is dangling. -/
def NoneDangling (steps : Nat) (tree : Tree) (trashRoot : Path) : Prop :=
  ∀ place node, tree.get? place = some node → place.tail ∈ trashPlaces steps tree trashRoot →
    existsAt steps tree place = true

theorem NoneDangling.adds {allowed : Path → Prop} {before after : Tree} {steps : Nat}
    {trashRoot : Path} (live : NoneDangling steps before trashRoot)
    (adds : AddsDirectories allowed before after) :
    NoneDangling steps after trashRoot := by
  intro place node found inside
  rw [← trashPlaces_sameLinks adds.sameLinks] at inside
  rcases adds place with same | ⟨_, _, made⟩
  · rw [same] at found
    refine existsAt_grows adds.sameLinks ?_ (live place node found inside)
    intro there shown here
    simp [adds.kept here]
  · cases place <;> simp [existsAt, statAt, made]

theorem NoneDangling.vacant {tree : Tree} {trashRoot place : Path}
    (live : NoneDangling machine.steps tree trashRoot)
    (inside : place.tail ∈ trashPlaces machine.steps tree trashRoot)
    (missing : existsAt machine.steps tree place = false) : tree.get? place = none := by
  cases found : tree.get? place with
  | none => rfl
  | some node =>
    rw [live place node found inside] at missing
    contradiction

theorem record_frames {source filesDir files info trashRoot : Path} {name : Text} {made : Tree}
    {content : Bytes} {modified : ℚ} (present : made.get? source = some (.file content modified))
    (free : nameTaken machine made files info name = false)
    (live : NoneDangling machine.steps made trashRoot)
    (filesInside : files ∈ trashPlaces machine.steps made trashRoot)
    (infoInside : info ∈ trashPlaces machine.steps made trashRoot) :
    Frames (trashPlaces machine.steps made trashRoot) (some source) made
      ((do
        writeInfo machine faults (infoName name :: info) (trashInfo machine source)
        match ← Sys.attempt (rename machine faults source (name :: files)) with
        | .ok () => pure (name :: filesDir)
        | .error errno => do
          unlink (faults .unlinkInfo) (infoName name :: info)
          Sys.raise errno : Sys Path) made).2 := by
  rw [nameTaken, Bool.or_eq_false_iff] at free
  have filesVacant :=
    @NoneDangling.vacant machine made trashRoot (name :: files) live filesInside free.1
  have infoVacant :=
    @NoneDangling.vacant machine made trashRoot (infoName name :: info) live infoInside free.2
  have apart : source ≠ name :: files := by
    intro same
    rw [← same, present] at filesVacant
    contradiction
  obtain ⟨there, puts, located⟩ := @writeInfo_puts machine faults made (infoName name :: info)
    (trashInfo machine source) free.2
  have isInfo := located infoVacant
  subst isInfo
  simp only [Sys.bind_apply]
  cases wrote : writeInfo machine faults (infoName name :: info) (trashInfo machine source) made with
  | mk result written =>
    rw [wrote] at puts
    change Puts _ _ made written at puts
    have recorded : Frames (trashPlaces machine.steps made trashRoot) (some source) made written := by
      rcases puts with same | ⟨count, stamp, _, shape⟩
      · rw [same]
        exact Frames.refl made
      · rw [shape]
        exact (Frames.refl made).put infoVacant rfl infoInside
    have sourceThere : written.get? source = some (.file content modified) := by
      rcases puts with same | ⟨count, stamp, _, shape⟩
      · rw [same, present]
      · rw [shape, Dict.get?_set_other _ _ ?_, present]
        intro same
        rw [same, present] at infoVacant
        contradiction
    have plain : written.get? (name :: files) ≠ some .directory := by
      intro directory
      rcases puts with same | ⟨count, stamp, _, shape⟩
      · rw [same, filesVacant] at directory
        contradiction
      · rw [shape, Dict.get?_set] at directory
        split at directory
        · cases directory
        · rw [filesVacant] at directory
          contradiction
    cases result with
    | error errno => exact recorded
    | ok =>
      simp only [Sys.attempt_apply]
      rcases rename_outcome sourceThere plain apart with ⟨_, renamed⟩ | ⟨_, errno, renamed⟩
      · rw [renamed]
        exact recorded.take.put filesVacant rfl filesInside
      · rw [renamed]
        change Frames _ _ made ((unlink (faults .unlinkInfo) (infoName name :: info) >>= fun _ =>
          (Sys.raise errno : Sys Path)) written).2
        rw [Sys.bind_apply]
        cases faults .unlinkInfo with
        | none => exact recorded.erase infoVacant
        | some fault =>
          by_cases missing : fault.errno = .enoent
          · simp only [unlink, missing, if_true, Sys.pure_apply, Sys.raise_apply]
            exact recorded
          · simp only [unlink, if_neg missing, Sys.raise_apply]
            exact recorded

/-- Everything that `send_to_trash` does. -/
theorem sendToTrash_frames {source trashRoot : Path} {before : Tree} {content : Bytes}
    {modified : ℚ} (present : before.get? source = some (.file content modified))
    (live : NoneDangling machine.steps before trashRoot) :
    Frames (trashPlaces machine.steps before trashRoot) (some source) before
      (sendToTrash machine faults source trashRoot before).2 := by
  simp only [sendToTrash, Sys.bind_apply]
  have grown := @makeDirs_anywhere machine faults (text "files" :: trashRoot) 2 before
  cases files : makeDirs machine faults 2 (text "files" :: trashRoot) before with
  | mk result first =>
    rw [files] at grown
    cases result with
    | error errno => exact Frames.of_adds grown
    | ok =>
      dsimp only
      have again := @makeDirs_anywhere machine faults (text "info" :: trashRoot) 4 first
      cases infos : makeDirs machine faults 4 (text "info" :: trashRoot) first with
      | mk result made =>
        rw [infos] at again
        have whole := grown.trans again
        cases result with
        | error errno => exact Frames.of_adds whole
        | ok =>
          simp only [Sys.get_apply]
          cases filesAt : realPath machine.steps made (text "files" :: trashRoot) with
          | none => exact Frames.of_adds whole
          | some files =>
            cases infoAt : realPath machine.steps made (text "info" :: trashRoot) with
            | none => exact Frames.of_adds whole
            | some info =>
              dsimp only
              cases named : freeName machine made files info (source.headD [])
                  (2 * made.entries.length + 1) 0 with
              | none => exact Frames.of_adds whole
              | some name =>
                have same := whole.sameLinks
                rw [trashPlaces_sameLinks same]
                refine Frames.after_adds whole (record_frames (whole.kept present)
                  (freeName_some named).2 (live.adds whole) ?_ ?_)
                · simp [trashPlaces, filesAt]
                · simp [trashPlaces, infoAt]

theorem usable_device {source trashRoot : Path} {tree usable : Tree}
    (answered : trashIsUsable machine faults source trashRoot tree = (.ok true, usable)) :
    ∃ files, realPath machine.steps tree (text "files" :: trashRoot) = some files ∧
      machine.device files = machine.device source := by
  have adds := @makeDirs_anywhere machine faults (text "files" :: trashRoot) 0 tree
  simp only [trashIsUsable, Sys.bind_apply, Sys.attempt_apply] at answered
  cases made : makeDirs machine faults 0 (text "files" :: trashRoot) tree with
  | mk result after =>
    rw [made] at adds answered
    cases result with
    | error errno => cases answered
    | ok =>
      simp only [Sys.bind_apply, Sys.get_apply, ← realPath_sameLinks adds.sameLinks] at answered
      cases faulty : faults .device with
      | some fault =>
        rw [faulty] at answered
        cases answered
      | none =>
        rw [faulty] at answered
        cases led : realPath machine.steps tree (text "files" :: trashRoot) with
        | none =>
          rw [led] at answered
          cases answered
        | some files =>
          rw [led] at answered
          simp only [Sys.pure_apply, Prod.mk.injEq, Except.ok.injEq, decide_eq_true_eq] at answered
          exact ⟨files, rfl, answered.1⟩

/-- The trash is on the file system of the source, or a source may be deleted. -/
def disposable (machine : Machine) (trashRoot : Path) (permanentAllowed : Bool) (tree : Tree)
    (source : Path) : Bool :=
  permanentAllowed || (realPath machine.steps tree (text "files" :: trashRoot)).any fun files =>
    machine.device files = machine.device source

theorem executeTrash_frames {operation : FileOperation} {source trashRoot : Path}
    {permanentAllowed : Bool} {before : Tree} {content : Bytes} {modified : ℚ}
    (present : before.get? source = some (.file content modified))
    (live : NoneDangling machine.steps before trashRoot) :
    Frames (trashPlaces machine.steps before trashRoot)
      ((some source).filter (disposable machine trashRoot permanentAllowed before)) before
      (executeTrash machine faults trashRoot permanentAllowed operation source before).2 := by
  obtain ⟨answer, usable, answered, adds⟩ :=
    @trashIsUsable_answers machine faults source trashRoot before
  have same := adds.sameLinks
  simp only [executeTrash, Sys.bind_apply, answered]
  cases answer with
  | true =>
    obtain ⟨files, led, here⟩ := usable_device answered
    have taken : (some source).filter (disposable machine trashRoot permanentAllowed before) =
        some source := by
      simp [Option.filter, disposable, led, here]
    have sent := @sendToTrash_frames machine faults source trashRoot usable content modified
        (adds.kept present) (live.adds adds)
    rw [← trashPlaces_sameLinks same] at sent
    rw [taken]
    simp only [if_true, Sys.bind_apply]
    cases ended : sendToTrash machine faults source trashRoot usable with
    | mk result after =>
      rw [ended] at sent
      cases result <;> exact Frames.after_adds adds sent
  | false =>
    cases permanentAllowed with
    | false => exact Frames.of_adds adds
    | true =>
      have taken : (some source).filter (disposable machine trashRoot true before) = some source := by
        simp [Option.filter, disposable]
      rw [taken]
      simp only [Bool.not_true, Bool.false_eq_true, if_false, Sys.bind_apply]
      cases faults .unlink with
      | some fault => exact Frames.of_adds adds
      | none => exact (Frames.of_adds adds).take

/-- The file that an operation is about, by the checks of `execute_plan`. -/
def removable (execution : Execution) (tree : Tree) (operation : FileOperation) : Option Path :=
  if operation.status ≠ .planned then none
  else match resolveWithin execution.machine tree execution.root operation.source with
    | .within source =>
      if isSymlink execution.machine.steps tree operation.source then none
      else if (statAt execution.machine.steps tree source).any Node.isFile then some source else none
    | _ => none

/-- The file that an operation would remove. -/
def removes (execution : Execution) (tree : Tree) (operation : FileOperation) : Option Path :=
  (removable execution tree operation).filter
    (disposable execution.machine execution.trashRoot execution.permanentAllowed tree)

theorem executeOperation_frames {execution : Execution} {operation : FileOperation} {before : Tree}
    (trashing : operation.action = text "trash")
    (live : NoneDangling execution.machine.steps before execution.trashRoot) :
    Frames (trashPlaces execution.machine.steps before execution.trashRoot)
      (removes execution before operation)
      before (executeOperation execution faults operation before).2 := by
  by_cases planned : operation.status = .planned
  · simp only [executeOperation, removes, removable, planned, ne_eq, not_true_eq_false, if_false]
    cases resolved : resolveWithin execution.machine before execution.root operation.source with
    | loops => exact Frames.refl before
    | escapes => exact Frames.refl before
    | within source =>
      obtain ⟨_, real, _⟩ := within_real resolved
      dsimp only
      cases linked : isSymlink execution.machine.steps before operation.source with
      | true => exact Frames.refl before
      | false =>
        simp only [Bool.false_eq_true, if_false, statAt_of_real real]
        cases filed : (before.get? source).any Node.isFile with
        | false => exact Frames.refl before
        | true =>
          obtain ⟨content, modified, present⟩ := any_isFile filed
          have still : operation.action ≠ text "move" := by
            rw [trashing]
            decide
          simp only [Bool.not_true, Bool.false_eq_true, if_false, if_true, if_neg still,
            if_pos trashing]
          have frames :=
            @executeTrash_frames execution.machine faults operation source execution.trashRoot
            execution.permanentAllowed before content modified present live
          cases ended : executeTrash execution.machine faults execution.trashRoot
              execution.permanentAllowed operation source before with
          | mk result after =>
            rw [ended] at frames
            cases result <;> exact frames
  · simp only [executeOperation, ne_eq, planned, not_false_eq_true, if_true]
    exact Frames.refl before

theorem removable_of_done {execution : Execution} {operation reported : FileOperation}
    {before after : Tree} (planned : operation.status = .planned) (done : reported.status = .done)
    (ran : executeOperation execution faults operation before = (some reported, after)) :
    ∃ source, removable execution before operation = some source := by
  simp only [executeOperation, planned, ne_eq, not_true_eq_false, if_false] at ran
  simp only [removable, planned, ne_eq, not_true_eq_false, if_false]
  cases resolved : resolveWithin execution.machine before execution.root operation.source with
  | loops =>
    rw [resolved] at ran
    cases ran
  | escapes =>
    rw [resolved] at ran
    cases ran
    cases done
  | within source =>
    rw [resolved] at ran
    dsimp only at ran ⊢
    cases linked : isSymlink execution.machine.steps before operation.source with
    | true =>
      rw [linked] at ran
      cases ran
      cases done
    | false =>
      cases filed : (statAt execution.machine.steps before source).any Node.isFile with
      | false =>
        rw [linked, filed] at ran
        cases ran
        cases done
      | true => exact ⟨source, by simp⟩

theorem removable_iff {execution : Execution} {tree : Tree} {operation : FileOperation}
    {source : Path} :
    removable execution tree operation = some source ↔
      operation.status = .planned ∧
      resolveWithin execution.machine tree execution.root operation.source = .within source ∧
      isSymlink execution.machine.steps tree operation.source = false ∧
      (tree.get? source).any Node.isFile = true := by
  simp only [removable]
  by_cases planned : operation.status = .planned
  · simp only [planned, ne_eq, not_true_eq_false, if_false, true_and]
    cases resolved : resolveWithin execution.machine tree execution.root operation.source with
    | loops => simp
    | escapes => simp
    | within place =>
      have same := @statAt_of_real tree execution.machine.steps place (within_real resolved).2.1
      dsimp only
      rw [same]
      cases isSymlink execution.machine.steps tree operation.source with
      | true => simp
      | false =>
        cases filed : (tree.get? place).any Node.isFile with
        | false =>
          simp only [Bool.false_eq_true, if_false, Resolution.within.injEq, true_and,
            false_iff, not_and, reduceCtorEq]
          intro here
          rw [← here, filed]
          simp
        | true =>
          simp only [Bool.false_eq_true, if_false, if_true, Option.some.injEq,
            Resolution.within.injEq, true_and]
          constructor
          · intro here
            exact ⟨here, here ▸ filed⟩
          · exact fun both => both.1
  · simp [planned]

theorem removes_iff {execution : Execution} {tree : Tree} {operation : FileOperation} {source : Path} :
    removes execution tree operation = some source ↔ removable execution tree operation = some source ∧
      disposable execution.machine execution.trashRoot execution.permanentAllowed tree source =
        true := by
  rw [removes, Option.filter_eq_some_iff]

theorem removes_of_done {execution : Execution} {operation reported : FileOperation}
    {before after : Tree} (trashing : operation.action = text "trash")
    (planned : operation.status = .planned) (done : reported.status = .done)
    (ran : executeOperation execution faults operation before = (some reported, after)) :
    ∃ source, removes execution before operation = some source := by
  obtain ⟨source, found⟩ := removable_of_done planned done ran
  obtain ⟨_, resolved, plain, filed⟩ := removable_iff.mp found
  refine ⟨source, removes_iff.mpr ⟨found, ?_⟩⟩
  have still : operation.action ≠ text "move" := by
    rw [trashing]
    decide
  simp only [executeOperation, planned, ne_eq, not_true_eq_false, if_false, resolved, plain,
    statAt_of_real (within_real resolved).2.1, filed, Bool.not_true, Bool.false_eq_true,
    if_neg still, if_pos trashing] at ran
  obtain ⟨answer, usable, answered, _⟩ :=
    @trashIsUsable_answers execution.machine faults source execution.trashRoot before
  cases answer with
  | true =>
    obtain ⟨files, led, here⟩ := usable_device answered
    simp [disposable, led, here]
  | false =>
    cases allowed : execution.permanentAllowed with
    | true => simp [disposable]
    | false =>
      simp only [executeTrash, Sys.bind_apply, answered, allowed, Bool.false_eq_true, if_false,
        Bool.not_false, if_true, Sys.pure_apply, Prod.mk.injEq, Option.some.injEq] at ran
      rw [← ran.1] at done
      cases done

theorem resolveWithin_sameLinks {before after : Tree} (same : SameLinks before after)
    (root path : Path) :
    resolveWithin machine before root path = resolveWithin machine after root path := by
  simp only [resolveWithin, realPath_sameLinks same]

theorem isSymlink_sameLinks {before after : Tree} (same : SameLinks before after) (steps : Nat)
    (path : Path) : isSymlink steps before path = isSymlink steps after path := by
  have one : ∀ {first second : Tree}, SameLinks first second → isSymlink steps first path = true →
      isSymlink steps second path = true := by
    intro first second same linked
    simp only [isSymlink, entryOf_sameLinks same] at linked ⊢
    cases entered : entryOf steps second path with
    | none => simp [entered] at linked
    | some place =>
      rw [entered] at linked
      obtain ⟨node, isLink, found⟩ := any_isLink linked
      simp [(same place node isLink).mp found, isLink]
  rw [Bool.eq_iff_iff]
  exact ⟨one same, one same.symm⟩

theorem disposable_sameLinks {before after : Tree} (same : SameLinks before after)
    (trashRoot : Path) (permanentAllowed : Bool) (source : Path) :
    disposable machine trashRoot permanentAllowed before source =
      disposable machine trashRoot permanentAllowed after source := by
  simp only [disposable, realPath_sameLinks same]

end SysadminAssistant.Files
