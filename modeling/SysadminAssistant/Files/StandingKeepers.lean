import SysadminAssistant.Files.RemovalFrames

namespace SysadminAssistant.Files

open Python Library

/-! A removal that no call fails, and one whose every call fails. -/

section Removals

variable {machine : Machine} {tree : Tree} {trashRoot : Path}

/-- Both directories of the trash are there. -/
structure TrashThere (steps : Nat) (tree : Tree) (trashRoot : Path) : Prop where
  files : isDir steps tree (text "files" :: trashRoot) = true
  info : isDir steps tree (text "info" :: trashRoot) = true

/-- No call fails. -/
def unhindered : Faults := fun _ => none

/-- Every call fails. -/
def hindered : Faults := fun _ => some ⟨.other 5, 0⟩

section Directories

theorem follow_append {steps : Nat} {place found : Path} {early late : List Text}
    (led : follow tree steps place (early ++ late) = some found) :
    ∃ middle rest, rest ≤ steps ∧ follow tree steps place early = some middle ∧
      follow tree rest middle late = some found := by
  induction steps generalizing place early with
  | zero =>
    cases early with
    | nil => exact ⟨place, 0, Nat.le_refl 0, rfl, led⟩
    | cons name rest => simp [follow] at led
  | succ steps ih =>
    cases early with
    | nil => exact ⟨place, steps + 1, Nat.le_refl _, rfl, led⟩
    | cons name rest =>
      simp only [List.cons_append, follow] at led ⊢
      by_cases up : name = parent
      · rw [if_pos up] at led ⊢
        obtain ⟨middle, left, fewer, early, late⟩ := ih led
        exact ⟨middle, left, by omega, early, late⟩
      · rw [if_neg up] at led ⊢
        cases found : tree.get? (name :: place) with
        | none =>
          rw [found] at led
          obtain ⟨middle, left, fewer, early, late⟩ := ih led
          exact ⟨middle, left, by omega, early, late⟩
        | some node =>
          rw [found] at led
          cases node with
          | link absolute target =>
            simp only [← List.append_assoc] at led
            obtain ⟨middle, left, fewer, early, late⟩ := ih led
            exact ⟨middle, left, by omega, early, late⟩
          | _ =>
            obtain ⟨middle, left, fewer, early, late⟩ := ih led
            exact ⟨middle, left, by omega, early, late⟩

theorem entry_of_isDir {steps : Nat} {path place : Path} (directory : isDir steps tree path = true)
    (entered : entryOf steps tree path = some place) : (tree.get? place).isSome = true := by
  obtain ⟨found, led, here⟩ := (Option.any_eq_true _ _).mp directory
  rw [decide_eq_true_eq] at here
  cases path with
  | nil =>
    simp only [realPath, List.reverse_nil] at led
    simp only [entryOf, Option.some.injEq] at entered
    cases steps <;> simp_all [follow]
  | cons name above =>
    simp only [entryOf, Option.map_eq_some_iff] at entered
    obtain ⟨middle, leads, shape⟩ := entered
    rw [realPath, List.reverse_cons] at led
    obtain ⟨there, rest, _, early, late⟩ := follow_append led
    have same := early.symm.trans leads
    cases same
    cases rest with
    | zero => simp [follow] at late
    | succ rest =>
      simp only [follow] at late
      by_cases up : name = parent
      · rw [if_pos up] at late shape
        cases rest <;> simp_all
      · rw [if_neg up] at late shape
        subst shape
        cases entry : tree.get? (name :: middle) with
        | some node => simp
        | none =>
          have same : name :: middle = found := by simpa [entry] using late
          rw [same, here] at entry
          cases entry

theorem mkdir_there {faults : Faults} {path : Path} (attempt : Nat)
    (directory : isDir machine.steps tree path = true)
    (passes : ∀ call fault, faults call = some fault → fault.errno ≠ .enoent) :
    ∃ errno, mkdir machine faults path attempt tree = (.error errno, tree) ∧ errno ≠ .enoent := by
  simp only [mkdir, Sys.bind_apply]
  cases faulty : faults (.mkdir path attempt) with
  | some fault => exact ⟨fault.errno, rfl, passes _ _ faulty⟩
  | none =>
    simp only [Sys.guard_none, Sys.get_apply]
    cases entered : entryOf machine.steps tree path with
    | none => exact ⟨.eloop, rfl, by decide⟩
    | some place =>
      obtain ⟨node, found⟩ := Option.isSome_iff_exists.mp (entry_of_isDir directory entered)
      exact ⟨.eexist, by simp [refusal, found, Sys.raise_apply], by decide⟩

theorem makeDirs_there {faults : Faults} {path : Path} (attempt : Nat)
    (directory : isDir machine.steps tree path = true)
    (passes : ∀ call fault, faults call = some fault → fault.errno ≠ .enoent) :
    makeDirs machine faults attempt path tree = (.ok (), tree) := by
  have once : makeDir machine faults path attempt tree = (.ok (), tree) := by
    obtain ⟨errno, made, other⟩ := @mkdir_there machine tree faults path attempt directory passes
    simp [makeDir, Sys.bind_apply, Sys.attempt_apply, Sys.get_apply, made, other, directory,
      Sys.pure_apply]
  cases path with
  | nil => exact once
  | cons name above => simp [makeDirs, Sys.bind_apply, Sys.attempt_apply, once, Sys.pure_apply]

theorem makeDirs_hindered (path : Path) (attempt : Nat) (tree : Tree) :
    (makeDirs machine hindered attempt path tree).2 = tree := by
  have once : ∀ path attempt, (makeDir machine hindered path attempt tree).1 ≠ .error .enoent ∧
      (makeDir machine hindered path attempt tree).2 = tree := by
    intro path attempt
    have failed : mkdir machine hindered path attempt tree = (.error (.other 5), tree) := rfl
    simp only [makeDir, Sys.bind_apply, Sys.attempt_apply, Sys.get_apply, failed]
    cases isDir machine.steps tree path <;> simp [Sys.pure_apply, Sys.raise_apply]
  cases path with
  | nil => exact (once [] attempt).2
  | cons name above =>
    obtain ⟨other, same⟩ := once (name :: above) attempt
    simp only [makeDirs, Sys.bind_apply, Sys.attempt_apply]
    cases result : (makeDir machine hindered (name :: above) attempt tree).1 with
    | ok => exact same
    | error errno =>
      cases errno with
      | enoent => exact absurd result other
      | _ => exact same

end Directories

variable {source : Path} {content : Bytes} {modified : ℚ}

theorem unhindered_passes (call : Call) (fault : Fault) (faulty : unhindered call = some fault) :
    fault.errno ≠ .enoent := by
  cases faulty

theorem sendToTrash_unhindered (present : tree.get? source = some (.file content modified))
    (live : NoneDangling machine.steps tree trashRoot)
    (there : TrashThere machine.steps tree trashRoot)
    (near : ∀ files, realPath machine.steps tree (text "files" :: trashRoot) = some files →
      machine.device files = machine.device source) :
    ∃ destination after, sendToTrash machine unhindered source trashRoot tree =
      (.ok destination, after) ∧ after.get? source = none := by
  obtain ⟨files, filesAt, filesThere⟩ := (Option.any_eq_true _ _).mp there.files
  obtain ⟨info, infoAt, infoThere⟩ := (Option.any_eq_true _ _).mp there.info
  rw [decide_eq_true_eq] at filesThere infoThere
  obtain ⟨name, named⟩ := freeName_answers machine tree files info (source.headD [])
  have free := (freeName_some named).2
  rw [nameTaken, Bool.or_eq_false_iff] at free
  have filesVacant := @NoneDangling.vacant machine tree trashRoot (name :: files) live
    (by simp [trashPlaces, filesAt]) free.1
  have infoVacant := @NoneDangling.vacant machine tree trashRoot (infoName name :: info) live
    (by simp [trashPlaces, infoAt]) free.2
  obtain ⟨written, shape⟩ : ∃ written, written =
      tree.set (infoName name :: info) (.file (trashInfo machine source) machine.now) := ⟨_, rfl⟩
  have wrote : writeInfo machine unhindered (infoName name :: info)
      (trashInfo machine source) tree = (.ok (), written) := by
    simp [writeInfo, unhindered, Sys.bind_apply, Sys.guard_none, Sys.get_apply, openedAt,
      infoVacant, refusal, infoThere, Sys.put_apply, shape]
  have kept : ∀ {place node}, tree.get? place = some node → written.get? place = some node := by
    intro place node found
    rw [shape, Dict.get?_set_other _ _ ?_, found]
    intro same
    rw [same, found] at infoVacant
    contradiction
  have apart : source ≠ name :: files := by
    intro same
    rw [← same, present] at filesVacant
    contradiction
  have plain : written.get? (name :: files) ≠ some .directory := by
    rw [shape, Dict.get?_set]
    split
    · simp
    · simp [filesVacant]
  have passes : renameFails machine unhindered source (name :: files) = none := by
    simp [renameFails, unhindered, near files filesAt]
  have renamed := rename_file passes (kept present) (kept filesThere) plain apart
  have sent : sendToTrash machine unhindered source trashRoot tree =
      (.ok (name :: text "files" :: trashRoot), (written.erase source).set (name :: files)
      (.file content modified)) := by
    simp only [sendToTrash, Sys.bind_apply, makeDirs_there _ there.files unhindered_passes,
      makeDirs_there _ there.info unhindered_passes, Sys.get_apply, filesAt, infoAt, named, wrote,
      Sys.attempt_apply, renamed, Sys.pure_apply]
  exact ⟨_, _, sent, by rw [Dict.get?_set_other _ _ (Ne.symm apart), Dict.get?_erase, if_pos rfl]⟩

theorem executeOperation_unhindered {execution : Execution} {operation : FileOperation}
    (trashing : operation.action = text "trash")
    (live : NoneDangling execution.machine.steps tree execution.trashRoot)
    (there : TrashThere execution.machine.steps tree execution.trashRoot)
    (found : removes execution tree operation = some source) :
    ∃ reported after, executeOperation execution unhindered operation tree =
      (some reported, after) ∧ reported.status = .done ∧ after.get? source = none := by
  obtain ⟨checked, allowed⟩ := removes_iff.mp found
  obtain ⟨planned, resolved, plain, filed⟩ := removable_iff.mp checked
  obtain ⟨content, modified, present⟩ := any_isFile filed
  have still : operation.action ≠ text "move" := by
    rw [trashing]
    decide
  simp only [executeOperation, planned, ne_eq, not_true_eq_false, if_false, resolved, plain,
    statAt_of_real (within_real resolved).2.1, filed, Bool.not_true, Bool.false_eq_true,
    if_neg still, if_pos trashing]
  obtain ⟨files, filesAt, _⟩ := (Option.any_eq_true _ _).mp there.files
  have answered : trashIsUsable execution.machine unhindered source execution.trashRoot tree =
      (.ok (decide (execution.machine.device files = execution.machine.device source)), tree) := by
    simp [trashIsUsable, Sys.bind_apply, Sys.attempt_apply,
      makeDirs_there _ there.files unhindered_passes, Sys.get_apply, unhindered, filesAt,
      Sys.pure_apply]
  by_cases near : execution.machine.device files = execution.machine.device source
  · obtain ⟨destination, after, sent, gone⟩ :=
      sendToTrash_unhindered present live there fun other led => by
      rw [filesAt] at led
      cases led
      exact near
    refine ⟨{ operation with destination := some destination, status := .done }, after, ?_, rfl, gone⟩
    simp [executeTrash, Sys.bind_apply, answered, near, sent, Sys.pure_apply]
  · have permanent : execution.permanentAllowed = true := by
      simpa [disposable, filesAt, near] using allowed
    have carried : executeTrash execution.machine unhindered execution.trashRoot
        execution.permanentAllowed operation source tree = (.ok (some { operation with
          action := text "delete"
          destination := none
          status := .done
          reason := some (text "permanently deleted (trash unavailable, delete forced)") }),
            tree.erase source) := by
      simp [executeTrash, Sys.bind_apply, answered, near, permanent, unhindered, Sys.guard_none,
        Sys.remove_apply, Sys.pure_apply]
    rw [carried]
    exact ⟨_, _, rfl, rfl, by rw [Dict.get?_erase, if_pos rfl]⟩

theorem executeOperation_hindered {execution : Execution} {operation : FileOperation}
    (trashing : operation.action = text "trash")
    (leads : resolveWithin execution.machine tree execution.root operation.source ≠ .loops) :
    ∃ reported, executeOperation execution hindered operation tree = (some reported, tree) := by
  simp only [executeOperation]
  split
  · exact ⟨_, rfl⟩
  · cases resolved : resolveWithin execution.machine tree execution.root operation.source with
    | loops => exact absurd resolved leads
    | escapes => exact ⟨_, rfl⟩
    | within source =>
      dsimp only
      split
      · exact ⟨_, rfl⟩
      · split
        · exact ⟨_, rfl⟩
        · have same :=
            @makeDirs_hindered execution.machine (text "files" :: execution.trashRoot) 0 tree
          have answered : trashIsUsable execution.machine hindered source
              execution.trashRoot tree = (.ok false, tree) := by
            simp only [trashIsUsable, Sys.bind_apply, Sys.attempt_apply, same]
            cases (makeDirs execution.machine hindered 0 (text "files" :: execution.trashRoot)
              tree).1 <;> rfl
          have other : text "trash" ≠ text "move" := by decide
          simp only [trashing, if_neg other, executeTrash, Sys.bind_apply, answered]
          cases execution.permanentAllowed <;> exact ⟨_, rfl⟩

end Removals

/-! A manifest of duplicates removes no last copy when, as execution begins, every keeper that it
counts on is there. -/

/-- Not in the trash. -/
def Untrashed (execution : Execution) (tree : Tree) (place : Path) : Prop :=
  ∀ bin ∈ trashPlaces execution.machine.steps tree execution.trashRoot, ¬ bin <:+ place

/-- If the file of an operation goes, its keeper is another one there, with the bytes of the file. -/
def keeperThere (execution : Execution) (faults : Nat → Faults) (before : Tree)
    (item : FileOperation × Nat) : Prop :=
  ∀ reported after, executeOperation execution (faults item.2) item.1 before = (some reported, after) →
    reported.status = .done → ∃ keep keeper source content modified stamped,
      item.1.keepPath = some keep ∧
      resolveWithin execution.machine before execution.root keep = .within keeper ∧
      resolveWithin execution.machine before execution.root item.1.source = .within source ∧
        keeper ≠ source ∧
      before.get? source = some (.file content modified) ∧
        before.get? keeper = some (.file content stamped)

/-- Every content that has a copy outside the trash still has one. -/
def CopiesRemain (execution : Execution) (before after : Tree) : Prop :=
  ∀ place content modified, before.get? place = some (.file content modified) →
    Untrashed execution before place →
    ∃ copy stamped, after.get? copy = some (.file content stamped) ∧ Untrashed execution before copy

/-- No removal of the manifest is the last. -/
def KeepsCopies (execution : Execution) (faults : Nat → Faults) (operations : List FileOperation)
    (began : Tree) : Prop :=
  Throughout (turn execution faults) (keeperThere execution faults) began operations.zipIdx ∧
    CopiesRemain execution began (executeFrom execution faults 0 operations began).2

/-- The loop comes to an operation when no path before it is a loop of links. -/
def Reached (execution : Execution) (tree : Tree) (operations before : List FileOperation)
    (operation : FileOperation) : Prop :=
  before ++ [operation] <+: operations ∧ ∀ earlier ∈ before,
    resolveWithin execution.machine tree execution.root earlier.source ≠ .loops

/-- The keepers that the manifest counts on are there when execution begins. -/
structure KeepersStand (execution : Execution) (operations : List FileOperation) (tree : Tree) :
    Prop where
  kept : ∀ before operation source, Reached execution tree operations before operation →
    removes execution tree operation = some source →
    ∃ keep keeper content modified stamped, operation.keepPath = some keep ∧
      resolveWithin execution.machine tree execution.root keep = .within keeper ∧ keeper ≠ source ∧
      tree.get? source = some (.file content modified) ∧
        tree.get? keeper = some (.file content stamped) ∧
      ∀ earlier ∈ before, removes execution tree earlier ≠ some keeper
  spared : ∀ before operation source content modified,
    Reached execution tree operations before operation →
    removes execution tree operation = some source → tree.get? source = some (.file content modified) →
    Untrashed execution tree source → ∃ copy stamped, tree.get? copy = some (.file content stamped) ∧
      Untrashed execution tree copy ∧ ∀ others other,
        Reached execution tree operations others other → removes execution tree other ≠ some copy

/-- In the trash no link dangles, or comes to when the manifest is carried out; what the manifest
would remove there is there, and has one operation. -/
structure TrashSettled (execution : Execution) (operations : List FileOperation) (tree : Tree) :
    Prop where
  links : ∀ place absolute target, tree.get? place = some (.link absolute target) →
    place.tail ∈ trashPlaces execution.machine.steps tree execution.trashRoot →
    ∃ there, openedAt execution.machine.steps tree place = some there ∧
      (tree.get? there).isSome = true ∧
      ∀ operation ∈ operations, removes execution tree operation ≠ some there
  sources : ∀ operation ∈ operations, ∀ source,
    resolveWithin execution.machine tree execution.root operation.source = .within source →
    source.tail ∈ trashPlaces execution.machine.steps tree execution.trashRoot →
      (tree.get? source).isSome = true
  once : operations.Pairwise fun earlier later => ∀ source,
    resolveWithin execution.machine tree execution.root earlier.source = .within source →
    resolveWithin execution.machine tree execution.root later.source = .within source →
      source.tail ∉ trashPlaces execution.machine.steps tree execution.trashRoot

/-- No path is a loop of links. -/
def Straight (execution : Execution) (tree : Tree) (operations : List FileOperation) : Prop :=
  ∀ operation ∈ operations,
    resolveWithin execution.machine tree execution.root operation.source ≠ .loops

section Run

variable {execution : Execution} {faults : Nat → Faults} {operations done : List FileOperation}
  {began tree : Tree}

/-- What is true once `done` had its turns. -/
structure Since (execution : Execution) (done : List FileOperation) (began tree : Tree) : Prop where
  links : SameLinks began tree
  files : ∀ place node, tree.get? place = some node → node.isFile = true →
    began.get? place = some node ∨
    (place.tail ∈ trashPlaces execution.machine.steps began execution.trashRoot ∧
      (began.get? place = none ∨ ∃ operation ∈ done, removes execution began operation = some place))
  kept : ∀ place node, began.get? place = some node →
    tree.get? place = some node ∨ ∃ operation ∈ done, removes execution began operation = some place

theorem Since.refl (execution : Execution) (tree : Tree) : Since execution [] tree tree :=
  ⟨SameLinks.refl tree, fun _ _ found _ => Or.inl found, fun _ _ found => Or.inl found⟩

theorem removes_sameLinks {before after : Tree} {operation : FileOperation} {source : Path}
    (same : SameLinks before after) (filed : (after.get? source).any Node.isFile = true)
    (found : removes execution before operation = some source) :
    removes execution after operation = some source := by
  obtain ⟨checked, allowed⟩ := removes_iff.mp found
  obtain ⟨planned, resolved, plain, _⟩ := removable_iff.mp checked
  rw [resolveWithin_sameLinks same] at resolved
  rw [isSymlink_sameLinks same] at plain
  rw [disposable_sameLinks same] at allowed
  exact removes_iff.mpr ⟨removable_iff.mpr ⟨planned, resolved, plain, filed⟩, allowed⟩

theorem removes_resolved {operation : FileOperation} {source : Path}
    (found : removes execution tree operation = some source) :
    resolveWithin execution.machine tree execution.root operation.source = .within source ∧
      ∃ content modified, tree.get? source = some (.file content modified) := by
  obtain ⟨_, resolved, _, filed⟩ := removable_iff.mp (removes_iff.mp found).1
  exact ⟨resolved, any_isFile filed⟩

theorem Since.wasRemoved {operation : FileOperation} {rest : List FileOperation} {source : Path}
    (since : Since execution done began tree) (settled : TrashSettled execution operations began)
    (turns : operations = done ++ operation :: rest)
    (found : removes execution tree operation = some source) :
    removes execution began operation = some source ∧ began.get? source = tree.get? source := by
  obtain ⟨resolved, content, modified, present⟩ := removes_resolved found
  rw [← resolveWithin_sameLinks since.links] at resolved
  have former : began.get? source = some (.file content modified) := by
    rcases since.files source _ present rfl with same | ⟨trashed, absent | ⟨earlier, before, taken⟩⟩
    · exact same
    · have standing := settled.sources operation (by simp [turns]) source resolved trashed
      simp [absent] at standing
    · have once := settled.once
      rw [turns, List.pairwise_append] at once
      exact absurd trashed (once.2.2 earlier before operation List.mem_cons_self source
        (removes_resolved taken).1 resolved)
  exact ⟨removes_sameLinks since.links.symm (by simp [former, Node.isFile]) found,
    by rw [former, present]⟩

theorem Since.live {rest : List FileOperation} (since : Since execution done began tree)
    (settled : TrashSettled execution operations began) (turns : operations = done ++ rest) :
    NoneDangling execution.machine.steps tree execution.trashRoot := by
  intro place node found inside
  rw [← trashPlaces_sameLinks since.links] at inside
  cases place with
  | nil => simp [existsAt, statAt, found]
  | cons name directory =>
    cases node with
    | link absolute target =>
      have former := (since.links _ _ rfl).mpr found
      obtain ⟨there, opened, standing, spared⟩ := settled.links _ absolute target former inside
      obtain ⟨shown, here⟩ := Option.isSome_iff_exists.mp standing
      simp only [openedAt, former, List.tail_cons, follow_sameLinks since.links] at opened
      rcases since.kept there shown here with still | ⟨operation, member, taken⟩
      · simp [existsAt, statAt, found, opened, still]
      · exact absurd taken (spared operation (by simp [turns, member]))
    | _ => simp [existsAt, statAt, found]

theorem Since.step {operation : FileOperation} {rest : List FileOperation} {index : Nat}
    (since : Since execution done began tree) (settled : TrashSettled execution operations began)
    (turns : operations = done ++ operation :: rest) (trashing : operation.action = text "trash") :
    Since execution (done ++ [operation]) began
      (executeOperation execution (faults index) operation tree).2 := by
  have frames := @executeOperation_frames (faults index) execution operation tree trashing
    (since.live settled turns)
  rw [← trashPlaces_sameLinks since.links] at frames
  have taken : ∀ {place}, removes execution tree operation = some place →
      removes execution began operation = some place :=
        fun found => (since.wasRemoved settled turns found).1
  refine ⟨since.links.trans (frames.sameLinks ?_), ?_, ?_⟩
  · intro place node found present
    obtain ⟨_, content, modified, filed⟩ := removes_resolved found
    rw [present] at filed
    cases filed
    rfl
  · intro place node found file
    rcases frames place with same | ⟨_, gone⟩ | ⟨absent, made⟩
    · rw [same] at found
      rcases since.files place node found file with former
        | ⟨inside, vacant | ⟨earlier, member, removed⟩⟩
      · exact Or.inl former
      · exact Or.inr ⟨inside, Or.inl vacant⟩
      · exact Or.inr ⟨inside, Or.inr ⟨earlier, List.mem_append_left _ member, removed⟩⟩
    · rw [gone] at found
      contradiction
    · refine Or.inr ⟨(made node found).2 file, ?_⟩
      cases former : began.get? place with
      | none => exact Or.inl rfl
      | some old =>
        rcases since.kept place old former with still | ⟨earlier, member, removed⟩
        · rw [absent] at still
          contradiction
        · exact Or.inr ⟨earlier, List.mem_append_left _ member, removed⟩
  · intro place node present
    rcases since.kept place node present with still | ⟨earlier, member, removed⟩
    · rcases frames place with same | ⟨isTaken, _⟩ | ⟨absent, _⟩
      · exact Or.inl (by rw [same, still])
      · exact Or.inr ⟨operation, by simp, taken isTaken⟩
      · rw [still] at absent
        contradiction
    · exact Or.inr ⟨earlier, List.mem_append_left _ member, removed⟩

theorem resolved_of_returned {operation reported : FileOperation} {after : Tree} {fails : Faults}
    (planned : operation.status = .planned)
    (ran : executeOperation execution fails operation tree = (some reported, after)) :
    resolveWithin execution.machine tree execution.root operation.source ≠ .loops := by
  intro loops
  simp [executeOperation, planned, loops] at ran

theorem Since.straight {operation reported : FileOperation} {after : Tree} {fails : Faults}
    (since : Since execution done began tree) (straight : Straight execution began done)
    (planned : operation.status = .planned)
    (ran : executeOperation execution fails operation tree = (some reported, after)) :
    Straight execution began (done ++ [operation]) := by
  intro earlier member
  rcases List.mem_append.mp member with before | now
  · exact straight earlier before
  · rw [List.mem_singleton.mp now, resolveWithin_sameLinks since.links]
    exact resolved_of_returned planned ran

theorem Since.keeperFound {operation : FileOperation} {rest : List FileOperation} {index : Nat}
    (since : Since execution done began tree) (settled : TrashSettled execution operations began)
    (stands : KeepersStand execution operations began) (turns : operations = done ++ operation :: rest)
    (straight : Straight execution began done)
    (removal : operation.action = text "trash" ∧ operation.status = .planned) :
    keeperThere execution faults tree (operation, index) := by
  intro reported after ran done
  obtain ⟨source, found⟩ := removes_of_done removal.1 removal.2 done ran
  obtain ⟨before, same⟩ := since.wasRemoved settled turns found
  have reached : Reached execution began operations _ operation := ⟨⟨rest, by simp [turns]⟩, straight⟩
  obtain ⟨keep, keeper, content, modified, stamped, named, resolved, apart, sourceFile,
      keeperFile, spared⟩ :=
    stands.kept _ operation source reached before
  refine ⟨keep, keeper, source, content, modified, stamped, named, ?_, (removes_resolved found).1,
    apart, ?_, ?_⟩
  · rw [← resolveWithin_sameLinks since.links, resolved]
  · rw [← same, sourceFile]
  · rcases since.kept keeper _ keeperFile with still | ⟨earlier, inside, removed⟩
    · exact still
    · exact absurd removed (spared earlier inside)

theorem keeperThere_throughout {items : List FileOperation} {index : Nat}
    (since : Since execution done began tree) (settled : TrashSettled execution operations began)
    (stands : KeepersStand execution operations began) (turns : operations = done ++ items)
    (straight : Straight execution began done)
    (removals : ∀ operation ∈ operations, operation.action = text "trash" ∧
      operation.status = .planned) :
    Throughout (turn execution faults) (keeperThere execution faults) tree (items.zipIdx index) := by
  induction items generalizing done tree index with
  | nil => trivial
  | cons operation rest ih =>
    have removal := removals operation (by simp [turns])
    refine ⟨since.keeperFound settled stands turns straight removal, ?_⟩
    have next :=
      @Since.step execution faults operations done began tree operation rest index since
        settled turns removal.1
    simp only [turn]
    cases ran : executeOperation execution (faults index) operation tree with
    | mk result after =>
      rw [ran] at next
      cases result with
      | none => trivial
      | some reported => exact ih next (by simp [turns]) (since.straight straight removal.2 ran)

theorem executeFrom_next {operation reported : FileOperation} {rest : List FileOperation}
    {index : Nat} {after : Tree}
    (ran : executeOperation execution (faults index) operation tree = (some reported, after)) :
    (executeFrom execution faults index (operation :: rest) tree).2 =
      (executeFrom execution faults (index + 1) rest after).2 := by
  simp only [executeFrom, ran]
  cases executeFrom execution faults (index + 1) rest after with
  | mk reports last => cases reports <;> rfl

theorem executeFrom_stop {operation : FileOperation} {rest : List FileOperation} {index : Nat}
    {after : Tree}
    (ran : executeOperation execution (faults index) operation tree = (none, after)) :
    (executeFrom execution faults index (operation :: rest) tree).2 = after := by
  simp only [executeFrom, ran]

theorem executeFrom_since {items : List FileOperation} {index : Nat}
    (since : Since execution done began tree) (settled : TrashSettled execution operations began)
    (turns : operations = done ++ items)
    (straight : Straight execution began done)
    (reached : ∀ operation ∈ done, ∃ before, Reached execution began operations before operation)
    (removals : ∀ operation ∈ operations, operation.action = text "trash" ∧
      operation.status = .planned) :
    ∃ turned, Since execution turned began (executeFrom execution faults index items tree).2 ∧
      ∀ operation ∈ turned, ∃ before, Reached execution began operations before operation := by
  induction items generalizing done tree index with
  | nil => exact ⟨done, since, reached⟩
  | cons operation rest ih =>
    have removal := removals operation (by simp [turns])
    have next :=
      @Since.step execution faults operations done began tree operation rest index since
        settled turns removal.1
    have come : ∀ turned ∈ done ++ [operation], ∃ before,
        Reached execution began operations before turned := by
      intro turned member
      rcases List.mem_append.mp member with before | now
      · exact reached turned before
      · rw [List.mem_singleton.mp now]
        exact ⟨done, ⟨rest, by simp [turns]⟩, straight⟩
    cases ran : executeOperation execution (faults index) operation tree with
    | mk result after =>
      rw [ran] at next
      cases result with
      | none => exact ⟨_, by rwa [executeFrom_stop ran], come⟩
      | some reported =>
        rw [executeFrom_next ran]
        exact ih next (by simp [turns]) (since.straight straight removal.2 ran) come

theorem Since.copiesRemain (since : Since execution done began tree)
    (stands : KeepersStand execution operations began)
    (reached : ∀ operation ∈ done, ∃ before, Reached execution began operations before operation) :
    CopiesRemain execution began tree := by
  intro place content modified present outside
  rcases since.kept place _ present with still | ⟨operation, member, removed⟩
  · exact ⟨place, modified, still, outside⟩
  · obtain ⟨before, came⟩ := reached operation member
    obtain ⟨copy, stamped, copyFile, untrashed, spared⟩ :=
      stands.spared before operation place content modified came removed present outside
    rcases since.kept copy _ copyFile with still | ⟨other, inside, gone⟩
    · exact ⟨copy, stamped, still, untrashed⟩
    · obtain ⟨others, arrived⟩ := reached other inside
      exact absurd gone (spared others other arrived)

theorem KeepersStand.keepsCopies (stands : KeepersStand execution operations began)
    (settled : TrashSettled execution operations began)
    (removals : ∀ operation ∈ operations, operation.action = text "trash" ∧
      operation.status = .planned) :
    KeepsCopies execution faults operations began := by
  have start := Since.refl execution began
  refine ⟨keeperThere_throughout start settled stands rfl (List.forall_mem_nil _) removals, ?_⟩
  obtain ⟨turned, since, reached⟩ :=
    @executeFrom_since execution faults operations [] began began operations 0 start settled rfl
      (List.forall_mem_nil _) (by simp) removals
  exact since.copiesRemain stands reached

end Run

end SysadminAssistant.Files
