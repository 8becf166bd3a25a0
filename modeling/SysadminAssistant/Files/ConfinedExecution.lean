import SysadminAssistant.Files.ConfinedPlans
import SysadminAssistant.Files.LastCopies

namespace SysadminAssistant.Files

open Python Library

/-! What an execution leaves alone outside the scan root. -/

/-! ## Laws that hold from each state to the next -/

structure StepLaw (law : Tree → Tree → Prop) : Prop where
  refl : ∀ tree, law tree tree
  trans : ∀ {first second third}, law first second → law second third → law first third

/-- Whatever state it starts from, and whether it raises or not, the action keeps the law. -/
def Sys.Obeys {α : Type} (law : Tree → Tree → Prop) (action : Sys α) : Prop :=
  ∀ tree, law tree (action tree).2

namespace Sys.Obeys

variable {α β : Type} {law : Tree → Tree → Prop}

theorem pure (keeps : StepLaw law) (value : α) : Sys.Obeys law (Pure.pure value : Sys α) :=
  fun tree => keeps.refl tree

theorem raise (keeps : StepLaw law) (errno : Errno) : Sys.Obeys law (Sys.raise errno : Sys α) :=
  fun tree => keeps.refl tree

theorem get (keeps : StepLaw law) : Sys.Obeys law Sys.get := fun tree => keeps.refl tree

theorem guard (keeps : StepLaw law) (fault : Option Fault) : Sys.Obeys law (Sys.guard fault) := by
  cases fault with
  | none => exact pure keeps ()
  | some fault => exact raise keeps fault.errno

theorem bind (keeps : StepLaw law) {action : Sys α} {next : α → Sys β}
    (first : Sys.Obeys law action) (later : ∀ value, Sys.Obeys law (next value)) :
    Sys.Obeys law (action >>= next) := by
  intro tree
  have start := first tree
  rw [Sys.bind_apply]
  cases ran : action tree with
  | mk result after =>
    rw [ran] at start
    cases result with
    | error errno => exact start
    | ok value => exact keeps.trans start (later value after)

theorem read {next : Tree → Sys β} (later : ∀ tree, law tree (next tree tree).2) :
    Sys.Obeys law (Sys.get >>= next) := fun tree => later tree

theorem attempt {action : Sys α} (obeys : Sys.Obeys law action) : Sys.Obeys law (Sys.attempt action) :=
  fun tree => obeys tree

end Sys.Obeys

/-! ## Moves -/

/-- Only `touched` places changed, and directories that were made. -/
def Touches (touched : Path → Prop) (before after : Tree) : Prop :=
  ∀ place, ¬ touched place → after.get? place = before.get? place ∨
    (before.get? place = none ∧ after.get? place = some .directory)

variable {machine : Machine} {faults : Faults} {touched : Path → Prop}

theorem touches_law : StepLaw (Touches touched) where
  refl := fun _ _ _ => Or.inl rfl
  trans := by
    intro first second third early late place untouched
    rcases early place untouched with same | ⟨absent, made⟩
    · rcases late place untouched with again | ⟨absent, made⟩
      · exact Or.inl (again.trans same)
      · exact Or.inr ⟨same ▸ absent, made⟩
    · rcases late place untouched with again | ⟨gone, _⟩
      · exact Or.inr ⟨absent, again.trans made⟩
      · rw [made] at gone
        contradiction

theorem makeDirs_touches (path : Path) (attempt : Nat) :
    Sys.Obeys (Touches touched) (makeDirs machine faults attempt path) := by
  intro tree place _
  rcases @makeDirs_anywhere machine faults path attempt tree place with same | ⟨_, absent, made⟩
  · exact Or.inl same
  · exact Or.inr ⟨absent, made⟩

theorem put_touches {place : Path} (allowed : touched place) (node : Node) :
    Sys.Obeys (Touches touched) (Sys.put place node) := by
  intro tree other untouched
  refine Or.inl (Dict.get?_set_other tree node fun same => untouched ?_)
  rw [← same]
  exact allowed

theorem remove_touches {place : Path} (allowed : touched place) :
    Sys.Obeys (Touches touched) (Sys.remove place) := by
  intro tree other untouched
  have apart : place ≠ other := fun same => untouched (same ▸ allowed)
  exact Or.inl (by rw [Sys.remove_apply, Dict.get?_erase, if_neg apart])

theorem unlink_touches {place : Path} (allowed : touched place) (fault : Option Fault) :
    Sys.Obeys (Touches touched) (unlink fault place) := by
  cases fault with
  | none => exact remove_touches allowed
  | some fault =>
    rw [unlink]
    split
    · exact .pure touches_law ()
    · exact .raise touches_law _

theorem openExclusive_touches {place : Path} (allowed : touched place) :
    Sys.Obeys (Touches touched) (openExclusive machine faults place) := by
  refine .bind touches_law (.guard touches_law _) fun _ =>
    .bind touches_law (.get touches_law) fun tree => ?_
  split
  · exact .raise touches_law _
  · exact put_touches allowed _

theorem rename_touches {source destination : Path} (taken : touched source)
    (placed : touched destination) :
    Sys.Obeys (Touches touched) (rename machine faults source destination) := by
  rw [rename]
  split
  · exact .raise touches_law _
  · refine .bind touches_law (.get touches_law) fun tree => ?_
    split
    · exact .raise touches_law _
    · split
      · exact .pure touches_law ()
      · exact .bind touches_law (remove_touches taken) fun _ => put_touches placed _
    · exact .raise touches_law _

theorem copy2_touches {source destination : Path} (placed : touched destination) :
    Sys.Obeys (Touches touched) (copy2 machine faults source destination) := by
  refine .bind touches_law (.guard touches_law _) fun _ =>
    .bind touches_law (.get touches_law) fun tree => ?_
  split
  · split
    · exact .bind touches_law (put_touches placed _) fun _ => .raise touches_law _
    · exact .bind touches_law (put_touches placed _) fun _ =>
        .bind touches_law (.guard touches_law _) fun _ => put_touches placed _
  · exact .raise touches_law _

theorem safeMove_touches {source destination : Path} (taken : touched source)
    (placed : touched destination) :
    Sys.Obeys (Touches touched) (safeMove machine faults source destination) := by
  refine .bind touches_law (makeDirs_touches _ 0) fun _ =>
    .bind touches_law (openExclusive_touches placed) fun _ =>
    .bind touches_law (.guard touches_law _) fun _ =>
      .bind touches_law (rename_touches taken placed).attempt fun renamed => ?_
  split
  · exact .pure touches_law ()
  · exact .bind touches_law (copy2_touches placed) fun _ =>
      .bind touches_law (.guard touches_law _) fun _ =>
      remove_touches taken
  · exact .bind touches_law (unlink_touches placed _) fun _ => .raise touches_law _

def Inside (root place : Path) : Prop := isWithin root place = true

theorem inside_of_resolved {tree : Tree} {root path place : Path}
    (resolved : resolveWithin machine tree root path = .within place) : Inside root place :=
  List.isSuffixOf_iff_suffix.mpr (resolveWithin_real resolved).2

theorem executeMove_touches {root source : Path} (operation : FileOperation)
    (taken : Inside root source) :
    Sys.Obeys (Touches (Inside root)) (executeMove machine faults root operation source) := by
  unfold executeMove
  cases wanted : operation.destination with
  | none => exact .pure touches_law _
  | some path =>
    refine .read fun tree => ?_
    cases resolved : resolveWithin machine tree root path with
    | loops => exact touches_law.refl tree
    | escapes => exact touches_law.refl tree
    | within destination =>
      dsimp only
      split
      · exact touches_law.refl tree
      · refine Sys.Obeys.bind touches_law
          (safeMove_touches taken (inside_of_resolved resolved)).attempt (fun moved => ?_) tree
        split
        · exact .pure touches_law _
        · exact .pure touches_law _
        · exact .raise touches_law _

theorem executeMove_done {root source : Path} {operation reported : FileOperation} {tree after : Tree}
    (ran : executeMove machine faults root operation source tree = (.ok (some reported), after))
    (done : reported.status = .done) :
    ∃ path destination, operation.destination = some path ∧
      resolveWithin machine tree root path = .within destination ∧
        reported.destination = some destination := by
  cases wanted : operation.destination with
  | none =>
    simp only [executeMove, wanted] at ran
    cases ran
    cases done
  | some path =>
    simp only [executeMove, wanted, Sys.bind_apply, Sys.get_apply] at ran
    cases resolved : resolveWithin machine tree root path with
    | loops =>
      rw [resolved] at ran
      cases ran
    | escapes =>
      rw [resolved] at ran
      cases ran
      cases done
    | within destination =>
      simp only [resolved] at ran
      split at ran
      · cases ran
        cases done
      · rw [Sys.bind_apply, Sys.attempt_apply] at ran
        dsimp only at ran
        cases moved : (safeMove machine faults source destination tree).1 with
        | ok =>
          rw [moved] at ran
          cases ran
          exact ⟨path, destination, rfl, resolved, rfl⟩
        | error errno =>
          rw [moved] at ran
          cases errno <;> cases ran
          cases done

/-! ## Removals -/

/-- No file at a spared place is gone or changed. -/
def Spares (spared : Path → Prop) (before after : Tree) : Prop :=
  ∀ place node, spared place → node.isFile = true → before.get? place = some node →
    after.get? place = some node

variable {spared : Path → Prop}

theorem spares_law : StepLaw (Spares spared) where
  refl := fun _ _ _ _ _ found => found
  trans := fun early late place node outside file found =>
    late place node outside file (early place node outside file found)

theorem Touches.spares {before after : Tree} (touches : Touches touched before after)
    (untouched : ∀ place node, spared place → node.isFile = true → before.get? place = some node →
      ¬ touched place) :
    Spares spared before after := by
  intro place node outside file found
  rcases touches place (untouched place node outside file found) with same | ⟨absent, _⟩
  · rw [same, found]
  · rw [absent] at found
    contradiction

theorem makeDirs_spares (path : Path) (attempt : Nat) :
    Sys.Obeys (Spares spared) (makeDirs machine faults attempt path) :=
  fun tree _ _ _ _ found => (makeDirs_anywhere path attempt tree).kept found

theorem remove_spares {place : Path} (taken : ¬ spared place) :
    Sys.Obeys (Spares spared) (Sys.remove place) := by
  intro tree other node outside _ found
  rw [Sys.remove_apply, Dict.get?_erase, if_neg fun same => taken (by rw [same]; exact outside), found]

/-- What a trashing may write over: what it may take, and what holds no file. -/
def Overwritable (root : Path) (made : Tree) (place : Path) : Prop :=
  Inside root place ∨ ∀ node, made.get? place = some node → node.isFile = false

theorem overwritable_of_missing {root place : Path} {made : Tree}
    (missing : existsAt machine.steps made place = false) : Overwritable root made place := by
  refine Or.inr fun node found => ?_
  obtain ⟨absolute, target, link, _⟩ := link_of_missing missing found
  rw [link]
  rfl

theorem Puts.touches {root there : Path} {content : Bytes} {before after : Tree}
    (puts : Puts there content before after) : Touches (Overwritable root before) before after := by
  rcases puts with same | ⟨written, modified, absent, shape⟩
  · rw [same]
    exact touches_law.refl before
  · rw [shape]
    refine put_touches (Or.inr fun node found => ?_) _ before
    rw [absent] at found
    contradiction

theorem record_spares {root source filesDir files info : Path} {name : Text} {made : Tree}
    (taken : Inside root source) (free : nameTaken machine made files info name = false) :
    Spares (fun place => ¬ Inside root place) made
      ((do
        writeInfo machine faults (infoName name :: info) (trashInfo machine source)
        match ← Sys.attempt (rename machine faults source (name :: files)) with
        | .ok () => pure (name :: filesDir)
        | .error errno => do
          unlink (faults .unlinkInfo) (infoName name :: info)
          Sys.raise errno : Sys Path) made).2 := by
  rw [nameTaken, Bool.or_eq_false_iff] at free
  have renamed :=
    @rename_touches machine faults (Overwritable root made) source (name :: files) (Or.inl taken)
    (overwritable_of_missing free.1)
  have unlinked := @unlink_touches (Overwritable root made) (infoName name :: info)
      (overwritable_of_missing free.2) (faults .unlinkInfo)
  obtain ⟨there, puts, _⟩ :=
    @writeInfo_puts machine faults made (infoName name :: info) (trashInfo machine source) free.2
  have wrote := @Puts.touches root _ _ _ _ puts
  refine @Touches.spares (Overwritable root made) _ _ _ ?_ fun place node outside file found => ?_
  · rw [Sys.bind_apply]
    cases ran : writeInfo machine faults (infoName name :: info) (trashInfo machine source) made with
    | mk result written =>
      rw [ran] at wrote
      cases result with
      | error errno => exact wrote
      | ok =>
        refine touches_law.trans wrote (Sys.Obeys.bind touches_law renamed.attempt
          (fun moved => ?_) written)
        split
        · exact .pure touches_law _
        · exact .bind touches_law unlinked fun _ => .raise touches_law _
  · intro either
    rcases either with inside | loose
    · exact outside inside
    · rw [loose node found] at file
      contradiction

theorem sendToTrash_spares {root source : Path} (trashRoot : Path) (taken : Inside root source) :
    Sys.Obeys (Spares fun place => ¬ Inside root place)
      (sendToTrash machine faults source trashRoot) := by
  refine .bind spares_law (makeDirs_spares _ 2) fun _ =>
    .bind spares_law (makeDirs_spares _ 4) fun _ =>
    .read fun made => ?_
  cases realPath machine.steps made (text "files" :: trashRoot) with
  | none => exact spares_law.refl made
  | some files =>
    cases realPath machine.steps made (text "info" :: trashRoot) with
    | none => exact spares_law.refl made
    | some info =>
      dsimp only
      cases named : freeName machine made files info (source.headD [])
        (2 * made.entries.length + 1) 0 with
      | none => exact spares_law.refl made
      | some name => exact record_spares taken (freeName_some named).2

theorem executeTrash_spares {root source : Path} (trashRoot : Path) (permanentAllowed : Bool)
    (operation : FileOperation) (taken : Inside root source) :
    Sys.Obeys (Spares fun place => ¬ Inside root place)
      (executeTrash machine faults trashRoot permanentAllowed operation source) := by
  intro tree
  obtain ⟨answer, usable, answered, adds⟩ :=
    @trashIsUsable_answers machine faults source trashRoot tree
  have grown : Spares (fun place => ¬ Inside root place) tree usable :=
    fun _ _ _ _ found => adds.kept found
  refine spares_law.trans grown ?_
  simp only [executeTrash, Sys.bind_apply, answered]
  cases answer with
  | true =>
    exact Sys.Obeys.bind spares_law (sendToTrash_spares trashRoot taken)
      (fun _ => .pure spares_law _) usable
  | false =>
    cases permanentAllowed with
    | false => exact spares_law.refl usable
    | true =>
      exact Sys.Obeys.bind spares_law (.guard spares_law _) (fun _ =>
        .bind spares_law (remove_spares fun outside => outside taken) fun _ =>
          .pure spares_law _) usable

/-! ## The whole manifest -/

/-- What one turn does is confined: no file outside the root is gone or changed, what is done was
done to a file in it, and a move makes nothing outside it but directories, and ends in it. -/
structure Confines (execution : Execution) (faults : Nat → Faults) (before : Tree)
    (item : FileOperation × Nat) : Prop where
  spares : Spares (fun place => ¬ Inside execution.root place) before
    (executeOperation execution (faults item.2) item.1 before).2
  taken : ∀ reported, item.1.status = .planned → reported.status = .done →
    (executeOperation execution (faults item.2) item.1 before).1 = some reported →
      ∃ source, resolveWithin execution.machine before execution.root item.1.source =
        .within source ∧ (before.get? source).any Node.isFile = true ∧ Inside execution.root source
  touches : item.1.action = text "move" → Touches (Inside execution.root) before
    (executeOperation execution (faults item.2) item.1 before).2
  placed : ∀ reported, item.1.action = text "move" → item.1.status = .planned →
    reported.status = .done →
    (executeOperation execution (faults item.2) item.1 before).1 = some reported →
      ∃ path destination, item.1.destination = some path ∧ reported.destination = some destination ∧
        resolveWithin execution.machine before execution.root path = .within destination ∧
        Inside execution.root destination

theorem executeOperation_carried {execution : Execution} (operation : FileOperation)
    (before : Tree) : ((executeOperation execution faults operation before).2 = before ∧
      ∀ reported, operation.status = .planned →
        (executeOperation execution faults operation before).1 = some reported →
        reported.status ≠ .done) ∨
    ∃ source, Inside execution.root source ∧
      ((operation.action = text "move" ∧ executeOperation execution faults operation before =
        settled execution.machine operation
          (executeMove execution.machine faults execution.root operation source before)) ∨
      (operation.action = text "trash" ∧ executeOperation execution faults operation before =
        settled execution.machine operation (executeTrash execution.machine faults execution.trashRoot
          execution.permanentAllowed operation source before))) := by
  by_cases planned : operation.status = .planned
  · simp only [executeOperation, planned, ne_eq, not_true_eq_false, if_false]
    cases resolved : resolveWithin execution.machine before execution.root operation.source with
    | loops => exact Or.inl ⟨rfl, fun _ _ raised => by cases raised⟩
    | escapes =>
      refine Or.inl ⟨rfl, fun _ _ skipped done => ?_⟩
      cases skipped
      cases done
    | within source =>
      dsimp only
      cases isSymlink execution.machine.steps before operation.source with
      | true =>
        refine Or.inl ⟨rfl, fun _ _ skipped done => ?_⟩
        cases skipped
        cases done
      | false =>
        cases (statAt execution.machine.steps before source).any Node.isFile with
        | false =>
          refine Or.inl ⟨rfl, fun _ _ skipped done => ?_⟩
          cases skipped
          cases done
        | true =>
          by_cases moving : operation.action = text "move"
          · refine Or.inr ⟨source, inside_of_resolved resolved, Or.inl ⟨moving, ?_⟩⟩
            simp only [Bool.not_true, Bool.false_eq_true, if_false, if_pos moving]
            rfl
          · by_cases trashing : operation.action = text "trash"
            · refine Or.inr ⟨source, inside_of_resolved resolved, Or.inr ⟨trashing, ?_⟩⟩
              simp only [Bool.not_true, Bool.false_eq_true, if_false, if_neg moving, if_pos trashing]
              rfl
            · simp only [Bool.not_true, Bool.false_eq_true, if_false, if_neg moving, if_neg trashing]
              refine Or.inl ⟨rfl, fun _ _ skipped done => ?_⟩
              cases skipped
              cases done
  · have idle : executeOperation execution faults operation before = (some operation, before) :=
      if_pos planned
    rw [idle]
    exact Or.inl ⟨rfl, fun _ same => absurd same planned⟩

theorem settled_tree (machine : Machine) (operation : FileOperation)
    (ended : Except Errno (Option FileOperation) × Tree) :
    (settled machine operation ended).2 = ended.2 := by
  obtain ⟨result, after⟩ := ended
  cases result <;> rfl

theorem settled_done {operation reported : FileOperation}
    {ended : Except Errno (Option FileOperation) × Tree}
    (settles : (settled machine operation ended).1 = some reported) (done : reported.status = .done) :
    ended = (.ok (some reported), ended.2) := by
  obtain ⟨result, after⟩ := ended
  cases result with
  | ok carried =>
    change carried = some reported at settles
    rw [settles]
  | error errno =>
    cases settles
    cases done

theorem move_is_no_trash : text "move" ≠ text "trash" := by decide

theorem executeOperation_confines (execution : Execution) (faults : Nat → Faults) (before : Tree)
    (item : FileOperation × Nat) : Confines execution faults before item := by
  have carried := @executeOperation_carried (faults item.2) execution item.1 before
  have moved : ∀ source, Inside execution.root source →
      Touches (Inside execution.root) before (executeMove
        execution.machine (faults item.2) execution.root item.1 source before).2 :=
    fun source inside => executeMove_touches item.1 inside before
  constructor
  · rcases carried with ⟨same, _⟩ | ⟨source, inside, ⟨_, ran⟩ | ⟨_, ran⟩⟩
    · rw [same]
      exact spares_law.refl before
    · rw [ran, settled_tree]
      exact (moved source inside).spares fun _ _ outside _ _ => outside
    · rw [ran, settled_tree]
      exact executeTrash_spares _ _ item.1 inside before
  · intro reported planned done ran
    obtain ⟨source, found⟩ := removable_of_done planned done (Prod.ext ran rfl)
    obtain ⟨_, resolved, _, filed⟩ := removable_iff.mp found
    exact ⟨source, resolved, filed, inside_of_resolved resolved⟩
  · intro moving
    rcases carried with ⟨same, _⟩ | ⟨source, inside, ⟨_, ran⟩ | ⟨trashing, _⟩⟩
    · rw [same]
      exact touches_law.refl before
    · rw [ran, settled_tree]
      exact moved source inside
    · exact absurd (moving.symm.trans trashing) move_is_no_trash
  · intro reported moving planned done reports
    rcases carried with ⟨_, idle⟩ | ⟨source, inside, ⟨_, ran⟩ | ⟨trashing, _⟩⟩
    · exact absurd done (idle reported planned reports)
    · rw [ran] at reports
      obtain ⟨path, destination, named, resolved, placed⟩ :=
        executeMove_done (settled_done reports done) done
      exact ⟨path, destination, named, placed, resolved, inside_of_resolved resolved⟩
    · exact absurd (moving.symm.trans trashing) move_is_no_trash

theorem executeFrom_spares (execution : Execution) (faults : Nat → Faults) (index : Nat)
    (operations : List FileOperation) (tree : Tree) :
    Spares (fun place => ¬ Inside execution.root place) tree
      (executeFrom execution faults index operations tree).2 := by
  induction operations generalizing index tree with
  | nil => exact spares_law.refl tree
  | cons operation rest ih =>
    have first := (executeOperation_confines execution faults tree (operation, index)).spares
    simp only [executeFrom]
    cases ran : executeOperation execution (faults index) operation tree with
    | mk result after =>
      rw [ran] at first
      cases result with
      | none => exact first
      | some reported =>
        have whole := spares_law.trans first (ih (index + 1) after)
        dsimp only
        cases ended : executeFrom execution faults (index + 1) rest after with
        | mk reports final =>
          rw [ended] at whole
          cases reports <;> exact whole

/-- What a planner took from a walk is confined if and only if the walk began where it may. -/
theorem file_actions_confined_iff (machine : Machine) (inspection : Inspection)
    (config : PlanningConfig) (excludedRoots : List Path) {tree : Tree} {root : Path}
    (short : ∀ entry ∈ tree.keys, entry.length ≤ machine.steps)
    (led : realPath machine.steps tree config.scanRoot = some root) :
    (∀ categories response,
      planOrganise machine inspection config excludedRoots categories tree = .ok response →
      ∀ operation ∈ response.operations,
        ConfinedSource machine tree root config.skipDirs excludedRoots operation.source ↔
          ∀ excluded ∈ excludedRoots, ¬ excluded <:+ root) ∧
    (∀ given operations,
      planDuplicateCleanup machine inspection.toReading config.toFileOrganiserConfig excludedRoots
        given tree = .ok operations →
      ∀ operation ∈ operations,
        ConfinedSource machine tree root config.skipDirs excludedRoots operation.source ↔
          ∀ excluded ∈ excludedRoots, ¬ excluded <:+ root) ∧
    (∀ mode olderThanDays response,
      planDownloadsCleanup machine inspection config excludedRoots mode olderThanDays tree =
        .ok response →
      ∀ operation ∈ response.operations, ∃ downloads,
        resolveWithin machine tree root (config.downloadsDir.under root) = .within downloads ∧
        (ConfinedSource machine tree root config.skipDirs excludedRoots operation.source ↔
          OpenStart root config.skipDirs excludedRoots downloads)) ∧
    ∀ (faults : Nat → Faults) (organiser : FileOrganiserConfig) (forceDelete : Bool)
      (home : Option Path) (operations : List FileOperation) (began : Tree) (execution : Execution),
      preparePlan machine organiser forceDelete home operations began = some execution →
        Throughout (turn execution faults) (Confines execution faults) began operations.zipIdx ∧
        Spares (fun place => ¬ Inside execution.root place) began
          (executePlan machine faults organiser forceDelete home operations began).2 := by
  have real := (realPath_real led).1
  refine ⟨?_, ?_, ?_, ?_⟩
  · intro categories response planned operation member
    obtain ⟨start, begins, walked⟩ := planOrganise_source planned member
    rw [led] at begins
    cases begins
    rw [walked_confined_iff short real (List.suffix_refl root) walked, openStart_root]
  · intro given operations planned operation member
    obtain ⟨_, start, _, begins, _, _, place, rfl, _, walked, _⟩ := planned_removal planned member
    rw [show config.toFileOrganiserConfig.scanRoot = config.scanRoot from rfl, led] at begins
    cases begins
    rw [show (removal _ _ place).source = place from rfl,
      walked_confined_iff short real (List.suffix_refl root) walked, openStart_root]
  · intro mode olderThanDays response planned operation member
    obtain ⟨start, downloads, begins, resolved, walked⟩ := planDownloadsCleanup_source planned member
    rw [led] at begins
    cases begins
    obtain ⟨realStart, within⟩ := resolveWithin_real resolved
    exact ⟨downloads, resolved, walked_confined_iff short realStart within walked⟩
  · intro faults organiser forceDelete home operations began execution prepared
    refine ⟨Throughout.of_forall (fun item _ before =>
      executeOperation_confines execution faults before item) began, ?_⟩
    simp only [executePlan, prepared]
    exact executeFrom_spares execution faults 0 operations began

/-! One old file in the downloads, and one in a hidden directory. -/

def month : Machine := { oneDisk with now := 30 * 86400 }

def inboxTree : Tree := Dict.ofEntries [
  ([], .directory), (path ["home"], .directory), (path ["home", "Downloads"], .directory),
  (path ["home", ".inbox"], .directory), (path ["home", "Downloads", "old.txt"], .file [99] 0),
  (path ["home", ".inbox", "old.txt"], .file [118] 0)]

def inboxInspection : Inspection where
  toReading := photoReading
  lower := id
  documentMarked := fun _ => false
  bookMarked := fun _ => false
  pageCount := fun _ => none
  tenths := fun _ => text "0.0"
  daysAgo := fun days => if days = 30 then some 0 else none

def inboxConfig (downloadsDir : Folder) : PlanningConfig := 
  { scanRoot := path ["home"], categoryFolders := defaultCategoryFolders, downloadsDir }

/-- What is planned for the folder of that name. -/
def clearedFrom (folder : String) : Except PlanError (List Path) :=
  (planDownloadsCleanup month inboxInspection (inboxConfig (.relative (path [folder]))) []
    (text "trash") none
    inboxTree).map fun response => response.operations.map fun operation => operation.source

theorem clearedFrom_inbox :
    clearedFrom ".inbox" = .ok [path ["home", ".inbox", "old.txt"]] := by decide

theorem clearedFrom_downloads :
    clearedFrom "Downloads" = .ok [path ["home", "Downloads", "old.txt"]] := by decide

theorem cleared_planned {folder : String} {sources : List Path}
    (cleared : clearedFrom folder = .ok sources) :
    ∃ response, planDownloadsCleanup month inboxInspection (inboxConfig (.relative (path [folder])))
      [] (text "trash")
      none inboxTree = .ok response ∧ ∀ source ∈ sources, ∃ operation ∈ response.operations,
        operation.source = source := by
  simp only [clearedFrom] at cleared
  cases planned : planDownloadsCleanup month inboxInspection
    (inboxConfig (.relative (path [folder]))) []
      (text "trash") none inboxTree with
  | error raised =>
    rw [planned] at cleared
    cases cleared
  | ok response =>
    rw [planned] at cleared
    cases cleared
    exact ⟨response, rfl, fun source member => List.mem_map.mp member⟩

/-- `downloads_dir` is a hidden directory. -/
theorem hidden_inbox_cleared :
    ¬ ∀ response, planDownloadsCleanup month inboxInspection
      (inboxConfig (.relative (path [".inbox"]))) []
        (text "trash") none inboxTree = .ok response →
      ∀ operation ∈ response.operations, ConfinedSource month inboxTree (path ["home"])
        (inboxConfig (.relative (path [".inbox"]))).skipDirs [] operation.source := by
  intro confined
  obtain ⟨response, planned, sources⟩ := cleared_planned clearedFrom_inbox
  obtain ⟨operation, member, source⟩ := sources _ List.mem_cons_self
  have parents := (confined response planned operation member).parents (text ".inbox") (path ["home"])
  rw [source] at parents
  have shown := (parents (List.suffix_refl _) (List.suffix_refl _)).1
  exact absurd shown (by decide)

theorem openStart_child {root : Path} {skipDirs : List Text} {name : Text}
    (enterable : Enterable skipDirs name) : OpenStart root skipDirs [] (name :: root) := by
  refine ⟨fun excluded member => absurd member List.not_mem_nil,
    fun other directory inside above => ?_⟩
  rcases List.suffix_cons_iff.mp inside with same | deeper
  · rw [(List.cons.inj same).1]
    exact enterable
  · have shorter := deeper.length_le
    have longer := above.length_le
    rw [List.length_cons] at shorter
    omega

theorem old_download_confined :
    ConfinedSource month inboxTree (path ["home"])
      (inboxConfig (.relative (path ["Downloads"]))).skipDirs []
      (path ["home", "Downloads", "old.txt"]) := by
  have shallow : inboxTree.keys.all (fun place => place.length ≤ 8) = true := by decide
  obtain ⟨response, planned, sources⟩ := cleared_planned clearedFrom_downloads
  obtain ⟨operation, member, source⟩ := sources _ List.mem_cons_self
  obtain ⟨_, _, downloadsCleared, _⟩ := file_actions_confined_iff month inboxInspection
    (inboxConfig (.relative (path ["Downloads"]))) []
    (fun entry member => of_decide_eq_true (List.all_eq_true.mp shallow entry member))
    (show realPath 8 inboxTree (path ["home"]) = some (path ["home"]) by decide)
  obtain ⟨downloads, resolved, confined⟩ := downloadsCleared _ _ response planned operation member
  have itself : resolveWithin month inboxTree (path ["home"]) (path ["home", "Downloads"]) =
      .within (path ["home", "Downloads"]) := by decide
  cases itself.symm.trans resolved
  rw [← source]
  exact confined.mpr (openStart_child (by unfold Enterable; decide))

end SysadminAssistant.Files
