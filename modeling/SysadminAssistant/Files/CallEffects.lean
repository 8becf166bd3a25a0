import SysadminAssistant.Files.Actions

namespace SysadminAssistant.Files

open Python

/-! What each call leaves of the tree, whether it fails or not. -/

variable {machine : Machine} {faults : Faults}

/-- Nothing changed but directories made, at places that are `allowed`. -/
def AddsDirectories (allowed : Path → Prop) (before after : Tree) : Prop :=
  ∀ place, after.get? place = before.get? place ∨
    (allowed place ∧ before.get? place = none ∧ after.get? place = some .directory)

namespace AddsDirectories

variable {allowed : Path → Prop} {first second third : Tree}

theorem refl (tree : Tree) : AddsDirectories allowed tree tree := fun _ => Or.inl rfl

theorem trans (left : AddsDirectories allowed first second)
    (right : AddsDirectories allowed second third) : AddsDirectories allowed first third := by
  intro place
  rcases left place with same | ⟨permitted, absent, made⟩
  · rcases right place with again | ⟨permitted, absent, made⟩
    · exact Or.inl (again.trans same)
    · exact Or.inr ⟨permitted, same ▸ absent, made⟩
  · rcases right place with again | ⟨_, gone, _⟩
    · exact Or.inr ⟨permitted, absent, again.trans made⟩
    · rw [made] at gone
      contradiction

theorem sameLinks (adds : AddsDirectories allowed first second) : SameLinks first second := by
  apply SameLinks.of_change
  intro place
  rcases adds place with same | ⟨_, absent, made⟩
  · exact Or.inl same.symm
  · refine Or.inr ⟨?_, ?_⟩
    · intro node found
      rw [absent] at found
      contradiction
    · intro node found
      rw [made] at found
      cases found
      rfl

theorem kept (adds : AddsDirectories allowed first second) {place : Path} {node : Node}
    (found : first.get? place = some node) : second.get? place = some node := by
  rcases adds place with same | ⟨_, absent, _⟩
  · rw [same, found]
  · rw [absent] at found
    contradiction

theorem former (adds : AddsDirectories allowed first second) {place : Path} {node : Node}
    (found : second.get? place = some node) (other : node ≠ .directory) :
    first.get? place = some node := by
  rcases adds place with same | ⟨_, _, made⟩
  · rw [← same, found]
  · rw [made] at found
    exact absurd (Option.some.inj found).symm other

theorem absent (adds : AddsDirectories allowed first second) {place : Path}
    (empty : second.get? place = none) : first.get? place = none := by
  rcases adds place with same | ⟨_, _, made⟩
  · rw [← same, empty]
  · rw [made] at empty
    contradiction

theorem still (adds : AddsDirectories allowed first second) {place : Path}
    (forbidden : ¬ allowed place) : second.get? place = first.get? place := by
  rcases adds place with same | ⟨permitted, _⟩
  · exact same
  · exact absurd permitted forbidden

end AddsDirectories

section Directories

variable {allowed : Path → Prop}

theorem mkdir_adds {path : Path} {tree : Tree} (attempt : Nat)
    (entries : ∀ place, place ≠ [] → entryOf machine.steps tree path = some place → allowed place) :
    AddsDirectories allowed tree (mkdir machine faults path attempt tree).2 := by
  simp only [mkdir, Sys.bind_apply]
  cases faults (.mkdir path attempt) with
  | some fault => exact AddsDirectories.refl tree
  | none =>
    simp only [Sys.guard_none, Sys.get_apply]
    cases entered : entryOf machine.steps tree path with
    | none => exact AddsDirectories.refl tree
    | some place =>
      dsimp only
      cases refused : refusal tree place with
      | some errno => exact AddsDirectories.refl tree
      | none =>
        intro other
        change (tree.set place .directory).get? other = _ ∨ _
        by_cases same : place = other
        · subst same
          have vacant : tree.get? place = none := by
            cases found : tree.get? place with
            | none => rfl
            | some node => simp [refusal, found] at refused
          have below : place ≠ [] := by
            intro root
            subst root
            simp [refusal, vacant] at refused
          exact Or.inr ⟨entries place below entered, vacant, Dict.get?_set_self tree place .directory⟩
        · exact Or.inl (Dict.get?_set_other tree .directory same)

theorem makeDir_tree (path : Path) (attempt : Nat) (tree : Tree) :
    (makeDir machine faults path attempt tree).2 = (mkdir machine faults path attempt tree).2 := by
  simp only [makeDir, Sys.bind_apply, Sys.attempt_apply]
  cases (mkdir machine faults path attempt tree).1 with
  | ok => rfl
  | error errno =>
    simp only [Sys.bind_apply, Sys.get_apply]
    split <;> rfl

theorem makeDirs_adds {path : Path} {tree : Tree} (attempt : Nat)
    (entries : ∀ after inner place, SameLinks tree after → inner <:+ path → place ≠ [] →
      entryOf machine.steps after inner = some place → allowed place) :
    AddsDirectories allowed tree (makeDirs machine faults attempt path tree).2 := by
  have once : ∀ {inner after} (turn : Nat), inner <:+ path → SameLinks tree after →
      AddsDirectories allowed after (makeDir machine faults inner turn after).2 := by
    intro inner after turn inside same
    rw [makeDir_tree]
    exact mkdir_adds turn fun place below entered =>
      entries after inner place same inside below entered
  suffices grown : ∀ inner after, inner <:+ path → SameLinks tree after →
      AddsDirectories allowed after (makeDirs machine faults attempt inner after).2 from
    grown path tree (List.suffix_refl path) (SameLinks.refl tree)
  intro inner
  induction inner with
  | nil => exact fun after inside same => once attempt inside same
  | cons name directory ih =>
    intro after inside same
    have first := once attempt inside same
    simp only [makeDirs, Sys.bind_apply, Sys.attempt_apply]
    cases outcome : (makeDir machine faults (name :: directory) attempt after).1 with
    | ok => exact first
    | error errno =>
      cases errno with
      | enoent =>
        have middle := ih (makeDir machine faults (name :: directory) attempt after).2
          ((List.suffix_cons name directory).trans inside) (same.trans first.sameLinks)
        simp only [Sys.bind_apply]
        cases parents : makeDirs machine faults attempt directory
            (makeDir machine faults (name :: directory) attempt after).2 with
        | mk result made =>
          rw [parents] at middle
          have both := first.trans middle
          cases result with
          | error errno => exact both
          | ok => exact both.trans (once (attempt + 1) inside (same.trans both.sameLinks))
      | _ => exact first

theorem makeDirs_anywhere (path : Path) (attempt : Nat) (tree : Tree) :
    AddsDirectories (fun _ => True) tree (makeDirs machine faults attempt path tree).2 :=
  makeDirs_adds attempt fun _ _ _ _ _ _ _ => trivial

theorem makeDirs_real {path : Path} {tree : Tree} (attempt : Nat) (real : Real tree path)
    (short : path.length ≤ machine.steps) :
    AddsDirectories (fun place => place <:+ path ∧ place ≠ []) tree
      (makeDirs machine faults attempt path tree).2 := by
  apply makeDirs_adds attempt
  intro after inner place same inside below entered
  have innerReal : Real tree inner :=
    fun name directory within => real name directory (within.trans inside)
  have here := @entryOf_of_real tree machine.steps inner innerReal (inside.length_le.trans short)
  rw [← entryOf_sameLinks same, here] at entered
  cases entered
  exact ⟨inside, below⟩

end Directories

/-- What `O_EXCL` found, and what it left. -/
theorem openExclusive_ok {place : Path} {tree after : Tree}
    (opened : openExclusive machine faults place tree = (.ok (), after)) :
    faults .open = none ∧ refusal tree place = none ∧ after = tree.set place
      (.file [] machine.now) := by
  simp only [openExclusive, Sys.bind_apply] at opened
  cases faulty : faults .open with
  | some fault =>
    rw [faulty] at opened
    simp [Sys.guard_some] at opened
  | none =>
    rw [faulty] at opened
    simp only [Sys.guard_none, Sys.get_apply] at opened
    cases refused : refusal tree place with
    | some errno =>
      rw [refused] at opened
      simp [Sys.raise_apply] at opened
    | none =>
      rw [refused] at opened
      cases opened
      exact ⟨rfl, rfl, rfl⟩

theorem openExclusive_error {place : Path} {tree after : Tree} {errno : Errno}
    (refused : openExclusive machine faults place tree = (.error errno, after)) :
    after = tree ∧ ¬ (faults .open = none ∧ refusal tree place = none) := by
  simp only [openExclusive, Sys.bind_apply] at refused
  cases faulty : faults .open with
  | some fault =>
    rw [faulty] at refused
    cases refused
    simp
  | none =>
    rw [faulty] at refused
    simp only [Sys.guard_none, Sys.get_apply] at refused
    cases why : refusal tree place with
    | some errno =>
      rw [why] at refused
      cases refused
      simp
    | none =>
      rw [why] at refused
      cases refused

theorem refusal_none {tree : Tree} {place : Path} (allowed : refusal tree place = none) :
    tree.get? place = none ∧ tree.get? place.tail = some .directory := by
  simp only [refusal] at allowed
  cases vacant : tree.get? place with
  | some node => simp [vacant] at allowed
  | none =>
    rw [vacant] at allowed
    refine ⟨rfl, ?_⟩
    cases above : tree.get? place.tail with
    | none => simp [above] at allowed
    | some node => cases node <;> simp_all

theorem rename_file {source destination : Path} {tree : Tree} {node : Node}
    (passes : renameFails machine faults source destination = none)
    (present : tree.get? source = some node) (above : tree.get? destination.tail = some .directory)
    (plain : tree.get? destination ≠ some .directory) (apart : source ≠ destination) :
    rename machine faults source destination tree =
      (.ok (), (tree.erase source).set destination node) := by
  simp only [rename, passes, Sys.bind_apply, Sys.get_apply, present, above]
  cases found : tree.get? destination with
  | none => simp [apart, Sys.bind_apply, Sys.remove_apply, Sys.put_apply]
  | some old =>
    cases old with
    | directory => exact absurd found plain
    | _ => simp [apart, Sys.bind_apply, Sys.remove_apply, Sys.put_apply]

theorem rename_fails {source destination : Path} {tree : Tree} {errno : Errno}
    (fails : renameFails machine faults source destination = some errno) :
    rename machine faults source destination tree = (.error errno, tree) := by
  simp only [rename, fails, Sys.raise_apply]

theorem rename_nowhere {source destination : Path} {tree : Tree}
    (passes : renameFails machine faults source destination = none)
    (nowhere : tree.get? destination.tail ≠ some .directory) :
    rename machine faults source destination tree = (.error .enoent, tree) := by
  simp only [rename, passes, Sys.bind_apply, Sys.get_apply]
  cases tree.get? source with
  | none => rfl
  | some node =>
    cases above : tree.get? destination.tail with
    | none => rfl
    | some parent =>
      cases parent with
      | directory => exact absurd above nowhere
      | _ => rfl

/-- Whether a rename gets through, where nothing but a file or a link may stand. -/
def renames (machine : Machine) (faults : Faults) (source destination : Path) (tree : Tree) : Bool :=
  (renameFails machine faults source destination).isNone && tree.get? destination.tail =
    some .directory

theorem rename_outcome {source destination : Path} {tree : Tree} {node : Node}
    (present : tree.get? source = some node) (plain : tree.get? destination ≠ some .directory)
    (apart : source ≠ destination) :
    (renames machine faults source destination tree = true ∧
      rename machine faults source destination tree =
        (.ok (), (tree.erase source).set destination node)) ∨
    (renames machine faults source destination tree = false ∧
      ∃ errno, rename machine faults source destination tree = (.error errno, tree)) := by
  cases fails : renameFails machine faults source destination with
  | some errno =>
    refine Or.inr ⟨?_, errno, rename_fails fails⟩
    simp [renames, fails]
  | none =>
    by_cases above : tree.get? destination.tail = some .directory
    · exact Or.inl ⟨by simp [renames, fails, above], rename_file fails present above plain apart⟩
    · exact Or.inr ⟨by simp [renames, above], .enoent, rename_nowhere fails above⟩

theorem copy2_complete {source destination : Path} {tree : Tree} {content : Bytes} {modified : ℚ}
    (present : tree.get? source = some (.file content modified)) (opens : faults .copyOpen = none)
    (copies : faults .copyData = none) (stats : faults .copyStat = none) :
    copy2 machine faults source destination tree =
      (.ok (), (tree.set destination (.file content machine.now)).set destination
        (.file content modified)) := by
  simp [copy2, opens, copies, stats, present, Sys.bind_apply, Sys.get_apply, Sys.guard_none,
    Sys.put_apply]

theorem copy2_broken {source destination : Path} {tree : Tree} {content : Bytes} {modified : ℚ}
    (present : tree.get? source = some (.file content modified))
    (placed : (tree.get? destination).any Node.isFile)
    (faulty : faults .copyOpen ≠ none ∨ faults .copyData ≠ none ∨ faults .copyStat ≠ none) :
    ∃ errno after, copy2 machine faults source destination tree = (.error errno, after) ∧
      (after.get? destination).any Node.isFile := by
  cases opens : faults .copyOpen with
  | some fault => 
      exact ⟨fault.errno, tree, by simp [copy2, opens, Sys.bind_apply, Sys.guard_some], placed⟩
  | none =>
    cases copies : faults .copyData with
    | some fault =>
      refine ⟨fault.errno,
        tree.set destination (.file (content.take fault.written) machine.now), ?_, ?_⟩
      · simp [copy2, opens, copies, present, Sys.bind_apply, Sys.get_apply, Sys.guard_none,
          Sys.put_apply, Sys.raise_apply]
      · simp [Node.isFile]
    | none =>
      cases stats : faults .copyStat with
      | none => simp [opens, copies, stats] at faulty
      | some fault =>
        refine ⟨fault.errno, tree.set destination (.file content machine.now), ?_, ?_⟩
        · simp [copy2, opens, copies, stats, present, Sys.bind_apply, Sys.get_apply,
            Sys.guard_none, Sys.guard_some, Sys.put_apply]
        · simp [Node.isFile]

end SysadminAssistant.Files
