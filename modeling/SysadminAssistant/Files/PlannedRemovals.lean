import SysadminAssistant.Files.DuplicatePlan
import SysadminAssistant.Files.RemovalFrames

namespace SysadminAssistant.Files

open Python

/-! What the planner of duplicates walks, and what it would remove. -/

variable {machine : Machine} {reading : Reading} {tree : Tree}

section Walk

variable {skipDirs : List Text} {excludedRoots : List Path}

theorem mem_listing {name : Text} {here : Path} :
    name ∈ listing tree here ↔ (name :: here) ∈ tree.keys := by
  simp only [listing, List.mem_filterMap, Dict.keys, List.mem_map]
  constructor
  · intro found
    obtain ⟨⟨place, node⟩, member, shape⟩ := found
    cases place with
    | nil => simp at shape
    | cons first directory =>
      simp only [Option.ite_none_right_eq_some, Option.some.injEq] at shape
      exact ⟨(first :: directory, node), member, by rw [shape.1, shape.2]⟩
  · intro found
    obtain ⟨⟨place, node⟩, member, shape⟩ := found
    dsimp only at shape
    subst shape
    exact ⟨(name :: here, node), member, by simp⟩

theorem hidden_parent {name : Text} (shown : isHidden name = false) : name ≠ parent := by
  intro same
  rw [same] at shown
  exact absurd shown (by decide)

theorem isSymlink_entry {name : Text} {here : Path} (real : Real tree here) (down : name ≠ parent)
    (enough : here.length ≤ machine.steps) :
    isSymlink machine.steps tree (name :: here) = (tree.get? (name :: here)).any Node.isLink := by
  have led := @realPath_of_real tree machine.steps here real enough
  simp [isSymlink, entryOf, led, down]

theorem walked_entry {name : Text} {here : Path}
    (short : ∀ entry ∈ tree.keys, entry.length ≤ machine.steps) (real : Real tree here)
    (listed : name ∈ listing tree here) (shown : isHidden name = false)
    (plain : isSymlink machine.steps tree (name :: here) = false) :
    Real tree (name :: here) ∧ (name :: here).length ≤ machine.steps := by
  have bound := short _ (mem_listing.mp listed)
  have down := hidden_parent shown
  have within : here.length ≤ machine.steps := by
    rw [List.length_cons] at bound
    omega
  rw [isSymlink_entry real down within] at plain
  refine ⟨real.cons down fun node present => ?_, bound⟩
  rw [present] at plain
  exact plain

theorem walkFiles_cases {depth : Nat} {here place : Path}
    (found : place ∈ walkFiles machine reading tree skipDirs excludedRoots (depth + 1) here) :
    (∃ name ∈ listing tree here, place = name :: here ∧ isHidden name = false ∧
      isSymlink machine.steps tree (name :: here) = false ∧
      (statAt machine.steps tree (name :: here)).any Node.isFile = true) ∨
    ∃ name ∈ listing tree here, skipDirectory machine tree skipDirs excludedRoots
      (name :: here) name = false ∧ isSymlink machine.steps tree (name :: here) = false ∧
      place ∈ walkFiles machine reading tree skipDirs excludedRoots depth (name :: here) := by
  simp only [walkFiles] at found
  split at found
  · simp at found
  · rcases List.mem_append.mp found with direct | deeper
    · obtain ⟨name, listed, rfl⟩ := List.mem_map.mp direct
      simp only [List.mem_filter, Bool.and_eq_true, Bool.not_eq_true'] at listed
      obtain ⟨⟨inside, _⟩, ⟨shown, plain⟩, filed⟩ := listed
      exact .inl ⟨name, inside, rfl, shown, plain, filed⟩
    · obtain ⟨name, listed, walked⟩ := List.mem_flatMap.mp deeper
      simp only [List.mem_filter, Bool.not_eq_true'] at listed
      obtain ⟨⟨inside, _⟩, kept⟩ := listed
      split at walked
      · simp at walked
      · rename_i plain
        exact .inr ⟨name, inside, kept, by simpa using plain, walked⟩

theorem walkFiles_file {depth : Nat} {here place : Path}
    (short : ∀ entry ∈ tree.keys, entry.length ≤ machine.steps) (real : Real tree here)
    (found : place ∈ walkFiles machine reading tree skipDirs excludedRoots depth here) :
    Real tree place ∧ (tree.get? place).any Node.isFile = true ∧ place.length ≤ machine.steps ∧
      here <:+ place := by
  induction depth generalizing here with
  | zero => simp [walkFiles] at found
  | succ depth ih =>
    rcases walkFiles_cases found with ⟨name, inside, rfl, shown, plain, filed⟩
      | ⟨name, inside, kept, plain, walked⟩
    · obtain ⟨realPlace, bound⟩ := walked_entry short real inside shown plain
      rw [statAt_of_real realPlace] at filed
      exact ⟨realPlace, filed, bound, List.suffix_cons name here⟩
    · have shown : isHidden name = false := by
        simp only [skipDirectory, Bool.or_eq_false_iff] at kept
        exact kept.1.1.1.1
      obtain ⟨realPlace, _⟩ := walked_entry short real inside shown plain
      obtain ⟨realFound, filed, fits, below⟩ := ih realPlace walked
      exact ⟨realFound, filed, fits, (List.suffix_cons name here).trans below⟩

/-- How many entries there are below a place. -/
def below (tree : Tree) (here : Path) : Nat :=
  tree.keys.countP fun place => here.isSuffixOf place && place ≠ here

end Walk

section Groups

theorem groupFiles_get {walked : List Path} {digest : Text} {members : List Path}
    (found : (groupFiles reading tree walked).get? digest = some members) :
    members = walked.filter fun path => digestOf reading tree path = some digest := by
  have grown : ∀ (rest : List Path) (groups : Dict Text (List Path)),
      ((rest.foldl (groupFile reading tree) groups).get? digest).getD [] =
      (groups.get? digest).getD [] ++ rest.filter fun path =>
        digestOf reading tree path = some digest := by
    intro rest
    induction rest with
    | nil => simp
    | cons path rest ih =>
      intro groups
      rw [List.foldl_cons, ih]
      cases hashed : digestOf reading tree path with
      | none => simp [groupFile, hashed]
      | some other =>
        by_cases same : other = digest
        · subst same
          simp [groupFile, hashed]
        · simp [groupFile, hashed, same, Dict.get?_set_other]
  have whole := grown walked Dict.empty
  rw [← groupFiles, found] at whole
  simpa using whole

theorem pickKeeper_mem {strategy : Strategy} {members : List Path} {keeper : Path}
    (picked : pickKeeper reading tree strategy members = some keeper) : keeper ∈ members :=
  (List.mem_insertionSort _).mp (List.mem_of_head? picked)

theorem planGroups_mem {strategy : Strategy} {maxOperations : Int}
    {groups : List (Text × List Path)} {start operations : List FileOperation}
    {operation : FileOperation}
    (planned : planGroups reading tree strategy maxOperations groups start = .ok operations)
    (member : operation ∈ operations) :
    operation ∈ start ∨ ∃ digest members keeper path, (digest, members) ∈ groups ∧
      pickKeeper reading tree strategy members = some keeper ∧ path ∈ members ∧ path ≠ keeper ∧
      operation = removal strategy keeper path := by
  induction groups generalizing start with
  | nil =>
    cases planned
    exact Or.inl member
  | cons group rest ih =>
    obtain ⟨digest, members⟩ := group
    have later : ∀ {middle}, planGroups reading tree strategy maxOperations rest middle =
        .ok operations →
        operation ∈ middle ∨ ∃ other others keeper path, (other, others) ∈ (digest, members) :: rest ∧
          pickKeeper reading tree strategy others = some keeper ∧ path ∈ others ∧ path ≠ keeper ∧
          operation = removal strategy keeper path := by
      intro middle continued
      rcases ih continued with early | ⟨other, others, keeper, path, inside, facts⟩
      · exact Or.inl early
      · exact Or.inr ⟨other, others, keeper, path, List.mem_cons_of_mem _ inside, facts⟩
    simp only [planGroups] at planned
    split at planned
    · exact later planned
    · split at planned
      · cases planned
        exact Or.inl member
      · cases picked : pickKeeper reading tree strategy members with
        | none => simp [picked] at planned
        | some keeper =>
          simp only [picked] at planned
          split at planned
          · contradiction
          · rcases later planned with early | found
            · rcases List.mem_append.mp early with before | now
              · exact Or.inl before
              · obtain ⟨path, removed, shape⟩ := List.mem_map.mp now
                simp only [List.mem_filter, decide_eq_true_eq] at removed
                exact Or.inr ⟨digest, members, keeper, path, List.mem_cons_self, picked,
                  removed.1, removed.2, shape.symm⟩
            · exact Or.inr found

/-- What the planner walked. -/
def walkedFrom (machine : Machine) (reading : Reading) (organiser : FileOrganiserConfig)
    (excludedRoots : List Path) (tree : Tree) (root : Path) : List Path :=
  walkFiles machine reading tree organiser.skipDirs excludedRoots (tree.entries.length + 1) root

theorem planned_removal {organiser : FileOrganiserConfig} {excludedRoots : List Path}
    {given : Option Text} {operations : List FileOperation} {operation : FileOperation}
    (planned : planDuplicateCleanup machine reading organiser excludedRoots given tree =
      .ok operations)
    (member : operation ∈ operations) :
    ∃ strategy root, strategyFor given organiser.actions.duplicateStrategy = some strategy ∧
      realPath machine.steps tree organiser.scanRoot = some root ∧
      ∃ digest keeper path, operation = removal strategy keeper path ∧ path ≠ keeper ∧
        path ∈ walkedFrom machine reading organiser excludedRoots tree root ∧
        digestOf reading tree path = some digest ∧
        pickKeeper reading tree strategy
          ((walkedFrom machine reading organiser excludedRoots tree root).filter
          fun path => digestOf reading tree path = some digest) = some keeper := by
  simp only [planDuplicateCleanup] at planned
  cases chosen : strategyFor given organiser.actions.duplicateStrategy with
  | none => simp [chosen] at planned
  | some strategy =>
    cases led : realPath machine.steps tree organiser.scanRoot with
    | none => simp [chosen, led] at planned
    | some root =>
      rw [chosen, led] at planned
      dsimp only at planned
      split at planned
      · cases planned
        contradiction
      · rcases planGroups_mem planned member with early | ⟨digest, members, keeper, path,
          inside, picked, among, other, shape⟩
        · contradiction
        · have found := Dict.get?_eq_some.mpr ((List.mem_insertionSort _).mp inside)
          have group := groupFiles_get found
          rw [group] at picked among
          simp only [List.mem_filter, decide_eq_true_eq] at among
          exact ⟨strategy, root, rfl, rfl, digest, keeper, path, shape, other, among.1,
            among.2, picked⟩

end Groups

theorem resolveWithin_walked {root place : Path} (real : Real tree place)
    (short : place.length ≤ machine.steps) (below : root <:+ place) :
    resolveWithin machine tree root place = .within place := by
  rw [resolveWithin, realPath_of_real real short]
  simp [isWithin, below]

end SysadminAssistant.Files
