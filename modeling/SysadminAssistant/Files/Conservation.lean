import SysadminAssistant.Files.TrashOutcomes
import SysadminAssistant.Library.StepHistory

namespace SysadminAssistant.Files

open Python Library

/-! A manifest conserves the files, as long as no operation of it strands one. -/

variable {machine : Machine} {faults : Faults}

/-- What an operation, reported as `reported`, may do to the tree. -/
structure Conserves (machine : Machine) (operation reported : FileOperation) (before after : Tree) :
    Prop where
  kept : ∀ place node, before.get? place = some node → after.get? place = some node ∨
    (operation.status = .planned ∧ reported.status = .done ∧
      realPath machine.steps before operation.source = some place)
  added : ∀ place node, before.get? place = none → after.get? place = some node →
    node = .directory ∨ (operation.action = text "trash" ∧ ∃ source, RecordOf machine source node) ∨
    (operation.status = .planned ∧ reported.status = .done ∧
      reported.destination.bind (entryOf machine.steps after) = some place)
  done : operation.status = .planned → reported.status = .done →
    ∃ source destination content modified stamped, realPath machine.steps before operation.source =
      some source ∧ reported.destination.bind (entryOf machine.steps after) = some destination ∧
      before.get? source = some (.file content modified) ∧ after.get? source = none ∧
      before.get? destination = none ∧ after.get? destination = some (.file content stamped)
  untouched : operation.status = .planned → reported.status ≠ .done → operation.action = text "move" →
    ∀ path place, operation.destination = some path →
      realPath machine.steps before path = some place → after.get? place = before.get? place

/-- Every file that was is, under one path of its own; what else there is are trash records. -/
structure Relocates (machine : Machine) (before after : Tree) : Prop where
  files : ∃ whereabouts : Path → Path,
    (∀ place content modified, before.get? place = some (.file content modified) →
      ∃ stamped, after.get? (whereabouts place) = some (.file content stamped)) ∧
    (∀ left right, (before.get? left).any Node.isFile → (before.get? right).any Node.isFile →
      whereabouts left = whereabouts right → left = right) ∧
    ∀ place node, after.get? place = some node → node.isFile →
      (∃ source, RecordOf machine source node) ∨
      ∃ origin, (before.get? origin).any Node.isFile ∧ whereabouts origin = place
  others : ∀ place node, before.get? place = some node → node.isFile = false →
    after.get? place = some node

theorem any_isFile {found : Option Node} (file : found.any Node.isFile = true) :
    ∃ content modified, found = some (.file content modified) := by
  cases found with
  | none => simp at file
  | some node =>
    cases node with
    | file content modified => exact ⟨content, modified, rfl⟩
    | _ => simp [Node.isFile] at file

theorem Relocates.refl (machine : Machine) (tree : Tree) : Relocates machine tree tree where
  files := by
    refine ⟨id, fun place content modified found => ⟨modified, found⟩,
      fun left right _ _ same => same, ?_⟩
    intro place node found file
    exact Or.inr ⟨place, by simpa [found] using file, rfl⟩
  others := fun _ _ found _ => found

theorem Relocates.trans {first second third : Tree} (left : Relocates machine first second)
    (right : Relocates machine second third) : Relocates machine first third where
  files := by
    obtain ⟨early, earlyKept, earlyApart, earlyAll⟩ := left.files
    obtain ⟨late, lateKept, lateApart, lateAll⟩ := right.files
    have between : ∀ place, (first.get? place).any Node.isFile →
        (second.get? (early place)).any Node.isFile := by
      intro place file
      obtain ⟨content, modified, found⟩ := any_isFile file
      obtain ⟨stamped, there⟩ := earlyKept place content modified found
      simp [there, Node.isFile]
    refine ⟨late ∘ early, ?_, ?_, ?_⟩
    · intro place content modified found
      obtain ⟨stamped, there⟩ := earlyKept place content modified found
      exact lateKept (early place) content stamped there
    · intro one other oneFile otherFile same
      exact earlyApart one other oneFile otherFile
        (lateApart (early one) (early other) (between one oneFile) (between other otherFile) same)
    · intro place node found file
      rcases lateAll place node found file with record | ⟨origin, originFile, rfl⟩
      · exact Or.inl record
      · obtain ⟨content, modified, there⟩ := any_isFile originFile
        rcases earlyAll origin _ there rfl with ⟨source, written, stamp, same⟩
          | ⟨start, startFile, rfl⟩
        · cases same
          obtain ⟨stamped, moved⟩ := lateKept origin _ _ there
          rw [found] at moved
          exact Or.inl ⟨source, written, stamped, Option.some.inj moved⟩
        · exact Or.inr ⟨start, startFile, rfl⟩
  others :=
    fun place node found plain => right.others place node (left.others place node found plain) plain

section Operation

variable {operation reported : FileOperation} {before after : Tree}

theorem Conserves.unchanged (tree : Tree)
    (idle : operation.status = .planned → reported.status ≠ .done) :
    Conserves machine operation reported tree tree where
  kept := fun _ _ found => Or.inl found
  added := by
    intro place node absent found
    rw [absent] at found
    contradiction
  done := fun planned done => absurd done (idle planned)
  untouched := fun _ _ _ _ _ _ _ => rfl

theorem Conserves.relocates (conserves : Conserves machine operation reported before after) :
    Relocates machine before after := by
  by_cases carried : operation.status = .planned ∧ reported.status = .done
  · obtain ⟨source, destination, content, modified, stamped, leads, entered, present, gone,
        vacant, placed⟩ :=
      conserves.done carried.1 carried.2
    have stays : ∀ place node, before.get? place = some node → place ≠ source →
        after.get? place = some node := by
      intro place node found other
      rcases conserves.kept place node found with same | ⟨_, _, isSource⟩
      · exact same
      · exact absurd (Option.some.inj (isSource.symm.trans leads)) other
    refine ⟨⟨fun place => if place = source then destination else place, ?_, ?_, ?_⟩, ?_⟩
    · intro place content' modified' found
      by_cases isSource : place = source
      · subst isSource
        rw [present] at found
        cases found
        exact ⟨stamped, by simpa using placed⟩
      · exact ⟨modified', by simpa [isSource] using stays place _ found isSource⟩
    · intro left right leftFile rightFile same
      by_cases leftSource : left = source
      · by_cases rightSource : right = source
        · rw [leftSource, rightSource]
        · simp only [leftSource, if_true, if_neg rightSource] at same
          rw [← same, vacant] at rightFile
          simp at rightFile
      · by_cases rightSource : right = source
        · simp only [rightSource, if_true, if_neg leftSource] at same
          rw [same, vacant] at leftFile
          simp at leftFile
        · simpa [leftSource, rightSource] using same
    · intro place node found file
      cases former : before.get? place with
      | some old =>
        have other : place ≠ source := by
          intro same
          rw [same, gone] at found
          contradiction
        have same := stays place old former other
        rw [found] at same
        cases same
        exact Or.inr ⟨place, by simpa [former] using file, by simp [other]⟩
      | none =>
        rcases conserves.added place node former found with directory | ⟨_, record⟩ | ⟨_, _, landed⟩
        · rw [directory] at file
          contradiction
        · exact Or.inl record
        · rw [entered] at landed
          cases landed
          exact Or.inr ⟨source, by simp [present, Node.isFile], by simp⟩
    · intro place node found plain
      apply stays place node found
      intro same
      rw [same, present] at found
      cases found
      contradiction
  · have stays : ∀ place node, before.get? place = some node → after.get? place = some node := by
      intro place node found
      rcases conserves.kept place node found with same | ⟨planned, done, _⟩
      · exact same
      · exact absurd ⟨planned, done⟩ carried
    refine ⟨⟨id, fun place content modified found => ⟨modified, stays place _ found⟩,
      fun left right _ _ same => same, ?_⟩, fun place node found _ => stays place node found⟩
    intro place node found file
    cases former : before.get? place with
    | some old =>
      have same := stays place old former
      rw [found] at same
      cases same
      exact Or.inr ⟨place, by simpa [former] using file, rfl⟩
    | none =>
      rcases conserves.added place node former found with directory | ⟨_, record⟩ | ⟨planned, done, _⟩
      · rw [directory] at file
        contradiction
      · exact Or.inl record
      · exact absurd ⟨planned, done⟩ carried

theorem Conserves.of_grows {record : Node → Prop} (grows : Grows record before after)
    (records : ∀ node, record node → operation.action = text "trash" ∧
      ∃ source, RecordOf machine source node)
    (idle : reported.status ≠ .done)
    (free : operation.action = text "move" → ∀ path place, operation.destination = some path →
      realPath machine.steps before path = some place → after.get? place = before.get? place) :
    Conserves machine operation reported before after where
  kept := fun _ _ found => Or.inl (grows.kept found)
  added := by
    intro place node absent found
    rcases grows.added absent found with directory | recorded
    · exact Or.inl directory
    · exact Or.inr (Or.inl (records node recorded))
  done := fun _ done => absurd done idle
  untouched := fun _ _ => free

theorem Conserves.of_carries {record : Node → Prop} {source destination : Path}
    (carries : Carries record source destination before after)
    (records : ∀ node, record node → operation.action = text "trash" ∧
      ∃ source, RecordOf machine source node)
    (planned : operation.status = .planned) (done : reported.status = .done)
    (leads : realPath machine.steps before operation.source = some source)
    (entered : reported.destination.bind (entryOf machine.steps after) = some destination) :
    Conserves machine operation reported before after where
  kept := by
    intro place node found
    by_cases isSource : place = source
    · exact Or.inr ⟨planned, done, isSource ▸ leads⟩
    · by_cases isDestination : place = destination
      · rw [isDestination, carries.vacant] at found
        contradiction
      · obtain ⟨grown, grows, elsewhere⟩ := carries.rest
        exact Or.inl (by rw [elsewhere place isSource isDestination, grows.kept found])
  added := by
    intro place node absent found
    by_cases isDestination : place = destination
    · exact Or.inr (Or.inr ⟨planned, done, isDestination ▸ entered⟩)
    · obtain ⟨grown, grows, elsewhere⟩ := carries.rest
      have notSource : place ≠ source := by
        intro same
        rw [same, carries.gone] at found
        contradiction
      rw [elsewhere place notSource isDestination] at found
      rcases grows.added absent found with directory | recorded
      · exact Or.inl directory
      · exact Or.inr (Or.inl (records node recorded))
  done := by
    intro _ _
    obtain ⟨content, modified, stamped, present, placed⟩ := carries.carried
    exact ⟨source, destination, content, modified, stamped, leads, entered, present, carries.gone,
      carries.vacant, placed⟩
  untouched := fun _ other => absurd done other

end Operation

/-- The operation gets as far as a call whose failure nothing takes back, or as a link in the trash. -/
def strands (execution : Execution) (faults : Faults) (operation : FileOperation)
    (tree : Tree) : Bool :=
  let machine := execution.machine
  operation.status = .planned &&
    match resolveWithin machine tree execution.root operation.source with
    | .within source =>
      !isSymlink machine.steps tree operation.source &&
        (statAt machine.steps tree source).any Node.isFile &&
        if operation.action = text "move" then operation.destination.any fun path =>
          match resolveWithin machine tree execution.root path with
          | .within destination =>
            !(existsAt machine.steps tree destination || (tree.get? destination).any Node.isLink) &&
              strandsMove machine faults source destination tree
          | _ => false
        else operation.action = text "trash" &&
          strandsTrash machine faults source execution.trashRoot tree
    | _ => false

/-- How an operation ends, with `stranding` for whether it strands. -/
inductive OperationOutcome (machine : Machine) (operation : FileOperation) (stranding : Bool)
    (before : Tree) : Option FileOperation × Tree → Prop where
  | raised (sound : stranding = false) : OperationOutcome machine operation stranding before
      (none, before)
  | conserved (reported : FileOperation) (after : Tree) (sound : stranding = false)
      (conserves : Conserves machine operation reported before after) :
      OperationOutcome machine operation stranding before (some reported, after)
  | broken (reported : FileOperation) (after : Tree) (stranded : stranding = true)
      (breaks : ¬ Conserves machine operation reported before after) :
      OperationOutcome machine operation stranding before (some reported, after)

/-- The handler of `execute_plan`. -/
def settled (machine : Machine) (operation : FileOperation) :
    Except Errno (Option FileOperation) × Tree → Option FileOperation × Tree
  | (.ok reported, after) => (reported, after)
  | (.error errno, after) =>
    (some { operation with status := .failed, reason := some (machine.errorText errno) }, after)

theorem within_real {tree : Tree} {root path place : Path}
    (resolved : resolveWithin machine tree root path = .within place) :
    realPath machine.steps tree path = some place ∧ Real tree place ∧
      place.length ≤ machine.steps := by
  simp only [resolveWithin] at resolved
  cases led : realPath machine.steps tree path with
  | none =>
    rw [led] at resolved
    contradiction
  | some found =>
    rw [led] at resolved
    simp only at resolved
    split at resolved
    · cases resolved
      obtain ⟨real, short⟩ := realPath_real led
      exact ⟨rfl, real, short⟩
    · contradiction

section Outcomes

variable {operation : FileOperation} {before : Tree} {source : Path} {content : Bytes} {modified : ℚ}

theorem OperationOutcome.skipped {stranding : Bool} (reason : Text) (sound : stranding = false) :
    OperationOutcome machine operation stranding before (some (operation.skip reason), before) :=
  .conserved _ _ sound (Conserves.unchanged before fun _ done => by
    simp [FileOperation.skip] at done)

theorem not_conserves_of_stray {reported : FileOperation} {path destination : Path} {after : Tree}
    (planned : operation.status = .planned) (idle : reported.status ≠ .done)
    (moving : operation.action = text "move") (named : operation.destination = some path)
    (leads : realPath machine.steps before path = some destination)
    (vacant : before.get? destination = none) (stray : (after.get? destination).any Node.isFile) :
    ¬ Conserves machine operation reported before after := by
  intro conserves
  have same := conserves.untouched planned idle moving path destination named leads
  rw [same, vacant] at stray
  simp at stray

theorem executeMove_outcome {root : Path} (planned : operation.status = .planned)
    (moving : operation.action = text "move")
    (leads : realPath machine.steps before operation.source = some source)
    (present : before.get? source = some (.file content modified)) :
    OperationOutcome machine operation
      (operation.destination.any fun path => match resolveWithin machine before root path with
        | .within destination =>
          !(existsAt machine.steps before destination || (before.get? destination).any Node.isLink) &&
            strandsMove machine faults source destination before
        | _ => false) before
      (settled machine operation (executeMove machine faults root operation source before)) := by
  cases named : operation.destination with
  | none => 
      simp only [executeMove, named]
      exact .skipped _ rfl
  | some path =>
    simp only [executeMove, named, Sys.bind_apply, Sys.get_apply, Option.any_some]
    cases resolved : resolveWithin machine before root path with
    | loops => exact .raised rfl
    | escapes => exact .skipped _ rfl
    | within destination =>
      obtain ⟨destinationLed, real, short⟩ := within_real resolved
      dsimp only
      cases taken : existsAt machine.steps before destination ||
        (before.get? destination).any Node.isLink with
      | true =>
        simp only [if_true, Bool.not_true, Bool.false_and]
        exact .skipped _ rfl
      | false =>
        rw [Bool.or_eq_false_iff] at taken
        have vacant : before.get? destination = none := by
          have missing := taken.1
          rw [existsAt, statAt_of_real real] at missing
          simpa using missing
        simp only [Bool.false_eq_true, if_false, Bool.not_false, Bool.true_and,
          Sys.bind_apply, Sys.attempt_apply]
        have outcome :=
          @safeMove_outcome machine faults source destination before content modified present
          vacant real short
        cases moved : safeMove machine faults source destination before with
        | mk result after =>
          rw [moved] at outcome
          cases outcome with
          | carried _ sound carries =>
            refine .conserved _ after sound
              (Conserves.of_carries carries (fun _ no => no.elim) planned rfl leads ?_)
            have same := carries.sameLinks fun _ no => no.elim
            simpa using entryOf_of_real (real.sameLinks same) short
          | givenUp errno _ sound grows free =>
            have idle : ∀ reported : FileOperation, reported.status ≠ .done →
                Conserves machine operation reported before after := by
              intro reported idle
              refine Conserves.of_grows grows (fun _ no => no.elim) idle ?_
              intro _ other place same led
              rw [named] at same
              cases same
              rw [destinationLed] at led
              cases led
              rw [free, vacant]
            cases errno with
            | eexist => exact .conserved _ after sound (idle _ (by simp [FileOperation.skip]))
            | _ => exact .conserved _ after sound (idle _ (by simp))
          | stranded errno _ strands left =>
            have breaks : ∀ reported : FileOperation, reported.status ≠ .done →
                ¬ Conserves machine operation reported before after := fun reported idle =>
              not_conserves_of_stray planned idle moving named destinationLed vacant left
            cases errno with
            | eexist => exact .broken _ after strands (breaks _ (by simp [FileOperation.skip]))
            | _ => exact .broken _ after strands (breaks _ (by simp))

theorem executeTrash_outcome {trashRoot : Path} (planned : operation.status = .planned)
    (trashing : operation.action = text "trash")
    (leads : realPath machine.steps before operation.source = some source)
    (present : before.get? source = some (.file content modified)) :
    OperationOutcome machine operation (strandsTrash machine faults source trashRoot before) before
      (settled machine operation
        (executeTrash machine faults trashRoot false operation source before)) := by
  have still : operation.action ≠ text "move" := by
    rw [trashing]
    decide
  have down : source.headD [] ≠ parent := by
    obtain ⟨real, _⟩ := realPath_real leads
    cases source with
    | nil => decide
    | cons name directory => exact (real name directory (List.suffix_refl _)).1
  have records : ∀ node, RecordOf machine source node →
      operation.action = text "trash" ∧ ∃ source, RecordOf machine source node :=
    fun node recorded => ⟨trashing, source, recorded⟩
  obtain ⟨answer, usable, answered, adds⟩ :=
    @trashIsUsable_answers machine faults source trashRoot before
  simp only [executeTrash, Sys.bind_apply, answered]
  cases answer with
  | false =>
    have sound : strandsTrash machine faults source trashRoot before = false := by
      simp only [strandsTrash, answered]
    refine .conserved _ usable sound (Conserves.of_grows (Grows.of_adds adds) records ?_ ?_)
    · simp [FileOperation.skip]
    · exact fun moving => absurd moving still
  | true =>
    simp only [if_true, Sys.bind_apply]
    have outcome :=
      @sendToTrash_outcome machine faults source trashRoot before usable content modified present
      down answered adds
    cases sent : sendToTrash machine faults source trashRoot usable with
    | mk result after =>
      rw [sent] at outcome
      cases outcome with
      | carried reported place _ sound carries entry =>
        exact .conserved _ after sound (Conserves.of_carries carries records planned rfl leads entry)
      | givenUp errno _ sound grows =>
        refine .conserved _ after sound (Conserves.of_grows grows records (by simp) ?_)
        exact fun moving => absurd moving still
      | stranded _ _ stranded lost =>
        obtain ⟨place, node, isLink, there, gone⟩ := lost
        have breaks : ∀ reported, ¬ Conserves machine operation reported before after := by
          intro reported conserves
          rcases conserves.kept place node there with same | ⟨_, _, isSource⟩
          · exact gone same
          · rw [leads] at isSource
            cases isSource
            rw [present] at there
            cases there
            contradiction
        cases result with
        | ok destination => exact .broken _ after stranded (breaks _)
        | error errno => exact .broken _ after stranded (breaks _)

end Outcomes

theorem executeOperation_outcome {execution : Execution} {operation : FileOperation} (before : Tree)
    (unforced : execution.permanentAllowed = false) :
    OperationOutcome execution.machine operation (strands execution faults operation before) before
      (executeOperation execution faults operation before) := by
  by_cases planned : operation.status = .planned
  · simp only [executeOperation, strands, planned, ne_eq, not_true_eq_false, if_false, decide_true,
      Bool.true_and]
    cases resolved : resolveWithin execution.machine before execution.root operation.source with
    | loops => exact .raised rfl
    | escapes => exact .skipped _ rfl
    | within source =>
      obtain ⟨leads, real, short⟩ := within_real resolved
      dsimp only
      cases linked : isSymlink execution.machine.steps before operation.source with
      | true =>
        simp only [if_true, Bool.not_true, Bool.false_and]
        exact .skipped _ rfl
      | false =>
        simp only [Bool.false_eq_true, if_false, Bool.not_false, Bool.true_and, statAt_of_real real]
        cases filed : (before.get? source).any Node.isFile with
        | false =>
          simp only [Bool.not_false, if_true, Bool.false_and]
          exact .skipped _ rfl
        | true =>
          obtain ⟨content, modified, present⟩ := any_isFile filed
          simp only [Bool.not_true, Bool.false_eq_true, if_false, Bool.true_and]
          by_cases moving : operation.action = text "move"
          · simp only [if_pos moving]
            exact executeMove_outcome planned moving leads present
          · simp only [if_neg moving]
            by_cases trashing : operation.action = text "trash"
            · simp only [if_pos trashing, decide_eq_true trashing, Bool.true_and, unforced]
              exact executeTrash_outcome planned trashing leads present
            · simp only [if_neg trashing, decide_eq_false trashing, Bool.false_and]
              exact .skipped _ rfl
  · simp only [executeOperation, strands, planned, ne_eq, not_false_eq_true, if_true, decide_false,
      Bool.false_and]
    exact .conserved operation before rfl (Conserves.unchanged before fun same => absurd same planned)

/-! The whole manifest. -/

/-- One turn of the loop, as a step. -/
def turn (execution : Execution) (faults : Nat → Faults) (tree : Tree)
    (item : FileOperation × Nat) : Option Tree :=
  match executeOperation execution (faults item.2) item.1 tree with
  | (none, _) => none
  | (some _, after) => some after

/-- The operation at hand conserves, if its turn comes to an end. -/
def conservesHere (execution : Execution) (faults : Nat → Faults) (tree : Tree)
    (item : FileOperation × Nat) : Prop :=
  ∀ reported after, executeOperation execution (faults item.2) item.1 tree =
    (some reported, after) → Conserves execution.machine item.1 reported tree after

theorem conservesHere_iff {execution : Execution} (faults : Nat → Faults) (tree : Tree)
    (item : FileOperation × Nat) (unforced : execution.permanentAllowed = false) :
    conservesHere execution faults tree item ↔ strands execution
      (faults item.2) item.1 tree = false := by
  have outcome := @executeOperation_outcome (faults item.2) execution item.1 tree unforced
  simp only [conservesHere]
  cases ran : executeOperation execution (faults item.2) item.1 tree with
  | mk result after =>
    rw [ran] at outcome
    cases outcome with
    | raised sound => simp [sound]
    | conserved reported _ sound conserves =>
      constructor
      · exact fun _ => sound
      · intro _ other final same
        cases same
        exact conserves
    | broken reported _ stranded breaks =>
      constructor
      · exact fun conserves => absurd (conserves reported after rfl) breaks
      · intro sound
        rw [sound] at stranded
        contradiction

theorem executeFrom_relocates {execution : Execution} {faults : Nat → Faults} {index : Nat}
    {operations : List FileOperation} {tree : Tree} (unforced : execution.permanentAllowed = false)
    (conserved : Throughout (turn execution faults) (conservesHere execution faults) tree
      (operations.zipIdx index)) :
    Relocates execution.machine tree (executeFrom execution faults index operations tree).2 := by
  induction operations generalizing index tree with
  | nil => exact Relocates.refl _ tree
  | cons operation rest ih =>
    obtain ⟨here, later⟩ := conserved
    have outcome := @executeOperation_outcome (faults index) execution operation tree unforced
    simp only [executeFrom]
    simp only [turn] at later
    simp only [conservesHere] at here
    cases ran : executeOperation execution (faults index) operation tree with
    | mk result after =>
      rw [ran] at here later outcome
      cases result with
      | none =>
        cases outcome
        exact Relocates.refl _ tree
      | some reported =>
        have first := (here reported after rfl).relocates
        have following := first.trans (ih later)
        dsimp only
        cases ended : executeFrom execution faults (index + 1) rest after with
        | mk reports final =>
          rw [ended] at following
          cases reports with
          | none => exact following
          | some reports => exact following

/-- Every operation conserves, and the manifest relocates, if and only if no operation strands. -/
theorem executePlan_conserves_files (machine : Machine) (faults : Nat → Faults)
    (organiser : FileOrganiserConfig) (forceDelete : Bool) (home : Option Path)
    (operations : List FileOperation) (tree : Tree)
    (unforced : (forceDelete && organiser.actions.allowPermanentDelete) = false) :
    (Relocates machine tree (executePlan machine faults organiser forceDelete home operations tree).2 ∧
      ∀ execution, preparePlan machine organiser forceDelete home operations tree = some execution →
        Throughout (turn execution faults) (conservesHere execution faults) tree operations.zipIdx) ↔
    ∀ execution, preparePlan machine organiser forceDelete home operations tree = some execution →
      Throughout (turn execution faults)
        (fun before item => strands execution (faults item.2) item.1 before = false) tree
          operations.zipIdx := by
  have prepared : ∀ execution, preparePlan machine organiser forceDelete home operations tree =
      some execution → execution.machine = machine ∧ execution.permanentAllowed = false := by
    intro execution prepares
    simp only [preparePlan, Option.bind_eq_bind, Option.bind_eq_some_iff, Option.some.injEq]
      at prepares
    obtain ⟨root, _, place, _, _, _, rfl⟩ := prepares
    exact ⟨rfl, unforced⟩
  have same : ∀ execution, preparePlan machine organiser forceDelete home operations tree =
      some execution →
      conservesHere execution faults = fun before item =>
        strands execution (faults item.2) item.1 before = false := by
    intro execution prepares
    funext before item
    exact propext (conservesHere_iff faults before item (prepared execution prepares).2)
  constructor
  · intro conserved execution prepares
    rw [← same execution prepares]
    exact conserved.2 execution prepares
  · intro sound
    have each : ∀ execution, preparePlan machine organiser forceDelete home operations tree =
        some execution →
        Throughout (turn execution faults) (conservesHere execution faults) tree
          operations.zipIdx := by
      intro execution prepares
      rw [same execution prepares]
      exact sound execution prepares
    refine ⟨?_, each⟩
    simp only [executePlan]
    cases prepares : preparePlan machine organiser forceDelete home operations tree with
    | none => exact Relocates.refl machine tree
    | some execution =>
      obtain ⟨sameMachine, allowed⟩ := prepared execution prepares
      subst sameMachine
      exact executeFrom_relocates allowed (each execution prepares)

/-! `/home/Documents` is another file system. -/

def twoDisks : Machine where
  steps := 8
  device := fun place => if place = path ["home", "Documents"] then 1 else 0
  now := 1
  deletedAt := text "2024-01-01T00:00:00"
  quote := id
  errorText := fun _ => text "PermissionError"

def homeTree : Tree := Dict.ofEntries [
  ([], .directory), (path ["home"], .directory), (path ["home", "Documents"], .directory),
  (path ["home", "cv.txt"], .file [99, 118] 0)]

def homeOrganiser : FileOrganiserConfig := { scanRoot := path ["home"] }

def filing : FileOperation :=
  ⟨text "move", path ["home", "cv.txt"], some (path ["home", "Documents", "cv.txt"]),
    .planned, none, none⟩

def homeExecution : Execution :=
  ⟨twoDisks, path ["home"], path ["home", ".local", "share", "Trash"], false⟩

theorem homeExecution_prepared :
    preparePlan twoDisks homeOrganiser false none [filing] homeTree = some homeExecution := rfl

/-- The copy is complete, but the source cannot be removed. -/
def sticky : Faults := fun call => if call = .unlinkSource then some ⟨.other 1, 0⟩ else none

theorem sticky_not_conserved :
    ¬ (Relocates twoDisks homeTree
        (executePlan twoDisks (fun _ => sticky) homeOrganiser false none [filing] homeTree).2 ∧
      ∀ execution, preparePlan twoDisks homeOrganiser false none [filing] homeTree = some execution →
        Throughout (turn execution fun _ => sticky)
          (conservesHere execution fun _ => sticky) homeTree [filing].zipIdx) := by
  intro conserved
  have here := (conserved.2 homeExecution homeExecution_prepared).1
  let ended := executeOperation homeExecution sticky filing homeTree
  have reported : ended.1 =
      some { filing with status := .failed, reason := some (text "PermissionError") } := by
    decide
  have conserves := here _ ended.2 (Prod.ext reported rfl)
  have same := conserves.untouched rfl (by decide) rfl (path ["home", "Documents", "cv.txt"])
    (path ["home", "Documents", "cv.txt"]) rfl (by decide)
  have copied : (ended.2.get? (path ["home", "Documents", "cv.txt"])).isSome = true := by decide
  rw [same] at copied
  exact absurd copied (by decide)

theorem filing_conserved :
    Relocates twoDisks homeTree
      (executePlan twoDisks (fun _ _ => none) homeOrganiser false none [filing] homeTree).2 := by
  refine ((executePlan_conserves_files twoDisks (fun _ _ => none) homeOrganiser false
    none [filing] homeTree rfl).mpr ?_).1
  intro execution prepares
  rw [homeExecution_prepared] at prepares
  cases prepares
  decide

end SysadminAssistant.Files
