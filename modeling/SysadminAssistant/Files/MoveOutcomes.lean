import SysadminAssistant.Files.CallEffects
import SysadminAssistant.Files.TrashNames

namespace SysadminAssistant.Files

open Python

/-! How a move and a trashing end: carried, given up without a trace, or stranded. -/

variable {machine : Machine} {faults : Faults}

/-- A trash record of `source`, or what was written of it. -/
def RecordOf (machine : Machine) (source : Path) (node : Node) : Prop :=
  ∃ written modified, node = .file ((trashInfo machine source).take written) modified

/-- Nothing changed but what was made where nothing was: directories, and `record`s. -/
def Grows (record : Node → Prop) (before after : Tree) : Prop :=
  ∀ place, after.get? place = before.get? place ∨
    (before.get? place = none ∧ ∃ node, after.get? place = some node ∧
      (node = .directory ∨ record node))

namespace Grows

variable {record : Node → Prop} {first second third : Tree}

theorem refl (tree : Tree) : Grows record tree tree := fun _ => Or.inl rfl

theorem of_adds {allowed : Path → Prop} (adds : AddsDirectories allowed first second) :
    Grows record first second := by
  intro place
  rcases adds place with same | ⟨_, absent, made⟩
  · exact Or.inl same
  · exact Or.inr ⟨absent, .directory, made, Or.inl rfl⟩

theorem kept (grows : Grows record first second) {place : Path} {node : Node}
    (found : first.get? place = some node) : second.get? place = some node := by
  rcases grows place with same | ⟨absent, _⟩
  · rw [same, found]
  · rw [absent] at found
    contradiction

theorem added (grows : Grows record first second) {place : Path} {node : Node}
    (absent : first.get? place = none) (found : second.get? place = some node) :
    node = .directory ∨ record node := by
  rcases grows place with same | ⟨_, made, shown, kind⟩
  · rw [same, absent] at found
    contradiction
  · rw [found] at shown
    cases shown
    exact kind

theorem trans (left : Grows record first second) (right : Grows record second third) :
    Grows record first third := by
  intro place
  rcases left place with same | ⟨absent, node, made, kind⟩
  · rcases right place with again | ⟨absent, node, made, kind⟩
    · exact Or.inl (again.trans same)
    · exact Or.inr ⟨same ▸ absent, node, made, kind⟩
  · exact Or.inr ⟨absent, node, right.kept made, kind⟩

theorem put {place : Path} {node : Node} (absent : first.get? place = none) (kind : record node) :
    Grows record first (first.set place node) := by
  intro other
  by_cases same : place = other
  · subst same
    exact Or.inr ⟨absent, node, Dict.get?_set_self first place node, Or.inr kind⟩
  · exact Or.inl (Dict.get?_set_other first node same)

theorem erase {place : Path} (grows : Grows record first second)
    (absent : first.get? place = none) : Grows record first (second.erase place) := by
  intro other
  rw [Dict.get?_erase]
  by_cases same : place = other
  · subst same
    simp [absent]
  · simpa [same] using grows other

theorem sameLinks (grows : Grows record first second)
    (plain : ∀ node, record node → node.isLink = false) : SameLinks first second := by
  apply SameLinks.of_change
  intro place
  rcases grows place with same | ⟨absent, node, made, kind⟩
  · exact Or.inl same.symm
  · refine Or.inr ⟨?_, ?_⟩
    · intro former found
      rw [absent] at found
      contradiction
    · intro latter found
      rw [made] at found
      cases found
      rcases kind with directory | recorded
      · rw [directory]
        rfl
      · exact plain node recorded

end Grows

theorem RecordOf.plain {source : Path} {node : Node} (recorded : RecordOf machine source node) :
    node.isLink = false := by
  obtain ⟨written, modified, rfl⟩ := recorded
  rfl

/-- The file at `source` is at `destination`, where nothing was; otherwise the tree grew. -/
structure Carries (record : Node → Prop) (source destination : Path) (before after : Tree) : Prop where
  vacant : before.get? destination = none
  carried : ∃ content modified stamped, before.get? source = some (.file content modified) ∧
    after.get? destination = some (.file content stamped)
  gone : after.get? source = none
  rest : ∃ grown, Grows record before grown ∧
    ∀ place, place ≠ source → place ≠ destination → after.get? place = grown.get? place

theorem Carries.apart {record : Node → Prop} {source destination : Path} {before after : Tree}
    (carries : Carries record source destination before after) : source ≠ destination := by
  intro same
  obtain ⟨content, modified, stamped, found, _⟩ := carries.carried
  rw [same, carries.vacant] at found
  contradiction

theorem Carries.sameLinks {record : Node → Prop} {source destination : Path} {before after : Tree}
    (carries : Carries record source destination before after)
    (plain : ∀ node, record node → node.isLink = false) : SameLinks before after := by
  obtain ⟨content, modified, stamped, found, placed⟩ := carries.carried
  obtain ⟨grown, grows, elsewhere⟩ := carries.rest
  refine (grows.sameLinks plain).trans (SameLinks.of_change fun place => ?_)
  by_cases isSource : place = source
  · subst isSource
    refine Or.inr ⟨?_, ?_⟩
    · intro node present
      rw [grows.kept found] at present
      cases present
      rfl
    · intro node present
      rw [carries.gone] at present
      contradiction
  · by_cases isDestination : place = destination
    · subst isDestination
      refine Or.inr ⟨?_, ?_⟩
      · intro node present
        rcases grows place with same | ⟨_, made, shown, kind⟩
        · rw [same, carries.vacant] at present
          contradiction
        · rw [shown] at present
          cases present
          rcases kind with directory | recorded
          · rw [directory]
            rfl
          · exact plain node recorded
      · intro node present
        rw [placed] at present
        cases present
        rfl
    · exact Or.inl (elsewhere place isSource isDestination).symm

/-! A move. -/

/-- The destination is reserved, and what follows fails where nothing takes it back. -/
def strandsMove (machine : Machine) (faults : Faults) (source destination : Path)
    (tree : Tree) : Bool :=
  match makeDirs machine faults 0 destination.tail tree with
  | (.ok (), made) =>
    (faults .open).isNone && (refusal made destination).isNone &&
      ((faults .close).isSome ||
        match renameFails machine faults source destination with
        | none => false
        | some .exdev =>
          (faults .copyOpen).isSome || (faults .copyData).isSome || (faults .copyStat).isSome ||
            (faults .unlinkSource).isSome
        | some _ => (faults .unlinkPlaceholder).isSome)
  | (.error _, _) => false

inductive MoveOutcome (machine : Machine) (faults : Faults) (source destination : Path)
    (before : Tree) : Except Errno Unit × Tree → Prop where
  | carried (after : Tree) (sound : strandsMove machine faults source destination before = false)
      (carries : Carries (fun _ => False) source destination before after) :
      MoveOutcome machine faults source destination before (.ok (), after)
  | givenUp (errno : Errno) (after : Tree)
      (sound : strandsMove machine faults source destination before = false)
      (grows : Grows (fun _ => False) before after) (free : after.get? destination = none) :
      MoveOutcome machine faults source destination before (.error errno, after)
  | stranded (errno : Errno) (after : Tree)
      (strands : strandsMove machine faults source destination before = true)
      (left : (after.get? destination).any Node.isFile) :
      MoveOutcome machine faults source destination before (.error errno, after)

section Reserved

variable {source destination : Path} {before made : Tree} {content : Bytes} {modified : ℚ}
  {allowed : Path → Prop}

/-- The tree with the destination reserved. -/
def reserved (machine : Machine) (destination : Path) (made : Tree) : Tree :=
  made.set destination (.file [] machine.now)

theorem reserved_placed :
    ((reserved machine destination made).get? destination).any Node.isFile = true := by
  simp [reserved, Node.isFile]

theorem reserved_source (adds : AddsDirectories allowed before made)
    (present : before.get? source = some (.file content modified)) (apart : source ≠ destination) :
    (reserved machine destination made).get? source = some (.file content modified) := by
  rw [reserved, Dict.get?_set_other _ _ (Ne.symm apart), adds.kept present]

theorem carries_of_reserved {after : Tree} {stamped : ℚ} (adds : AddsDirectories allowed before made)
    (present : before.get? source = some (.file content modified))
    (vacant : before.get? destination = none)
    (shape : ∀ place, after.get? place = if place = destination then some (.file content stamped)
      else if place = source then none else (reserved machine destination made).get? place) :
    Carries (fun _ => False) source destination before after := by
  have apart : source ≠ destination := by
    intro same
    rw [same, vacant] at present
    contradiction
  refine ⟨vacant, ⟨content, modified, stamped, present, ?_⟩, ?_, made, Grows.of_adds adds, ?_⟩
  · rw [shape, if_pos rfl]
  · rw [shape, if_neg apart, if_pos rfl]
  · intro place notSource notDestination
    rw [shape, if_neg notDestination, if_neg notSource, reserved,
      Dict.get?_set_other _ _ (Ne.symm notDestination)]

theorem renamed_outcome (adds : AddsDirectories allowed before made)
    (present : before.get? source = some (.file content modified))
    (vacant : before.get? destination = none) (permitted : refusal made destination = none)
    (passes : renameFails machine faults source destination = none) :
    ∃ after, rename machine faults source destination (reserved machine destination made) =
      (.ok (), after) ∧ Carries (fun _ => False) source destination before after := by
  obtain ⟨free, above⟩ := refusal_none permitted
  have apart : source ≠ destination := by
    intro same
    rw [same, vacant] at present
    contradiction
  have stays : (reserved machine destination made).get? destination.tail = some .directory := by
    rw [reserved, Dict.get?_set_other _ _ ?_, above]
    intro same
    rw [← same, free] at above
    contradiction
  refine ⟨_, rename_file passes (reserved_source adds present apart) stays
    (by simp [reserved]) apart, ?_⟩
  refine @carries_of_reserved machine source destination before made content modified
    allowed _ modified adds present vacant fun place => ?_
  rw [Dict.get?_set, Dict.get?_erase]
  simp only [eq_comm]

theorem crossed_outcome (adds : AddsDirectories allowed before made)
    (present : before.get? source = some (.file content modified))
    (vacant : before.get? destination = none) :
    let crossed := (copy2 machine faults source destination >>= fun _ =>
      Sys.guard (faults .unlinkSource) >>= fun _ => Sys.remove source)
        (reserved machine destination made)
    let broken :=
  (faults .copyOpen).isSome || (faults .copyData).isSome || (faults .copyStat).isSome ||
      (faults .unlinkSource).isSome
    (broken = false ∧ ∃ after, crossed = (.ok (), after) ∧
      Carries (fun _ => False) source destination before after) ∨
    (broken = true ∧ ∃ errno after, crossed = (.error errno, after) ∧
      (after.get? destination).any Node.isFile = true) := by
  have apart : source ≠ destination := by
    intro same
    rw [same, vacant] at present
    contradiction
  have here :=
    @reserved_source machine source destination before made content modified allowed adds
      present apart
  dsimp only
  by_cases faulty : faults .copyOpen ≠ none ∨ faults .copyData ≠ none ∨ faults .copyStat ≠ none
  · obtain ⟨errno, after, fails, left⟩ := copy2_broken here reserved_placed faulty
    refine Or.inr ⟨?_, errno, after, by rw [Sys.bind_apply, fails], left⟩
    rcases faulty with fault | fault | fault <;> simp [Option.isSome_iff_ne_none.mpr fault]
  · simp only [not_or, not_not] at faulty
    obtain ⟨opens, copies, stats⟩ := faulty
    rw [Sys.bind_apply, copy2_complete here opens copies stats]
    cases unlinks : faults .unlinkSource with
    | some fault =>
      refine Or.inr ⟨by simp, fault.errno, _, rfl, ?_⟩
      simp [Node.isFile]
    | none =>
      refine Or.inl ⟨by simp [opens, copies, stats], _, rfl, ?_⟩
      refine @carries_of_reserved machine source destination before made content modified
        allowed _ modified adds present vacant fun place => ?_
      simp only [Dict.get?_erase, Dict.get?_set]
      by_cases atSource : source = place
      · subst atSource
        simp [apart]
      · by_cases atDestination : destination = place
        · subst atDestination
          simp [atSource]
        · simp [atSource, atDestination, Ne.symm atSource, Ne.symm atDestination]

theorem cleaned_outcome (errno : Errno) (adds : AddsDirectories allowed before made)
    (vacant : before.get? destination = none) :
    let cleaned :=
  (unlink (faults .unlinkPlaceholder) destination >>= fun _ => (Sys.raise errno : Sys Unit))
      (reserved machine destination made)
    ∃ errno after, cleaned = (.error errno, after) ∧
      if (faults .unlinkPlaceholder).isSome then (after.get? destination).any Node.isFile = true
      else Grows (fun _ => False) before after ∧ after.get? destination = none := by
  dsimp only
  cases unlinks : faults .unlinkPlaceholder with
  | some fault =>
    simp only [unlink, Sys.bind_apply, Option.isSome_some, if_true]
    by_cases missing : fault.errno = .enoent
    · refine ⟨errno, reserved machine destination made, ?_, reserved_placed⟩
      simp only [missing, if_true, Sys.pure_apply, Sys.raise_apply]
    · refine ⟨fault.errno, reserved machine destination made, ?_, reserved_placed⟩
      simp only [if_neg missing, Sys.raise_apply]
  | none =>
    refine ⟨errno, (reserved machine destination made).erase destination, rfl, ?_⟩
    refine ⟨fun place => ?_, by simp [Dict.get?_erase]⟩
    by_cases same : destination = place
    · subst same
      exact Or.inl (by simp [Dict.get?_erase, vacant])
    · rw [Dict.get?_erase, if_neg same, reserved, Dict.get?_set_other _ _ same]
      exact Grows.of_adds adds place

end Reserved

theorem safeMove_reserved {source destination : Path} {before made : Tree} {content : Bytes}
    {modified : ℚ} {allowed : Path → Prop}
    (present : before.get? source = some (.file content modified))
    (vacant : before.get? destination = none) (adds : AddsDirectories allowed before made)
    (prepared : makeDirs machine faults 0 destination.tail before = (.ok (), made))
    (opens : faults .open = none) (permitted : refusal made destination = none) :
    MoveOutcome machine faults source destination before
      (safeMove machine faults source destination before) := by
  have opened : openExclusive machine faults destination made =
      (.ok (), reserved machine destination made) := by
    simp [openExclusive, opens, permitted, Sys.bind_apply, Sys.guard_none, Sys.get_apply,
      Sys.put_apply, reserved]
  simp only [safeMove, Sys.bind_apply, prepared, opened]
  cases closes : faults .close with
  | some fault =>
    exact .stranded _ _ (by simp [strandsMove, prepared, opens, permitted, closes]) reserved_placed
  | none =>
    simp only [Sys.guard_none, Sys.attempt_apply]
    cases fails : renameFails machine faults source destination with
    | none =>
      obtain ⟨after, renamed, carries⟩ := renamed_outcome adds present vacant permitted fails
      rw [renamed]
      exact .carried after (by simp [strandsMove, prepared, closes, fails]) carries
    | some errno =>
      rw [rename_fails fails]
      by_cases across : errno = .exdev
      · subst across
        have decided : strandsMove machine faults source destination before =
            ((faults .copyOpen).isSome || (faults .copyData).isSome ||
              (faults .copyStat).isSome || (faults .unlinkSource).isSome) := by
          simp [strandsMove, prepared, opens, permitted, closes, fails]
        rcases @crossed_outcome machine faults source destination before made content modified allowed
          adds present vacant
            with ⟨whole, after, crossed, carries⟩ | ⟨broken, errno, after, crossed, left⟩
        · dsimp only
          rw [crossed]
          exact .carried after (decided.trans whole) carries
        · dsimp only
          rw [crossed]
          exact .stranded errno after (decided.trans broken) left
      · have decided : strandsMove machine faults source destination before =
            (faults .unlinkPlaceholder).isSome := by
          simp only [strandsMove, prepared, opens, permitted, closes, fails, Option.isNone_none,
            Option.isSome_none, Bool.true_and, Bool.false_or]
        obtain ⟨raised, after, cleaned, left⟩ :=
          @cleaned_outcome machine faults destination before made allowed errno adds vacant
        have taken : MoveOutcome machine faults source destination before
            ((unlink (faults .unlinkPlaceholder) destination >>= fun _ =>
              (Sys.raise errno : Sys Unit)) (reserved machine destination made)) := by
          rw [cleaned]
          split at left
          · rename_i faulty
            exact .stranded raised after (decided.trans faulty) left
          · rename_i clean
            exact .givenUp raised after (decided.trans (by simpa using clean)) left.1 left.2
        cases errno with
        | exdev => exact absurd rfl across
        | _ => exact taken

theorem safeMove_outcome {source destination : Path} {before : Tree} {content : Bytes}
    {modified : ℚ} (present : before.get? source = some (.file content modified))
    (vacant : before.get? destination = none) (real : Real before destination)
    (short : destination.length ≤ machine.steps) :
    MoveOutcome machine faults source destination before
      (safeMove machine faults source destination before) := by
  have adds := @makeDirs_real machine faults destination.tail before 0 real.tail
    (by rw [List.length_tail]; omega)
  have outside : ¬ (destination <:+ destination.tail ∧ destination ≠ []) := by
    intro inside
    have shorter := inside.1.length_le
    cases destination with
    | nil => exact inside.2 rfl
    | cons name directory => simp at shorter
  cases prepared : makeDirs machine faults 0 destination.tail before with
  | mk result made =>
    rw [prepared] at adds
    cases result with
    | error errno =>
      simp only [safeMove, Sys.bind_apply, prepared]
      refine .givenUp errno made (by simp only [strandsMove, prepared]) (Grows.of_adds adds) ?_
      rw [adds.still outside, vacant]
    | ok =>
      cases opened : openExclusive machine faults destination made with
      | mk result after =>
        cases result with
        | error errno =>
          obtain ⟨same, refused⟩ := openExclusive_error opened
          subst same
          simp only [safeMove, Sys.bind_apply, prepared, opened]
          refine .givenUp errno after ?_ (Grows.of_adds adds) (by rw [adds.still outside, vacant])
          simp only [strandsMove, prepared]
          rw [Bool.and_eq_false_iff]
          left
          rw [← Bool.not_eq_true, Bool.and_eq_true, Option.isNone_iff_eq_none,
            Option.isNone_iff_eq_none]
          exact refused
        | ok =>
          obtain ⟨opens, permitted, _⟩ := openExclusive_ok opened
          exact safeMove_reserved present vacant adds prepared opens permitted

end SysadminAssistant.Files
