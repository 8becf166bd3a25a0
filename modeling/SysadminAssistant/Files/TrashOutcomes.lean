import SysadminAssistant.Files.MoveOutcomes

namespace SysadminAssistant.Files

open Python

/-! A trashing: two files in two directories, and what a link there does to them. -/

variable {machine : Machine} {faults : Faults}

theorem link_of_missing {tree : Tree} {place : Path} {node : Node}
    (missing : existsAt machine.steps tree place = false) (present : tree.get? place = some node) :
    ∃ absolute target, node = .link absolute target ∧
      ∀ there, follow tree machine.steps (if absolute then [] else place.tail) target = some there →
        tree.get? there = none := by
  cases place with
  | nil => simp [existsAt, statAt, present] at missing
  | cons name directory =>
    cases node with
    | link absolute target =>
      refine ⟨absolute, target, rfl, fun there led => ?_⟩
      simp only [List.tail_cons] at led
      simpa [existsAt, statAt, present, led] using missing
    | _ => simp [existsAt, statAt, present] at missing

/-- A record is put where nothing was, or nothing is done. -/
def Puts (there : Path) (content : Bytes) (before after : Tree) : Prop :=
  after = before ∨ ∃ written modified, before.get? there = none ∧
    after = before.set there (.file (content.take written) modified)

theorem Puts.grows {source there : Path} {before after : Tree}
    (puts : Puts there (trashInfo machine source) before after) :
    Grows (RecordOf machine source) before after := by
  rcases puts with same | ⟨written, modified, absent, shape⟩
  · rw [same]
    exact Grows.refl before
  · rw [shape]
    exact Grows.put absent ⟨written, modified, rfl⟩

theorem writeInfo_there {tree : Tree} {place there : Path} {content : Bytes}
    (absent : tree.get? there = none) (opened : openedAt machine.steps tree place = some there) :
    Puts there content tree (writeInfo machine faults place content tree).2 := by
  simp only [writeInfo, Sys.bind_apply]
  cases faults .openInfo with
  | some fault => exact Or.inl rfl
  | none =>
    simp only [Sys.guard_none, Sys.get_apply, opened, absent]
    cases refusal tree there with
    | some errno => exact Or.inl rfl
    | none =>
      cases faults .writeInfo with
      | some fault => exact Or.inr ⟨fault.written, machine.now, absent, rfl⟩
      | none => exact Or.inr ⟨content.length, machine.now, absent, by rw [List.take_length]; rfl⟩

theorem writeInfo_puts {tree : Tree} {place : Path} (content : Bytes)
    (missing : existsAt machine.steps tree place = false) :
    ∃ there, Puts there content tree (writeInfo machine faults place content tree).2 ∧
      (tree.get? place = none → there = place) := by
  cases present : tree.get? place with
  | none => exact ⟨place, writeInfo_there present (by rw [openedAt, present]), fun _ => rfl⟩
  | some node =>
    obtain ⟨absolute, target, rfl, nowhere⟩ := link_of_missing missing present
    cases led : follow tree machine.steps (if absolute then [] else place.tail) target with
    | some there =>
      refine ⟨there, writeInfo_there (nowhere there led) (by rw [openedAt, present]; exact led), ?_⟩
      intro absent
      contradiction
    | none =>
      refine ⟨place, Or.inl ?_, fun _ => rfl⟩
      simp only [writeInfo, Sys.bind_apply]
      cases faults .openInfo with
      | some fault => rfl
      | none =>
        simp only [Sys.guard_none, Sys.get_apply, openedAt, present, led]
        rfl

/-- The record is written, and then a link in the trash is overwritten or taken away. -/
def strandsRecord (machine : Machine) (faults : Faults) (source files info : Path) (name : Text)
    (made : Tree) : Bool :=
  match writeInfo machine faults (infoName name :: info) (trashInfo machine source) made with
  | (.ok (), written) =>
    if renames machine faults source (name :: files) written
      then (made.get? (name :: files)).any Node.isLink
    else (made.get? (infoName name :: info)).any Node.isLink && (faults .unlinkInfo).isNone
  | (.error _, _) => false

def strandsTrash (machine : Machine) (faults : Faults) (source trashRoot : Path)
    (tree : Tree) : Bool :=
  let filesDir := text "files" :: trashRoot
  let infoDir := text "info" :: trashRoot
  match trashIsUsable machine faults source trashRoot tree with
  | (.ok true, usable) => match makeDirs machine faults 2 filesDir usable with
      | (.ok (), first) => match makeDirs machine faults 4 infoDir first with
          | (.ok (), made) => match realPath machine.steps made filesDir,
              realPath machine.steps made infoDir with
              | some files, some info =>
                (freeName machine made files info (source.headD [])
                  (2 * made.entries.length + 1) 0).any
                  fun name => strandsRecord machine faults source files info name made
              | _, _ => false
          | (.error _, _) => false
      | (.error _, _) => false
  | _ => false

inductive TrashOutcome (machine : Machine) (source : Path) (strands : Bool) (before : Tree) :
    Except Errno Path × Tree → Prop where
  | carried (reported place : Path) (after : Tree) (sound : strands = false)
      (carries : Carries (RecordOf machine source) source place before after)
      (entry : entryOf machine.steps after reported = some place) :
      TrashOutcome machine source strands before (.ok reported, after)
  | givenUp (errno : Errno) (after : Tree) (sound : strands = false)
      (grows : Grows (RecordOf machine source) before after) :
      TrashOutcome machine source strands before (.error errno, after)
  | stranded (result : Except Errno Path) (after : Tree) (stranded : strands = true)
      (lost : ∃ place node, node.isLink = true ∧ before.get? place = some node ∧
        after.get? place ≠ some node) :
      TrashOutcome machine source strands before (result, after)

theorem any_isLink {found : Option Node} (linked : found.any Node.isLink = true) :
    ∃ node, node.isLink = true ∧ found = some node := by
  cases found with
  | none => simp at linked
  | some node => exact ⟨node, by simpa using linked, rfl⟩

theorem record_outcome {source filesDir files info : Path} {name : Text} {made : Tree}
    {content : Bytes} {modified : ℚ} (present : made.get? source = some (.file content modified))
    (free : nameTaken machine made files info name = false)
    (leads : realPath machine.steps made filesDir = some files) (down : name ≠ parent) :
    TrashOutcome machine source (strandsRecord machine faults source files info name made) made
      ((do
        writeInfo machine faults (infoName name :: info) (trashInfo machine source)
        match ← Sys.attempt (rename machine faults source (name :: files)) with
        | .ok () => pure (name :: filesDir)
        | .error errno => do
          unlink (faults .unlinkInfo) (infoName name :: info)
          Sys.raise errno : Sys Path) made) := by
  rw [nameTaken, Bool.or_eq_false_iff] at free
  obtain ⟨filesFree, infoFree⟩ := free
  obtain ⟨there, puts, _⟩ := @writeInfo_puts machine faults made (infoName name :: info)
    (trashInfo machine source) infoFree
  have apart : source ≠ name :: files := by
    intro same
    subst same
    simp [existsAt, statAt, present] at filesFree
  simp only [strandsRecord, Sys.bind_apply]
  cases wrote : writeInfo machine faults (infoName name :: info) (trashInfo machine source) made with
  | mk result written =>
    rw [wrote] at puts
    change Puts there _ made written at puts
    have grows := @Puts.grows machine source there made written puts
    cases result with
    | error errno => exact .givenUp errno written rfl grows
    | ok =>
      have sourceThere := grows.kept present
      have plain : written.get? (name :: files) ≠ some .directory := by
        intro directory
        have former : made.get? (name :: files) = some .directory := by
          rcases puts with same | ⟨count, stamp, absent, shape⟩
          · rw [← same, directory]
          · rw [shape, Dict.get?_set] at directory
            split at directory
            · cases directory
            · exact directory
        simp [existsAt, statAt, former] at filesFree
      simp only [Sys.attempt_apply]
      rcases rename_outcome sourceThere plain apart with ⟨passes, renamed⟩ | ⟨fails, errno, renamed⟩
      · rw [renamed]
        simp only [passes, if_true, Sys.pure_apply]
        cases linked : (made.get? (name :: files)).any Node.isLink with
        | true =>
          obtain ⟨node, isLink, there⟩ := any_isLink linked
          refine .stranded _ _ rfl ⟨name :: files, node, isLink, there, ?_⟩
          rw [Dict.get?_set_self]
          intro same
          cases same
          contradiction
        | false =>
          have vacant : made.get? (name :: files) = none := by
            cases found : made.get? (name :: files) with
            | none => rfl
            | some node =>
              obtain ⟨absolute, target, rfl, _⟩ := link_of_missing filesFree found
              simp [found, Node.isLink] at linked
          have carries : Carries (RecordOf machine source) source (name :: files) made
              ((written.erase source).set (name :: files) (.file content modified)) := by
            refine ⟨vacant, ⟨content, modified, modified, present, by simp⟩, ?_, written, grows, ?_⟩
            · rw [Dict.get?_set_other _ _ (Ne.symm apart), Dict.get?_erase, if_pos rfl]
            · intro place notSource notDestination
              rw [Dict.get?_set_other _ _ (Ne.symm notDestination), Dict.get?_erase,
                if_neg (Ne.symm notSource)]
          refine .carried (name :: filesDir) (name :: files) _ rfl carries ?_
          have same := carries.sameLinks fun node recorded => recorded.plain
          rw [← entryOf_sameLinks same, entryOf, leads, Option.map_some, if_neg down]
      · rw [renamed]
        simp only [fails, Bool.false_eq_true, if_false]
        change TrashOutcome machine source _ made
          ((unlink (faults .unlinkInfo) (infoName name :: info) >>= fun _ =>
            (Sys.raise errno : Sys Path)) written)
        rw [Sys.bind_apply]
        cases unlinks : faults .unlinkInfo with
        | some fault =>
          have sound : ((made.get? (infoName name :: info)).any Node.isLink &&
              (some fault).isNone) = false := by
            simp
          by_cases missing : fault.errno = .enoent
          · simp only [unlink, missing, if_true, Sys.pure_apply, Sys.raise_apply]
            exact .givenUp errno written sound grows
          · simp only [unlink, if_neg missing, Sys.raise_apply]
            exact .givenUp fault.errno written sound grows
        | none =>
          simp only [unlink, Sys.remove_apply, Sys.raise_apply]
          cases linked : (made.get? (infoName name :: info)).any Node.isLink with
          | true =>
            obtain ⟨node, isLink, there⟩ := any_isLink linked
            refine .stranded _ _ rfl ⟨infoName name :: info, node, isLink, there, ?_⟩
            simp [Dict.get?_erase]
          | false =>
            refine .givenUp errno _ rfl (grows.erase ?_)
            cases found : made.get? (infoName name :: info) with
            | none => rfl
            | some node =>
              obtain ⟨absolute, target, rfl, _⟩ := link_of_missing infoFree found
              simp [found, Node.isLink] at linked

theorem TrashOutcome.after {allowed : Path → Prop} {source : Path} {strands : Bool}
    {before made : Tree} {ending : Except Errno Path × Tree}
    (outcome : TrashOutcome machine source strands made ending)
    (adds : AddsDirectories allowed before made) :
    TrashOutcome machine source strands before ending := by
  cases outcome with
  | carried reported place after sound carries entry =>
    refine .carried reported place after sound ?_ entry
    obtain ⟨content, modified, stamped, found, placed⟩ := carries.carried
    obtain ⟨grown, grows, elsewhere⟩ := carries.rest
    refine ⟨adds.absent carries.vacant, ⟨content, modified, stamped, ?_, placed⟩,
      carries.gone, grown, (Grows.of_adds adds).trans grows, elsewhere⟩
    exact adds.former found (by simp)
  | givenUp errno after sound grows =>
    exact .givenUp errno after sound ((Grows.of_adds adds).trans grows)
  | stranded result after stranded lost =>
    obtain ⟨place, node, isLink, there, gone⟩ := lost
    refine .stranded result after stranded ⟨place, node, isLink, adds.former there ?_, gone⟩
    intro directory
    rw [directory] at isLink
    contradiction

theorem trashIsUsable_answers (source trashRoot : Path) (tree : Tree) :
    ∃ answer usable, trashIsUsable machine faults source trashRoot tree = (.ok answer, usable) ∧
      AddsDirectories (fun _ => True) tree usable := by
  have adds := @makeDirs_anywhere machine faults (text "files" :: trashRoot) 0 tree
  simp only [trashIsUsable, Sys.bind_apply, Sys.attempt_apply]
  cases made : makeDirs machine faults 0 (text "files" :: trashRoot) tree with
  | mk result usable =>
    rw [made] at adds
    cases result with
    | error errno => exact ⟨false, usable, rfl, adds⟩
    | ok =>
      simp only [Sys.bind_apply, Sys.get_apply]
      cases faults .device with
      | some fault => exact ⟨false, usable, rfl, adds⟩
      | none =>
        cases realPath machine.steps usable (text "files" :: trashRoot) with
        | none => exact ⟨false, usable, rfl, adds⟩
        | some files => exact ⟨_, usable, rfl, adds⟩

theorem sendToTrash_outcome {source trashRoot : Path} {before usable : Tree} {content : Bytes}
    {modified : ℚ} (present : before.get? source = some (.file content modified))
    (down : source.headD [] ≠ parent)
    (answered : trashIsUsable machine faults source trashRoot before = (.ok true, usable))
    (adds : AddsDirectories (fun _ => True) before usable) :
    TrashOutcome machine source (strandsTrash machine faults source trashRoot before) before
      (sendToTrash machine faults source trashRoot usable) := by
  simp only [strandsTrash, answered, sendToTrash, Sys.bind_apply]
  have grown := @makeDirs_anywhere machine faults (text "files" :: trashRoot) 2 usable
  cases files : makeDirs machine faults 2 (text "files" :: trashRoot) usable with
  | mk result first =>
    rw [files] at grown
    have soFar := adds.trans grown
    cases result with
    | error errno => exact .givenUp errno first rfl (Grows.of_adds soFar)
    | ok =>
      dsimp only
      have again := @makeDirs_anywhere machine faults (text "info" :: trashRoot) 4 first
      cases infos : makeDirs machine faults 4 (text "info" :: trashRoot) first with
      | mk result made =>
        rw [infos] at again
        have whole := soFar.trans again
        cases result with
        | error errno => exact .givenUp errno made rfl (Grows.of_adds whole)
        | ok =>
          simp only [Sys.get_apply]
          cases filesAt : realPath machine.steps made (text "files" :: trashRoot) with
          | none => exact .givenUp .eloop made rfl (Grows.of_adds whole)
          | some files =>
            cases infoAt : realPath machine.steps made (text "info" :: trashRoot) with
            | none => exact .givenUp .eloop made rfl (Grows.of_adds whole)
            | some info =>
              dsimp only
              cases named : freeName machine made files info (source.headD [])
                  (2 * made.entries.length + 1) 0 with
              | none => exact .givenUp .eloop made rfl (Grows.of_adds whole)
              | some name =>
                obtain ⟨⟨count, shape⟩, free⟩ := freeName_some named
                have away : name ≠ parent := shape ▸ candidateName_ne_parent down count
                have here := whole.kept present
                exact (record_outcome here free filesAt away).after whole

end SysadminAssistant.Files
