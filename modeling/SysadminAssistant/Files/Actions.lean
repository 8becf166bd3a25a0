import SysadminAssistant.Files.SystemCalls

namespace SysadminAssistant.Files

open Python

/-! `sysadmin/files/actions.py`: carrying out a manifest. -/

inductive Status where
  | planned | done | skipped | failed
deriving DecidableEq

structure FileOperation where
  action : Text
  source : Path
  destination : Option Path
  status : Status
  reason : Option Text
  keepPath : Option Path
deriving DecidableEq

structure FileActionsConfig where
  duplicateStrategy : Text := text "newest"
  maxOperations : Int := 200
  allowPermanentDelete : Bool := false
  trashDir : Option Path := none

structure FileOrganiserConfig where
  scanRoot : Path
  skipDirs : List Text := [".git", ".cache", ".local", ".config", ".var", ".mozilla", ".steam",
    "node_modules", "__pycache__", ".venv"].map text
  actions : FileActionsConfig := {}

/-- `str(path)`. -/
def pathText (path : Path) : Text :=
  if path = [] then text "/" else path.reverse.flatMap fun name => text "/" ++ name

/-! Root confinement. -/

/-- `Path.resolve` and the check; a loop of links is a `RuntimeError`. -/
inductive Resolution where
  | loops
  | escapes
  | within (place : Path)
deriving DecidableEq

def isWithin (root place : Path) : Bool := root.isSuffixOf place

def resolveWithin (machine : Machine) (tree : Tree) (root path : Path) : Resolution :=
  match realPath machine.steps tree path with
  | none => .loops
  | some place => if isWithin root place then .within place else .escapes

def escapeText (path : Path) : Text :=
  text "refusing to operate on " ++ pathText path ++ text ": resolves outside the allowed roots"

/-! The XDG trash. -/

def trashRootFor (home : Path) (configured : Option Path) : Path :=
  configured.getD (text "Trash" :: text "share" :: text ".local" :: home)

def trashIsUsable (machine : Machine) (faults : Faults) (source trashRoot : Path) : Sys Bool := do
  let filesDir := text "files" :: trashRoot
  match ← Sys.attempt (makeDirs machine faults 0 filesDir) with
  | .error _ => pure false
  | .ok () => match faults .device, realPath machine.steps (← Sys.get) filesDir with
      | none, some files => pure (machine.device files = machine.device source)
      | _, _ => pure false

/-- `Path.stem` and `Path.suffix`. -/
def stemAndSuffix (name : Text) : Text × Text :=
  match name.reverse.span (· ≠ codePoint '.') with
  | (c :: ending, _ :: d :: beginning) =>
    ((d :: beginning).reverse, codePoint '.' :: (c :: ending).reverse)
  | _ => (name, [])

def candidateName (name : Text) : Nat → Text
  | 0 => name
  | counter + 1 =>
    (stemAndSuffix name).1 ++ text "." ++ intText (counter + 1 : Nat) ++ (stemAndSuffix name).2

def infoName (name : Text) : Text := name ++ text ".trashinfo"

def nameTaken (machine : Machine) (tree : Tree) (files info : Path) (name : Text) : Bool :=
  existsAt machine.steps tree (name :: files) || existsAt machine.steps tree (infoName name :: info)

/-- The `while` loop, from `counter` on, for so many turns. -/
def freeName (machine : Machine) (tree : Tree) (files info : Path) (name : Text) : Nat →
    Nat → Option Text
  | 0, _ => none
  | turns + 1, counter =>
    if nameTaken machine tree files info (candidateName name counter) then
      freeName machine tree files info name turns (counter + 1)
    else some (candidateName name counter)

def trashInfo (machine : Machine) (source : Path) : Bytes :=
  (text "[Trash Info]\nPath=" ++ machine.quote (pathText source) ++ text "\nDeletionDate=" ++
    machine.deletedAt ++ text "\n").map fun c => UInt8.ofNat c.val

def sendToTrash (machine : Machine) (faults : Faults) (source trashRoot : Path) : Sys Path := do
  let filesDir := text "files" :: trashRoot
  let infoDir := text "info" :: trashRoot
  makeDirs machine faults 2 filesDir
  makeDirs machine faults 4 infoDir
  let tree ← Sys.get
  match realPath machine.steps tree filesDir, realPath machine.steps tree infoDir with
  | some files, some info =>
    match freeName machine tree files info (source.headD []) (2 * tree.entries.length + 1) 0 with
    | none => Sys.raise .eloop
    | some name => do
      writeInfo machine faults (infoName name :: info) (trashInfo machine source)
      match ← Sys.attempt (rename machine faults source (name :: files)) with
      | .ok () => pure (name :: filesDir)
      | .error errno => do
        unlink (faults .unlinkInfo) (infoName name :: info)
        Sys.raise errno
  | _, _ => Sys.raise .eloop

def safeMove (machine : Machine) (faults : Faults) (source destination : Path) : Sys Unit := do
  makeDirs machine faults 0 destination.tail
  openExclusive machine faults destination
  Sys.guard (faults .close)
  match ← Sys.attempt (rename machine faults source destination) with
  | .ok () => pure ()
  | .error .exdev => do
    copy2 machine faults source destination
    Sys.guard (faults .unlinkSource)
    Sys.remove source
  | .error errno => do
    unlink (faults .unlinkPlaceholder) destination
    Sys.raise errno

/-! Execution. -/

def FileOperation.skip (operation : FileOperation) (reason : Text) : FileOperation :=
  { operation with status := .skipped, reason := some reason }

/-- `none` is a `RuntimeError`. -/
def executeMove (machine : Machine) (faults : Faults) (root : Path) (operation : FileOperation)
    (source : Path) : Sys (Option FileOperation) := do
  match operation.destination with
  | none => pure (some (operation.skip (text "no destination")))
  | some path =>
    let tree ← Sys.get
    match resolveWithin machine tree root path with
    | .loops => pure none
    | .escapes => pure (some (operation.skip (escapeText path)))
    | .within destination =>
      if existsAt machine.steps tree destination || (tree.get? destination).any Node.isLink then
        pure (some (operation.skip (text "destination already exists — not overwriting")))
      else match ← Sys.attempt (safeMove machine faults source destination) with
        | .ok () => pure (some { operation with destination := some destination, status := .done })
        | .error .eexist =>
          pure (some (operation.skip (text "destination appeared during the move — not overwriting")))
        | .error errno => Sys.raise errno

def trashUnavailable : Text :=
  text "trash unavailable for this file (different filesystem); refusing " ++
    text "an unrecoverable delete — set force_delete and enable " ++
    text "actions.allow_permanent_delete to override"

def executeTrash (machine : Machine) (faults : Faults) (trashRoot : Path) (permanentAllowed : Bool)
    (operation : FileOperation) (source : Path) : Sys (Option FileOperation) := do
  if ← trashIsUsable machine faults source trashRoot then
    let destination ← sendToTrash machine faults source trashRoot
    pure (some { operation with destination := some destination, status := .done })
  else if !permanentAllowed then
    pure (some (operation.skip trashUnavailable))
  else
    Sys.guard (faults .unlink)
    Sys.remove source
    pure (some { operation with
      action := text "delete"
      destination := none
      status := .done
      reason := some (text "permanently deleted (trash unavailable, delete forced)") })

/-- What a manifest is executed with. -/
structure Execution where
  machine : Machine
  root : Path
  trashRoot : Path
  permanentAllowed : Bool

/-- One turn of the loop of `execute_plan`. -/
def executeOperation (execution : Execution) (faults : Faults) (operation : FileOperation)
    (tree : Tree) : Option FileOperation × Tree :=
  let machine := execution.machine
  if operation.status ≠ .planned then (some operation, tree)
  else match resolveWithin machine tree execution.root operation.source with
    | .loops => (none, tree)
    | .escapes => (some (operation.skip (escapeText operation.source)), tree)
    | .within source =>
      if isSymlink machine.steps tree operation.source then
        (some (operation.skip (text "source is a symlink — never followed")), tree)
      else if !(statAt machine.steps tree source).any Node.isFile then
        (some (operation.skip (text "source no longer exists")), tree)
      else
        let carried : Sys (Option FileOperation) :=
          if operation.action = text "move"
            then executeMove machine faults execution.root operation source
          else if operation.action = text "trash" then
            executeTrash machine faults execution.trashRoot execution.permanentAllowed operation source
          else pure
            (some (operation.skip (text "unsupported action '" ++ operation.action ++ text "'")))
        match carried tree with
        | (.ok reported, after) => (reported, after)
        | (.error errno, after) =>
          (some { operation with status := .failed, reason := some (machine.errorText errno) }, after)

/-- The loop, over the operations from the one at `index` on. -/
def executeFrom (execution : Execution) (faults : Nat → Faults) :
    Nat → List FileOperation → Tree → Option (List FileOperation) × Tree
  | _, [], tree => (some [], tree)
  | index, operation :: rest, tree =>
    match executeOperation execution (faults index) operation tree with
    | (none, after) => (none, after)
    | (some reported, after) =>
      match executeFrom execution faults (index + 1) rest after with
      | (none, final) => (none, final)
      | (some later, final) => (some (reported :: later), final)

/-- `_assert_duplicates_retain_one`. -/
def retainsOne (operations : List FileOperation) : Bool :=
  let removing := (operations.filter fun operation =>
    (operation.action = text "trash" || operation.action = text "delete") &&
      operation.status = .planned).map FileOperation.source
  operations.all fun operation => operation.keepPath.all fun keep => keep ∉ removing

/-- What `execute_plan` finds out before its loop; `none` is a `RuntimeError`. -/
def preparePlan (machine : Machine) (organiser : FileOrganiserConfig) (forceDelete : Bool)
    (home : Option Path) (operations : List FileOperation) (tree : Tree) : Option Execution := do
  let root ← realPath machine.steps tree organiser.scanRoot
  let home ← realPath machine.steps tree (home.getD root)
  guard (retainsOne operations)
  some ⟨machine, root, trashRootFor home organiser.actions.trashDir,
    forceDelete && organiser.actions.allowPermanentDelete⟩

/-- `execute_plan`; `none` is a `RuntimeError`. -/
def executePlan (machine : Machine) (faults : Nat → Faults) (organiser : FileOrganiserConfig)
    (forceDelete : Bool) (home : Option Path) (operations : List FileOperation) (tree : Tree) :
    Option (List FileOperation) × Tree :=
  match preparePlan machine organiser forceDelete home operations tree with
  | none => (none, tree)
  | some execution => executeFrom execution faults 0 operations tree

end SysadminAssistant.Files
