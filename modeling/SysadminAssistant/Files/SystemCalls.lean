import SysadminAssistant.Files.FileTree

namespace SysadminAssistant.Files

open Python

/-! The system calls of the file actions.  Any of them may fail, and what it did before is left. -/

inductive Errno where
  | exdev | enoent | eexist | enotdir | eloop
  | other (number : Nat)
deriving DecidableEq

/-- The calls that one operation makes. -/
inductive Call where
  | mkdir (path : Path) (attempt : Nat)
  | open | close | rename | unlinkPlaceholder | copyOpen | copyData | copyStat | unlinkSource
  | device | openInfo | writeInfo | unlinkInfo | unlink
deriving DecidableEq

/-- A failure; a write may have written so many bytes. -/
structure Fault where
  errno : Errno
  written : Nat
deriving DecidableEq

abbrev Faults := Call → Option Fault

/-- The machine: how many steps of links it follows, which file system holds a place, and its
clock; `urllib.parse.quote` and the texts of its errors.  Its file names are UTF-8: of another
one, `quote` would raise a `UnicodeEncodeError`. -/
structure Machine where
  steps : Nat
  device : Path → Nat
  now : ℚ
  deletedAt : Text
  quote : Text → Text
  errorText : Errno → Text

/-- What runs against the tree, and may raise an `OSError`. -/
def Sys (α : Type) := Tree → Except Errno α × Tree

namespace Sys

variable {α β : Type}

instance : Monad Sys where
  pure value := fun tree => (.ok value, tree)
  bind action next := fun tree => match action tree with
    | (.ok value, after) => next value after
    | (.error errno, after) => (.error errno, after)

def raise (errno : Errno) : Sys α := fun tree => (.error errno, tree)

/-- `try`, with the exception for the handler. -/
def attempt (action : Sys α) : Sys (Except Errno α) :=
  fun tree => (.ok (action tree).1, (action tree).2)

def get : Sys Tree := fun tree => (.ok tree, tree)

def put (place : Path) (node : Node) : Sys Unit := fun tree => (.ok (), tree.set place node)

def remove (place : Path) : Sys Unit := fun tree => (.ok (), tree.erase place)

/-- A call that fails here does nothing. -/
def guard (fault : Option Fault) : Sys Unit :=
  match fault with
  | some fault => raise fault.errno
  | none => pure ()

theorem pure_apply (value : α) (tree : Tree) : (pure value : Sys α) tree = (.ok value, tree) := rfl

theorem bind_apply (action : Sys α) (next : α → Sys β) (tree : Tree) : (action >>= next) tree =
    match action tree with
    | (.ok value, after) => next value after
    | (.error errno, after) => (.error errno, after) := rfl

theorem raise_apply (errno : Errno) (tree : Tree) :
    (raise errno : Sys α) tree = (.error errno, tree) := rfl

theorem attempt_apply (action : Sys α) (tree : Tree) :
    attempt action tree = (.ok (action tree).1, (action tree).2) := rfl

theorem get_apply (tree : Tree) : get tree = (.ok tree, tree) := rfl

theorem put_apply (place : Path) (node : Node) (tree : Tree) :
    put place node tree = (.ok (), tree.set place node) :=
  rfl

theorem remove_apply (place : Path) (tree : Tree) :
    remove place tree = (.ok (), tree.erase place) := rfl

theorem guard_none (tree : Tree) : guard none tree = (.ok (), tree) := rfl

theorem guard_some (fault : Fault) (tree : Tree) :
    guard (some fault) tree = (.error fault.errno, tree) := rfl

end Sys

/-- Why a new entry cannot be made at `place`. -/
def refusal (tree : Tree) (place : Path) : Option Errno :=
  match tree.get? place with
  | some _ => some .eexist
  | none => match tree.get? place.tail with
      | some .directory => none
      | some _ => some .enotdir
      | none => some .enoent

def mkdir (machine : Machine) (faults : Faults) (path : Path) (attempt : Nat) : Sys Unit := do
  Sys.guard (faults (.mkdir path attempt))
  let tree ← Sys.get
  match entryOf machine.steps tree path with
  | none => Sys.raise .eloop
  | some place => match refusal tree place with
      | some errno => Sys.raise errno
      | none => Sys.put place .directory

/-- `Path.mkdir(exist_ok=True)`, where no parents are made. -/
def makeDir (machine : Machine) (faults : Faults) (path : Path) (attempt : Nat) : Sys Unit := do
  match ← Sys.attempt (mkdir machine faults path attempt) with
  | .ok () => pure ()
  | .error errno =>
    if errno ≠ .enoent && isDir machine.steps (← Sys.get) path then pure () else Sys.raise errno

/-- `Path.mkdir(parents=True, exist_ok=True)`; the calls of one operation for a path are told
apart by their `attempt`. -/
def makeDirs (machine : Machine) (faults : Faults) (attempt : Nat) : Path → Sys Unit
  | [] => makeDir machine faults [] attempt
  | name :: directory => do
    match ← Sys.attempt (makeDir machine faults (name :: directory) attempt) with
    | .error .enoent =>
      makeDirs machine faults attempt directory
      makeDir machine faults (name :: directory) (attempt + 1)
    | .error errno => Sys.raise errno
    | .ok () => pure ()

/-- `os.open` with `O_CREAT | O_EXCL`. -/
def openExclusive (machine : Machine) (faults : Faults) (place : Path) : Sys Unit := do
  Sys.guard (faults .open)
  let tree ← Sys.get
  match refusal tree place with
  | some errno => Sys.raise errno
  | none => Sys.put place (.file [] machine.now)

/-- Why `os.rename` fails, apart from what it finds. -/
def renameFails (machine : Machine) (faults : Faults) (source destination : Path) : Option Errno :=
  match faults .rename with
  | some fault => some fault.errno
  | none => if machine.device source = machine.device destination.tail then none else some .exdev

/-- `os.rename`: whatever file or link stands at the destination is gone. -/
def rename (machine : Machine) (faults : Faults) (source destination : Path) : Sys Unit := do
  match renameFails machine faults source destination with
  | some errno => Sys.raise errno
  | none =>
    let tree ← Sys.get
    match tree.get? source, tree.get? destination.tail, tree.get? destination with
    | some _, some .directory, some .directory => Sys.raise (.other 21)
    | some node, some .directory, _ => if source = destination then pure () else do
        Sys.remove source
        Sys.put destination node
    | _, _, _ => Sys.raise .enoent

/-- `Path.unlink(missing_ok=True)`. -/
def unlink (fault : Option Fault) (place : Path) : Sys Unit := do
  match fault with
  | some fault => if fault.errno = .enoent then pure () else Sys.raise fault.errno
  | none => Sys.remove place

/-- `shutil.copy2` onto the placeholder. -/
def copy2 (machine : Machine) (faults : Faults) (source destination : Path) : Sys Unit := do
  Sys.guard (faults .copyOpen)
  let tree ← Sys.get
  match tree.get? source with
  | some (.file content modified) =>
    match faults .copyData with
    | some fault => do
      Sys.put destination (.file (content.take fault.written) machine.now)
      Sys.raise fault.errno
    | none =>
      Sys.put destination (.file content machine.now)
      Sys.guard (faults .copyStat)
      Sys.put destination (.file content modified)
  | _ => Sys.raise .enoent

/-- Where opening an entry to write leads. -/
def openedAt (steps : Nat) (tree : Tree) (place : Path) : Option Path :=
  match tree.get? place with
  | some (.link absolute target) => follow tree steps (if absolute then [] else place.tail) target
  | _ => some place

/-- `Path.write_text` of a record, through a link if one stands there. -/
def writeInfo (machine : Machine) (faults : Faults) (place : Path) (content : Bytes) : Sys Unit := do
  Sys.guard (faults .openInfo)
  let tree ← Sys.get
  match openedAt machine.steps tree place with
  | none => Sys.raise .eloop
  | some there => match tree.get? there, refusal tree there with
      | some (.file _ _), _ | _, none => match faults .writeInfo with
          | some fault => do
            Sys.put there (.file (content.take fault.written) machine.now)
            Sys.raise fault.errno
          | none => Sys.put there (.file content machine.now)
      | _, some errno => Sys.raise errno

end SysadminAssistant.Files
