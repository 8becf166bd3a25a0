import Mathlib.Data.List.Sort
import SysadminAssistant.Files.Actions

namespace SysadminAssistant.Files

open Python

/-! `sysadmin/files/actions.py`: planning the removal of duplicates. -/

/-- Directory names never entered, whatever the config says. -/
def protectedDirNames : List Text :=
  [".git", ".svn", ".hg", ".bzr", "node_modules", "__pycache__", ".venv", "venv", ".tox",
    ".pytest_cache", ".mypy_cache", ".ruff_cache", ".cache", ".config", ".local", ".ssh", ".gnupg",
    "site-packages", ".Trash", "Trash"].map text

def minDuplicateBytes : Nat := 1024

def fingerprintBytes : Nat := 1024 * 1024

/-- `hashlib.md5(..).hexdigest()`, and which paths the planner can list, size, read and stat. -/
structure Reading where
  digest : Bytes → Text
  lists : Path → Bool
  sizes : Path → Bool
  reads : Path → Bool
  stats : Path → Bool

/-- The names in a directory, as `os.scandir` gives them. -/
def listing (tree : Tree) (here : Path) : List Text :=
  tree.entries.filterMap fun entry => match entry.1 with
    | [] => none
    | name :: directory => if directory = here then some name else none

def isHidden (name : Text) : Bool := name.head? = some (codePoint '.')

def skipDirectory (machine : Machine) (tree : Tree) (skipDirs : List Text)
    (excludedRoots : List Path) (dirpath : Path) (name : Text) : Bool :=
  isHidden name || protectedDirNames.contains name || skipDirs.contains name ||
    isSymlink machine.steps tree dirpath ||
    (realPath machine.steps tree dirpath).all fun resolved => excludedRoots.any fun root =>
      isWithin root resolved

/-- `walk_files`, so many directories deep. -/
def walkFiles (machine : Machine) (reading : Reading) (tree : Tree) (skipDirs : List Text)
    (excludedRoots : List Path) : Nat → Path → List Path
  | 0, _ => []
  | depth + 1, here =>
    if !reading.lists here then []
    else
      let names := listing tree here
      let isDirectory := fun name => statAt machine.steps tree (name :: here) = some .directory
      let filenames := names.filter fun name => !isDirectory name
      let dirnames := (names.filter fun name => isDirectory name).filter fun name =>
        !skipDirectory machine tree skipDirs excludedRoots (name :: here) name
      ((filenames.filter fun name => !isHidden name && !isSymlink machine.steps tree (name :: here) &&
          (statAt machine.steps tree (name :: here)).any Node.isFile).map fun name => name :: here) ++
        dirnames.flatMap fun name =>
          if isSymlink machine.steps tree (name :: here) then []
          else walkFiles machine reading tree skipDirs excludedRoots depth (name :: here)

def sizeOf (reading : Reading) (tree : Tree) (path : Path) : Nat :=
  if !reading.sizes path then 0
  else match tree.get? path with
    | some (.file content _) => content.length
    | _ => 0

def fileHash (reading : Reading) (tree : Tree) (path : Path) (size : Nat) : Option Text :=
  if !reading.reads path then none
  else match tree.get? path with
    | some (.file content _) =>
      some (reading.digest ((intText size).map (fun c => UInt8.ofNat c.val) ++
        content.take fingerprintBytes))
    | _ => none

/-- The digest that a path is grouped under, if it is. -/
def digestOf (reading : Reading) (tree : Tree) (path : Path) : Option Text :=
  let size := sizeOf reading tree path
  if size < minDuplicateBytes then none
  else (fileHash reading tree path size).filter fun digest => digest ≠ []

/-- One turn of the loop over the files: `groups[digest].append(path)`. -/
def groupFile (reading : Reading) (tree : Tree) (groups : Dict Text (List Path)) (path : Path) :
    Dict Text (List Path) :=
  match digestOf reading tree path with
  | some digest => groups.set digest ((groups.get? digest).getD [] ++ [path])
  | none => groups

def groupFiles (reading : Reading) (tree : Tree) (walked : List Path) : Dict Text (List Path) :=
  walked.foldl (groupFile reading tree) Dict.empty

inductive Strategy where
  | newest | largest
deriving DecidableEq

def strategyText : Strategy → Text
  | .newest => text "newest"
  | .largest => text "largest"

/-- `strategy or config.duplicate_strategy`; `none` is the `FileActionError`. -/
def strategyFor (given : Option Text) (configured : Text) : Option Strategy :=
  let name := match given with
    | some (c :: rest) => c :: rest
    | _ => configured
  [Strategy.newest, .largest].find? fun strategy => strategyText strategy = name

/-- What the newest, or the largest, has most of. -/
def primary (reading : Reading) (tree : Tree) (strategy : Strategy) (path : Path) : ℚ :=
  if !reading.stats path then 0
  else match tree.get? path, strategy with
    | some (.file _ modified), .newest => modified
    | some (.file content _), .largest => content.length
    | _, _ => 0

/-- `sort_key` of the one is not above that of the other. -/
def keptBefore (reading : Reading) (tree : Tree) (strategy : Strategy) (left right : Path) : Bool :=
  let ours := primary reading tree strategy left
  let theirs := primary reading tree strategy right
  theirs < ours || (ours = theirs && ((pathText left).length < (pathText right).length ||
    ((pathText left).length = (pathText right).length && pathText left ≤ pathText right)))

def pickKeeper (reading : Reading) (tree : Tree) (strategy : Strategy) (members : List Path) :
    Option Path :=
  (members.insertionSort fun left right => keptBefore reading tree strategy left right).head?

inductive PlanFailure where
  | unknownStrategy
  | unretained (digest : Text)
  | loops
deriving DecidableEq

def removal (strategy : Strategy) (keeper path : Path) : FileOperation where
  action := text "trash"
  source := path
  destination := none
  status := .planned
  reason := some (text "duplicate (" ++ strategyText strategy ++ text " copy retained)")
  keepPath := some keeper

/-- The loop over the groups. -/
def planGroups (reading : Reading) (tree : Tree) (strategy : Strategy) (maxOperations : Int) :
    List (Text × List Path) → List FileOperation → Except PlanFailure (List FileOperation)
  | [], operations => .ok operations
  | (digest, members) :: rest, operations =>
    if members.length < 2 then planGroups reading tree strategy maxOperations rest operations
    else if maxOperations ≤ operations.length then .ok operations
    else match pickKeeper reading tree strategy members with
      | none => .error (.unretained digest)
      | some keeper =>
        let removals := members.filter fun path => path ≠ keeper
        if removals.length ≠ members.length - 1 || removals.contains keeper
          then .error (.unretained digest)
        else planGroups reading tree strategy maxOperations rest
          (operations ++ removals.map (removal strategy keeper))

def planDuplicateCleanup (machine : Machine) (reading : Reading) (organiser : FileOrganiserConfig)
    (excludedRoots : List Path) (given : Option Text) (tree : Tree) :
    Except PlanFailure (List FileOperation) :=
  match strategyFor given organiser.actions.duplicateStrategy with
  | none => .error .unknownStrategy
  | some strategy => match realPath machine.steps tree organiser.scanRoot with
      | none => .error .loops
      | some root =>
        if !isDir machine.steps tree root then .ok []
        else
          let walked := walkFiles machine reading tree organiser.skipDirs excludedRoots
            (tree.entries.length + 1) root
          planGroups reading tree strategy organiser.actions.maxOperations
            ((groupFiles reading tree walked).entries.insertionSort fun left right =>
              left.1 ≤ right.1) []

end SysadminAssistant.Files
