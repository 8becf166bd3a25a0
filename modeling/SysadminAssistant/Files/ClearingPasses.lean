import SysadminAssistant.Files.Recommendations
import SysadminAssistant.Files.SystemCalls
import SysadminAssistant.Library.OutermostPaths

namespace SysadminAssistant.Files.Advice

open Python Library

/-! What a scan stores of its findings, and the endpoint that clears caches and empty directories. -/

def staleProjectDirTypes : List Text :=
  [text "node_modules", text "__pycache__", text ".venv", text "venv", text "target", text "build",
    text "dist", text ".tox", text ".pytest_cache"]

structure QuickWins where
  emptyDirs : Nat
  staleCaches : Nat
  staleCacheMb : ℚ
deriving DecidableEq

def identifyQuickWins (findings : Findings) : QuickWins :=
  let caches := findings.staleProjectDirs.filter isCache
  { emptyDirs := findings.emptyDirs.length
    staleCaches := caches.length
    staleCacheMb := priced (caches.map StaleDir.sizeMb) }

/-- The lists of `_serialise_findings`, as an audit keeps them. -/
def storedFindings (findings : Findings) : Findings where
  similarFolders := findings.similarFolders.take 50
  misplacedFiles := findings.misplacedFiles.mapValues fun _ paths => paths.take 50
  oldDownloads := findings.oldDownloads.take 100
  largeFiles := findings.largeFiles.take 50
  duplicates := findings.duplicates.take 50
  emptyDirs := findings.emptyDirs.take 100
  staleProjectDirs := findings.staleProjectDirs.take 50

def serialiseFindings (findings : Findings) : Findings × QuickWins :=
  (storedFindings findings, identifyQuickWins findings)

/-- How removals go on this machine.  A removal of a whole directory may fail, with some of what
is in it gone. -/
structure Remover where
  steps : Nat
  treeFails : Path → Option (Errno × List Path)
  dirFails : Path → Option Errno

/-- The tree without a place and what is in it. -/
def prune (place : Path) (tree : Tree) : Tree :=
  (tree.keys.filter fun key => place.isSuffixOf key).foldl Dict.erase tree

theorem get?_prune (place key : Path) (tree : Tree) :
    (prune place tree).get? key = if place <:+ key then none else tree.get? key := by
  simp only [prune, Dict.get?_foldl_erase, List.mem_filter, List.isSuffixOf_iff_suffix]
  by_cases inside : place <:+ key
  · rw [if_pos inside]
    split
    · rfl
    · rename_i absent
      cases found : tree.get? key with
      | none => rfl
      | some node => exact absurd ⟨Dict.mem_keys.mpr ⟨node, found⟩, inside⟩ absent
  · rw [if_neg inside, if_neg fun both => inside both.2]

section

variable (remover : Remover)

/-- `Path.exists`. -/
def pathExists (tree : Tree) (path : Path) : Bool :=
  (entryOf remover.steps tree path).any (existsAt remover.steps tree)

def rmtree (path : Path) (tree : Tree) : Except Errno Unit × Tree :=
  match entryOf remover.steps tree path with
  | none => (.error .eloop, tree)
  | some place => match tree.get? place with
      | none => (.error .enoent, tree)
      | some .directory => match remover.treeFails place with
          | none => (.ok (), prune place tree)
          | some (errno, gone) =>
            (.error errno, (gone.filter fun key => place.isSuffixOf key).foldl Dict.erase tree)
      | some _ => (.error .enotdir, tree)

def enotempty : Errno := .other 39

def rmdir (path : Path) (tree : Tree) : Except Errno Unit × Tree :=
  match entryOf remover.steps tree path with
  | none => (.error .eloop, tree)
  | some place => match tree.get? place with
      | none => (.error .enoent, tree)
      | some .directory =>
        if ∃ key ∈ tree.keys, key ≠ [] ∧ key.tail = place then (.error enotempty, tree)
        else match remover.dirFails place with
          | none => (.ok (), tree.erase place)
          | some errno => (.error errno, tree)
      | some _ => (.error .enotdir, tree)

/-- The types that the endpoint takes for caches. -/
def removedTypes : List Text := [text "__pycache__", text ".pytest_cache"]

def isRemoved (entry : StaleDir) : Bool := entry.type ∈ removedTypes

/-- A pass over directories; a removal that fails is passed over. -/
def removeEach (removal : Path → Tree → Except Errno Unit × Tree) : List Path → Tree → List Path × Tree
  | [], tree => ([], tree)
  | path :: rest, tree =>
    if pathExists remover tree path then
      match removal path tree with
      | (.ok (), after) =>
        let (removed, last) := removeEach removal rest after
        (path :: removed, last)
      | (.error _, after) => removeEach removal rest after
    else removeEach removal rest tree

structure Removed where
  caches : List Path
  emptyDirs : List Path

inductive CleanResponse where
  | confirmationRequired
  | noAudit
  | cleaned (removedCaches removedEmptyDirs : Nat) (details : Removed)

/-- The two passes. -/
def cleanFindings (findings : Findings) (tree : Tree) : Removed × Tree :=
  let (caches, between) :=
    removeEach remover (rmtree remover)
      ((findings.staleProjectDirs.filter isRemoved).map StaleDir.path) tree
  let (emptyDirs, after) := removeEach remover (rmdir remover) (findings.emptyDirs.take 50) between
  ({ caches, emptyDirs }, after)

/-- `clean_stale_caches`, with the latest audit. -/
def cleanStaleCaches (confirm : Bool) (audit : Option Findings) (tree : Tree) : CleanResponse × Tree :=
  if !confirm then (.confirmationRequired, tree)
  else match audit with
    | none => (.noAudit, tree)
    | some findings =>
      let (removed, after) := cleanFindings remover findings tree
      (.cleaned removed.caches.length removed.emptyDirs.length removed, after)

end

/-- What is left of a tree after places were taken out of it with all that is in them. -/
def Pruned (gone : List Path) (before after : Tree) : Prop :=
  ∀ key, after.get? key = if ∃ place ∈ gone, place <:+ key then none else before.get? key

theorem Pruned.nil (tree : Tree) : Pruned [] tree tree := by
  intro key
  simp

theorem Pruned.prune {gone : List Path} {before after : Tree} (pruned : Pruned gone before after)
    (place : Path) : Pruned (place :: gone) before (prune place after) := by
  intro key
  rw [get?_prune, pruned key]
  by_cases inside : place <:+ key
  · rw [if_pos inside, if_pos ⟨place, List.mem_cons_self, inside⟩]
  · rw [if_neg inside]
    have same : (∃ outer ∈ place :: gone, outer <:+ key) ↔ ∃ outer ∈ gone, outer <:+ key := by
      simp [inside]
    rw [if_congr same rfl rfl]

theorem Pruned.found {gone : List Path} {before after : Tree} (pruned : Pruned gone before after)
    {key : Path} {node : Node} (found : after.get? key = some node) :
    before.get? key = some node := by
  rw [pruned key] at found
  split at found
  · contradiction
  · exact found

/-! What the two passes of the endpoint remove, where nothing keeps them from it. -/

/-- A directory that stands where its path says. -/
structure Standing (remover : Remover) (tree : Tree) (path : Path) : Prop where
  real : Real tree path
  short : path.length ≤ remover.steps
  directory : tree.get? path = some .directory

/-- Nothing came to a tree but that places were taken out of it. -/
def Within (before after : Tree) : Prop :=
  ∀ key node, after.get? key = some node → before.get? key = some node

theorem Within.erase {before after : Tree} (within : Within before after) (place : Path) :
    Within before (after.erase place) := by
  intro key node found
  rw [Dict.get?_erase] at found
  split at found
  · contradiction
  · exact within key node found

theorem Pruned.within {gone : List Path} {before after : Tree} (pruned : Pruned gone before after) :
    Within before after := fun _ _ found => pruned.found found

section

variable {remover : Remover} {before : Tree}

theorem Standing.real_after {path : Path} {after : Tree} (standing : Standing remover before path)
    (within : Within before after) : Real after path := by
  intro name directory inside
  obtain ⟨down, plain⟩ := standing.real name directory inside
  exact ⟨down, fun node found => plain node (within _ _ found)⟩

theorem Standing.pathExists_eq {path : Path} {after : Tree}
    (standing : Standing remover before path) (within : Within before after) :
    pathExists remover after path = (after.get? path).isSome := by
  have real := standing.real_after within
  simp [pathExists, entryOf_of_real real standing.short, existsAt, statAt_of_real real]

theorem Standing.get?_eq {path : Path} {after : Tree} (standing : Standing remover before path)
    (within : Within before after) (present : (after.get? path).isSome) :
    after.get? path = some .directory := by
  obtain ⟨node, found⟩ := Option.isSome_iff_exists.mp present
  have same := within path node found
  rw [standing.directory] at same
  rw [found, same]

theorem rmtree_standing {path : Path} {after : Tree} (standing : Standing remover before path)
    (within : Within before after) (present : (after.get? path).isSome)
    (removable : remover.treeFails path = none) :
    rmtree remover path after = (.ok (), prune path after) := by
  simp only [rmtree, entryOf_of_real (standing.real_after within) standing.short,
    standing.get?_eq within present, removable]

/-- A directory with nothing in it. -/
def Childless (tree : Tree) (path : Path) : Prop :=
  ∀ key node, tree.get? key = some node → key ≠ [] → key.tail ≠ path

theorem rmdir_standing {path : Path} {after : Tree} (standing : Standing remover before path)
    (childless : Childless before path) (within : Within before after)
    (present : (after.get? path).isSome) (removable : remover.dirFails path = none) :
    rmdir remover path after = (.ok (), after.erase path) := by
  have alone : ¬ ∃ key ∈ after.keys, key ≠ [] ∧ key.tail = path := by
    intro occupied
    obtain ⟨key, member, inner, inside⟩ := occupied
    obtain ⟨node, found⟩ := Dict.mem_keys.mp member
    exact childless key node (within key node found) inner inside
  simp only [rmdir, entryOf_of_real (standing.real_after within) standing.short,
    standing.get?_eq within present, if_neg alone, removable]

theorem removeEach_rmtree {places gone : List Path} {tree : Tree} (pruned : Pruned gone before tree)
    (standing : ∀ place ∈ places, Standing remover before place)
    (removable : ∀ place ∈ places, remover.treeFails place = none) :
    (removeEach remover (rmtree remover) places tree).1 = outermost gone places ∧
      Pruned (places ++ gone) before (removeEach remover (rmtree remover) places tree).2 := by
  induction places generalizing gone tree with
  | nil => exact ⟨rfl, pruned⟩
  | cons place rest ih =>
    have here := standing place List.mem_cons_self
    have laterStanding := fun other member => standing other (List.mem_cons_of_mem place member)
    have laterRemovable := fun other member => removable other (List.mem_cons_of_mem place member)
    have there := here.pathExists_eq pruned.within
    simp only [removeEach, outermost]
    by_cases inside : ∃ outer ∈ gone, outer <:+ place
    · have absent : tree.get? place = none := by rw [pruned place, if_pos inside]
      have missing : pathExists remover tree place = false := by rw [there, absent]; rfl
      obtain ⟨taken, left⟩ := ih pruned laterStanding laterRemovable
      obtain ⟨outer, before', suffix⟩ := inside
      rw [missing, if_neg Bool.false_ne_true]
      refine ⟨by rw [taken, if_pos ⟨outer, before', suffix⟩], fun key => ?_⟩
      have covered : (∃ holder ∈ place :: rest ++ gone, holder <:+ key) ↔ ∃ holder ∈ rest ++ gone,
          holder <:+ key := by
        constructor
        · intro holds
          obtain ⟨holder, member, within⟩ := holds
          rcases List.mem_cons.mp member with rfl | later
          · exact ⟨outer, List.mem_append_right _ before', suffix.trans within⟩
          · exact ⟨holder, later, within⟩
        · intro holds
          obtain ⟨holder, member, within⟩ := holds
          exact ⟨holder, List.mem_cons_of_mem _ member, within⟩
      rw [left key, if_congr covered rfl rfl]
    · have present :
          (tree.get? place).isSome := by rw [pruned place, if_neg inside, here.directory]; rfl
      obtain ⟨taken, left⟩ := ih (pruned.prune place) laterStanding laterRemovable
      rw [there, if_pos present, if_neg inside,
        rmtree_standing here pruned.within present (removable place List.mem_cons_self)]
      refine ⟨by rw [← taken], fun key => ?_⟩
      have regrouped : (∃ holder ∈ place :: rest ++ gone, holder <:+ key) ↔
          ∃ holder ∈ rest ++ place :: gone, holder <:+ key := by
        have same : ∀ holder, holder ∈ place :: rest ++ gone ↔ holder ∈ rest ++ place :: gone := by
          intro holder
          simp only [List.cons_append, List.mem_cons, List.mem_append]
          tauto
        exact exists_congr fun holder => and_congr_left' (same holder)
      rw [if_congr regrouped rfl rfl]
      exact left key

theorem removeEach_rmdir {places : List Path} {tree : Tree} (within : Within before tree)
    (standing : ∀ place ∈ places, Standing remover before place)
    (childless : ∀ place ∈ places, Childless before place)
    (removable : ∀ place ∈ places, remover.dirFails place = none) (key : Path) :
    (removeEach remover (rmdir remover) places tree).2.get? key = if key ∈ places then none
      else tree.get? key := by
  induction places generalizing tree with
  | nil => simp [removeEach]
  | cons place rest ih =>
    have here := standing place List.mem_cons_self
    have laterStanding := fun other member => standing other (List.mem_cons_of_mem place member)
    have laterChildless := fun other member => childless other (List.mem_cons_of_mem place member)
    have laterRemovable := fun other member => removable other (List.mem_cons_of_mem place member)
    simp only [removeEach, here.pathExists_eq within]
    cases present : (tree.get? place).isSome with
    | false =>
      rw [if_neg Bool.false_ne_true, ih within laterStanding laterChildless laterRemovable]
      by_cases same : key = place
      · have absent := Option.isSome_eq_false_iff.mp present
        simp [same, Option.isNone_iff_eq_none.mp absent]
      · simp [same]
    | true =>
      rw [if_pos rfl, rmdir_standing here (childless place List.mem_cons_self) within present
        (removable place List.mem_cons_self)]
      have later := ih (within.erase place) laterStanding laterChildless laterRemovable
      simp only [later, Dict.get?_erase, List.mem_cons]
      by_cases same : key = place
      · simp [same]
      · simp [same, Ne.symm same]

end

end SysadminAssistant.Files.Advice
