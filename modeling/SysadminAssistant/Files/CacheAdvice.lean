import SysadminAssistant.Files.ClearingPasses

namespace SysadminAssistant.Files.Advice

open Python Library

/-! The advice to delete caches, and what its endpoint removes. -/

section

variable (wording : Wording) (config : FileOrganiserConfig) (findings : Findings)
  (projection : Option ThresholdProjection) (counts : FindingsKey → Option Int)

theorem staleCaches_row {row : FileRecommendationInfo} :
    (row ∈ recommendationsForAudit wording config findings projection counts ∧
      row.kind = .staleCaches) ↔ staleCachesAdvice wording findings counts = some row := by
  have steps := @advice_steps wording config findings counts row
  have risk := @diskRisk_step wording projection row
  rw [mem_recommendationsForAudit]
  constructor
  · intro found
    obtain ⟨made, kind⟩ := found
    grind
  · intro made
    exact ⟨Or.inr (Or.inl (Or.inr (Or.inr (Or.inl made)))), (steps.2.2.1 made).1⟩

theorem rebuildable_row {row : FileRecommendationInfo} :
    (row ∈ recommendationsForAudit wording config findings projection counts ∧
      row.kind = .rebuildableDirs) ↔ rebuildableAdvice wording findings counts = some row := by
  have steps := @advice_steps wording config findings counts row
  have risk := @diskRisk_step wording projection row
  rw [mem_recommendationsForAudit]
  constructor
  · intro found
    obtain ⟨made, kind⟩ := found
    grind
  · intro made
    exact ⟨Or.inr (Or.inl (Or.inr (Or.inr (Or.inr made)))), (steps.2.2.2.1 made).1⟩

end

/-- The rows of a kind are one row, over these directories, or none for no directory. -/
structure CountedBy (rows : List FileRecommendationInfo) (kind : RecommendationKind)
    (entries : List StaleDir) : Prop where
  some_row : (∃ row ∈ rows, row.kind = kind) ↔ entries ≠ []
  count : ∀ row ∈ rows, row.kind = kind → row.itemCount = entries.length
  price : ∀ row ∈ rows, row.kind = kind →
    row.reclaimableMb = roundPlaces (priced (entries.map StaleDir.sizeMb)) 1

section

variable (wording : Wording) (config : FileOrganiserConfig) (findings : Findings)
  (projection : Option ThresholdProjection) (counts : FindingsKey → Option Int)

theorem staleCaches_priced {row : FileRecommendationInfo}
    (member : row ∈ recommendationsForAudit wording config findings projection counts)
    (kind : row.kind = .staleCaches) :
    row.itemCount = (findings.staleProjectDirs.filter isCache).length ∧ row.reclaimableMb =
      roundPlaces (priced ((findings.staleProjectDirs.filter isCache).map StaleDir.sizeMb)) 1 := by
  have made := (staleCaches_row wording config findings projection counts).mp ⟨member, kind⟩
  simp only [staleCachesAdvice, Option.ite_none_left_eq_some, Option.some.injEq] at made
  rw [← made.2]
  exact ⟨rfl, rfl⟩

theorem staleCaches_counted :
    CountedBy (recommendationsForAudit wording config findings projection counts) .staleCaches
    (findings.staleProjectDirs.filter isCache) where
  some_row := by
    simp only [staleCaches_row, staleCachesAdvice, Option.ite_none_left_eq_some, exists_and_left,
      Option.some.injEq, exists_eq', and_true, ne_eq]
  count _ member kind := (staleCaches_priced wording config findings projection counts member kind).1
  price _ member kind := (staleCaches_priced wording config findings projection counts member kind).2

theorem rebuildable_priced {row : FileRecommendationInfo}
    (member : row ∈ recommendationsForAudit wording config findings projection counts)
    (kind : row.kind = .rebuildableDirs) :
    row.itemCount = (findings.staleProjectDirs.filter isRebuildable).length ∧ row.reclaimableMb =
      roundPlaces
        (priced ((findings.staleProjectDirs.filter isRebuildable).map StaleDir.sizeMb)) 1 := by
  have made := (rebuildable_row wording config findings projection counts).mp ⟨member, kind⟩
  simp only [rebuildableAdvice] at made
  cases found : findings.staleProjectDirs.filter isRebuildable with
  | nil => simp [found] at made
  | cons first rest =>
    simp only [found, Option.some.injEq] at made
    rw [← made]
    exact ⟨rfl, rfl⟩

theorem rebuildable_counted :
    CountedBy (recommendationsForAudit wording config findings projection counts)
    .rebuildableDirs (findings.staleProjectDirs.filter isRebuildable) where
  some_row := by
    simp only [rebuildable_row, rebuildableAdvice]
    cases findings.staleProjectDirs.filter isRebuildable with
    | nil => simp
    | cons first rest => simp
  count _ member kind := (rebuildable_priced wording config findings projection counts member kind).1
  price _ member kind := (rebuildable_priced wording config findings projection counts member kind).2

end

/-- The listed directories still exist and are removable, and none is reached through a link. -/
structure Removable (remover : Remover) (findings : Findings) (tree : Tree) : Prop where
  dirs : ∀ entry ∈ findings.staleProjectDirs, Standing remover tree entry.path ∧
    remover.treeFails entry.path = none
  empties : ∀ path ∈ findings.emptyDirs,
    Standing remover tree path ∧ Childless tree path ∧ remover.dirFails path = none

/-- The advice for a stored audit of these findings, and what its endpoint does. -/
structure Agrees (wording : Wording) (config : FileOrganiserConfig)
    (projection : Option ThresholdProjection) (counts : FindingsKey → Option Int)
    (remover : Remover) (found : Findings) (tree : Tree) : Prop where
  answered : cleanStaleCaches remover true (some (storedFindings found)) tree =
    (.cleaned (cleanFindings remover (storedFindings found) tree).1.caches.length
      (cleanFindings remover (storedFindings found) tree).1.emptyDirs.length
      (cleanFindings remover (storedFindings found) tree).1,
        (cleanFindings remover (storedFindings found) tree).2)
  advised : CountedBy (recommendationsForAudit wording config (storedFindings found) projection
    counts) .staleCaches ((storedFindings found).staleProjectDirs.filter isCache)
  rebuilt : CountedBy (recommendationsForAudit wording config (storedFindings found) projection counts)
    .rebuildableDirs ((storedFindings found).staleProjectDirs.filter isRebuildable)
  counted : (cleanFindings remover (storedFindings found) tree).1.caches =
    ((storedFindings found).staleProjectDirs.filter isCache).map StaleDir.path
  /-- The caches that `identifyQuickWins` prices, of all that the scan found. -/
  priced : (cleanFindings remover (storedFindings found) tree).1.caches =
    (found.staleProjectDirs.filter isCache).map StaleDir.path
  once : ∀ entry ∈ (storedFindings found).staleProjectDirs, entry.type ∈ staleProjectDirTypes →
    isCache entry = !isRebuildable entry
  cleared : ∀ path ∈ (storedFindings found).emptyDirs,
    pathExists remover (cleanFindings remover (storedFindings found) tree).2 path = false

/-- The endpoint knows every cache there is, and gets to each. -/
structure Reached (found : Findings) : Prop where
  known : ∀ entry ∈ found.staleProjectDirs.take 50, entry.type ≠ text ".tox"
  listed : ∀ entry ∈ found.staleProjectDirs.drop 50, isCache entry = false
  apart : (((found.staleProjectDirs.take 50).filter isRemoved).map StaleDir.path).Pairwise
    fun earlier later =>
    ¬ earlier <:+ later
  attempted : ∀ path ∈ (found.emptyDirs.take 100).drop 50, path ∈ found.emptyDirs.take 50 ∨
    ∃ entry ∈ found.staleProjectDirs.take 50, isRemoved entry ∧ entry.path <:+ path

theorem types_once {entry : StaleDir} (scanned : entry.type ∈ staleProjectDirTypes) :
    isCache entry = !isRebuildable entry := by
  have exclusive : ∀ type ∈ staleProjectDirTypes,
      (decide (type ∈ cacheDirTypes)) = !(decide (type ∈ rebuildableDirTypes)) := by decide
  exact exclusive entry.type scanned

theorem isCache_iff (entry : StaleDir) :
    isCache entry ↔ isRemoved entry ∨ entry.type = text ".tox" := by
  simp only [isCache, isRemoved, cacheDirTypes, removedTypes, List.mem_cons,
    List.not_mem_nil, or_false, decide_eq_true_eq, or_assoc]

theorem tox_not_removed {entry : StaleDir} (tox : entry.type = text ".tox") :
    isRemoved entry = false := by
  have other : text ".tox" ∉ removedTypes := by decide
  simp [isRemoved, tox, other]

theorem removed_of_length {entries : List StaleDir}
    (same : (entries.filter isCache).length ≤ (entries.filter isRemoved).length) :
    ∀ entry ∈ entries, entry.type ≠ text ".tox" := by
  have among : entries.filter isRemoved = (entries.filter isCache).filter isRemoved := by
    rw [List.filter_filter]
    apply List.filter_congr
    intro entry member
    cases removed : isRemoved entry with
    | false => rfl
    | true => exact ((isCache_iff entry).mpr (Or.inl removed)).symm
  rw [among] at same
  have all := List.length_filter_eq_length_iff.mp (le_antisymm (List.length_filter_le _ _) same)
  intro entry member tox
  have removed := all entry (List.mem_filter.mpr ⟨member, (isCache_iff entry).mpr (Or.inr tox)⟩)
  rw [tox_not_removed tox] at removed
  contradiction

theorem removed_eq_cached {entries : List StaleDir}
    (known : ∀ entry ∈ entries, entry.type ≠ text ".tox") :
    entries.filter isRemoved = entries.filter isCache := by
  apply List.filter_congr
  intro entry member
  rw [Bool.eq_iff_iff, isCache_iff]
  exact ⟨Or.inl, fun either => either.resolve_right (known entry member)⟩

section

variable {remover : Remover} {found : Findings} {tree : Tree}

theorem cleanFindings_spec (removable : Removable remover (storedFindings found) tree) :
    (cleanFindings remover (storedFindings found) tree).1.caches =
        outermost [] (((found.staleProjectDirs.take 50).filter isRemoved).map StaleDir.path) ∧
      ∀ path ∈ (storedFindings found).emptyDirs,
        (pathExists remover (cleanFindings remover (storedFindings found) tree).2 path = false ↔
          path ∈ found.emptyDirs.take 50 ∨
          ∃ entry ∈ found.staleProjectDirs.take 50, isRemoved entry ∧ entry.path <:+ path) := by
  have firstFifty : (storedFindings found).emptyDirs.take 50 = found.emptyDirs.take 50 := by
    simp [storedFindings, List.take_take]
  have standing : ∀ path ∈ ((found.staleProjectDirs.take 50).filter isRemoved).map StaleDir.path,
      Standing remover tree path ∧ remover.treeFails path = none := by
    intro path member
    obtain ⟨entry, kept, rfl⟩ := List.mem_map.mp member
    exact removable.dirs entry (List.mem_of_mem_filter kept)
  obtain ⟨taken, between⟩ :=
    removeEach_rmtree (Pruned.nil tree) (fun path member => (standing path member).1)
    fun path member => (standing path member).2
  have inFirst : ∀ path ∈ found.emptyDirs.take 50, path ∈ (storedFindings found).emptyDirs := by
    intro path member
    rw [← firstFifty] at member
    exact List.mem_of_mem_take member
  have after := fun key => removeEach_rmdir between.within
    (fun path member => (removable.empties path (inFirst path member)).1)
    (fun path member => (removable.empties path (inFirst path member)).2.1)
    (fun path member => (removable.empties path (inFirst path member)).2.2) key
  refine ⟨taken, fun path member => ?_⟩
  have last : (cleanFindings remover (storedFindings found) tree).2 =
      (removeEach remover (rmdir remover) (found.emptyDirs.take 50)
        (removeEach remover (rmtree remover)
          (((found.staleProjectDirs.take 50).filter isRemoved).map StaleDir.path) tree).2).2 := by
    rw [← firstFifty]
    rfl
  have within : Within tree (cleanFindings remover (storedFindings found) tree).2 := by
    intro key node present
    rw [last, after] at present
    split at present
    · contradiction
    · exact between.within key node present
  rw [(removable.empties path member).1.pathExists_eq within, last, after, between path,
    (removable.empties path member).1.directory]
  have covered :
      (∃ place ∈ ((found.staleProjectDirs.take 50).filter isRemoved).map StaleDir.path ++ [],
      place <:+ path) ↔ ∃ entry ∈ found.staleProjectDirs.take 50, isRemoved entry ∧
      entry.path <:+ path := by
    simp [List.mem_filter, and_assoc]
  rw [if_congr covered rfl rfl]
  by_cases first : path ∈ found.emptyDirs.take 50
  · simp [first]
  · rw [if_neg first]
    split
    · rename_i inside
      simp [inside]
    · rename_i outside
      simp [first, outside]

/-- The advice and its endpoint agree exactly on the audits whose caches the endpoint gets to. -/
theorem cacheAdvice_agrees_iff (wording : Wording) (config : FileOrganiserConfig)
    (projection : Option ThresholdProjection) (counts : FindingsKey → Option Int)
    (removable : Removable remover (storedFindings found) tree) :
    Agrees wording config projection counts remover found tree ↔ Reached found := by
  obtain ⟨taken, left⟩ := cleanFindings_spec removable
  constructor
  · intro agrees
    have counted := taken.symm.trans agrees.counted
    have all : (storedFindings found).staleProjectDirs = found.staleProjectDirs.take 50 := rfl
    rw [all] at counted
    have lengths := congrArg List.length counted
    have shorter :=
      length_outermost_le [] (((found.staleProjectDirs.take 50).filter isRemoved).map StaleDir.path)
    simp only [List.length_map] at lengths shorter
    have known := removed_of_length (lengths.symm.le.trans shorter)
    rw [removed_eq_cached known] at counted
    refine ⟨known, ?_, ?_, ?_⟩
    · have both := agrees.counted.symm.trans agrees.priced
      rw [all] at both
      nth_rewrite 2 [← List.take_append_drop 50 found.staleProjectDirs] at both
      rw [List.filter_append, List.map_append] at both
      have none := List.self_eq_append_right.mp both
      intro entry member
      have unlisted := List.filter_eq_nil_iff.mp (List.map_eq_nil_iff.mp none) entry member
      simpa using unlisted
    · rw [removed_eq_cached known]
      exact (outermost_nil_eq_self _).mp counted
    · intro path member
      have stored : path ∈ (storedFindings found).emptyDirs := List.mem_of_mem_drop member
      exact (left path stored).mp (agrees.cleared path stored)
  · intro reached
    have whole : found.staleProjectDirs.filter isCache =
        (found.staleProjectDirs.take 50).filter isCache := by
      nth_rewrite 1 [← List.take_append_drop 50 found.staleProjectDirs]
      have unlisted : (found.staleProjectDirs.drop 50).filter isCache = [] := by
        rw [List.filter_eq_nil_iff]
        intro entry member
        simp [reached.listed entry member]
      rw [List.filter_append, unlisted, List.append_nil]
    have counted : (cleanFindings remover (storedFindings found) tree).1.caches =
        ((found.staleProjectDirs.take 50).filter isCache).map StaleDir.path := by
      rw [taken, (outermost_nil_eq_self _).mpr reached.apart, removed_eq_cached reached.known]
    refine ⟨rfl, staleCaches_counted wording config _ projection counts,
      rebuildable_counted wording config _ projection counts, counted,
      by rw [counted, whole], fun entry _ scanned => types_once scanned, fun path member => ?_⟩
    rw [left path member]
    have split : path ∈ (found.emptyDirs.take 100).take 50 ++ (found.emptyDirs.take 100).drop 50 := by
      rw [List.take_append_drop]
      exact member
    rcases List.mem_append.mp split with first | later
    · rw [List.take_take] at first
      exact Or.inl first
    · exact reached.attempted path later

end

/-- A tree of nothing but these directories. -/
def directoryTree (places : List Path) : Tree :=
  Dict.ofEntries (places.map fun place => (place, .directory))

theorem get?_directoryTree {places : List Path} {place : Path} {node : Node}
    (found : (directoryTree places).get? place = some node) : place ∈ places ∧ node = .directory := by
  obtain ⟨other, member, same⟩ := List.mem_map.mp (Dict.get?_ofEntries_mem found)
  cases same
  exact ⟨member, rfl⟩

theorem standing_directoryTree {remover : Remover} {places : List Path} {place : Path}
    (member : place ∈ places) (down : parent ∉ place) (short : place.length ≤ remover.steps) :
    Standing remover (directoryTree places) place where
  real := by
    intro name directory inside
    refine ⟨fun same => down (inside.subset (by rw [same]; exact List.mem_cons_self)),
      fun node found => ?_⟩
    rw [(get?_directoryTree found).2]
    rfl
  short := short
  directory := by
    have entry : (place, Node.directory) ∈ places.map fun place => (place, Node.directory) :=
      List.mem_map.mpr ⟨place, member, rfl⟩
    obtain ⟨node, found⟩ := Dict.exists_get?_ofEntries entry
    rw [show directoryTree places = Dict.ofEntries (places.map fun place =>
      (place, Node.directory)) from rfl, found, (get?_directoryTree found).2]

theorem childless_directoryTree {places : List Path} {path : Path}
    (alone : ∀ key ∈ places, key.tail ≠ path) : Childless (directoryTree places) path :=
  fun key _ found _ => alone key (get?_directoryTree found).1

def steadyRemover : Remover where
  steps := 40
  treeFails _ := none
  dirFails _ := none

def noFindings : Findings where
  similarFolders := []
  misplacedFiles := .empty
  oldDownloads := []
  largeFiles := []
  duplicates := []
  emptyDirs := []
  staleProjectDirs := []

def plainWording : Wording where
  fixed _ value := intText (roundHalfEven value)
  percent share := intText (roundHalfEven (100 * share)) ++ text "%"
  path place := (place.reverse.map fun name => text "/" ++ name).flatten

def plainConfig : FileOrganiserConfig where
  downloadsStaleDays := 30
  largeFileMb := 500
  similarityThreshold := 4 / 5

/-- A cache and an empty directory beside it. -/
def tidyFindings : Findings :=
  { noFindings with
    emptyDirs := [path ["home", "work", "drafts"]]
    staleProjectDirs := [⟨path ["home", "work", "__pycache__"], text "__pycache__", some 3⟩] }

def tidyTree : Tree :=
  directoryTree [path ["home", "work", "drafts"], path ["home", "work", "__pycache__"]]

theorem tidyTree_removable : Removable steadyRemover (storedFindings tidyFindings) tidyTree where
  dirs entry member := by
    obtain rfl := List.mem_singleton.mp member
    exact ⟨standing_directoryTree (by decide) (by decide) (by decide), rfl⟩
  empties place member := by
    obtain rfl := List.mem_singleton.mp member
    exact ⟨standing_directoryTree (by decide) (by decide) (by decide),
      childless_directoryTree (by decide), rfl⟩

theorem cacheAdvice_agrees_tidy :
    Agrees plainWording plainConfig none (fun _ => none) steadyRemover tidyFindings tidyTree ↔
    Reached tidyFindings :=
  cacheAdvice_agrees_iff plainWording plainConfig none (fun _ => none) tidyTree_removable

/-- Fifty-one empty directories. -/
def crowdedDirs : List Path :=
  (List.range 51).map fun number => [List.replicate (number + 1) (codePoint 'e'), text "home"]

def crowdedFindings : Findings := { noFindings with emptyDirs := crowdedDirs }

theorem crowdedTree_removable :
    Removable steadyRemover (storedFindings crowdedFindings) (directoryTree crowdedDirs) where
  dirs entry member := by cases member
  empties place member := by
    have listed : place ∈ crowdedDirs := List.mem_of_mem_take member
    obtain ⟨number, _, rfl⟩ := List.mem_map.mp listed
    refine ⟨standing_directoryTree listed ?_ (by simp [steadyRemover]),
      childless_directoryTree ?_, rfl⟩
    · have home : parent ≠ text "home" := by decide
      have dot : codePoint '.' ≠ codePoint 'e' := by decide
      have name : parent ≠ List.replicate (number + 1) (codePoint 'e') := by
        intro same
        exact dot (List.head_eq_of_cons_eq same)
      simp [home, name]
    · intro key other same
      obtain ⟨_, _, rfl⟩ := List.mem_map.mp other
      have lengths := congrArg List.length same
      simp at lengths

/-- The last of fifty-one empty directories is left where it is. -/
theorem emptyDir_left :
    Removable steadyRemover (storedFindings crowdedFindings) (directoryTree crowdedDirs) ∧
    ¬ Agrees plainWording plainConfig none (fun _ => none) steadyRemover crowdedFindings
      (directoryTree crowdedDirs) := by
  refine ⟨crowdedTree_removable, fun agrees => ?_⟩
  have last : [List.replicate 51 (codePoint 'e'), text "home"] ∈
      (storedFindings crowdedFindings).emptyDirs := by
    decide
  have attempted := ((cleanFindings_spec crowdedTree_removable).2 _ last).mp (agrees.cleared _ last)
  have beyond : [List.replicate 51 (codePoint 'e'),
      text "home"] ∉ crowdedFindings.emptyDirs.take 50 := by
    decide
  rcases attempted with first | inside
  · exact beyond first
  · obtain ⟨entry, member, _⟩ := inside
    cases member

end SysadminAssistant.Files.Advice
