import SysadminAssistant.Games.GameSpans
import SysadminAssistant.Library.FirstRows
import SysadminAssistant.Library.Worklists
import SysadminAssistant.Python.DecimalText
import SysadminAssistant.Python.GroupedFolds

namespace SysadminAssistant.Games

open Python Library

/-! `sysadmin/games/detect.py`: which games a process table shows.  A Python set is the sorted list
of its members, and the order in which a loop takes one is a parameter. -/

structure Process where
  pid : Nat
  ppid : Nat
  comm : Text
  argv : List Text
deriving DecidableEq

/-- `_APPID.match`, for its group. -/
def appidDigits (database : CharDatabase) (arg : Text) : Option Text :=
  let digits := arg.drop (text "AppId=").length
  if (text "AppId=").isPrefixOf arg && !digits.isEmpty && digits.all database.isDigit
    then some digits else none

/-- The digits that `steam_appid` reads. -/
def launchDigits (database : CharDatabase) : List Text → Option Text
  | arg :: next :: rest =>
    match if arg = text "SteamLaunch" then appidDigits database next else none with
    | some digits => some digits
    | none => launchDigits database (next :: rest)
  | _ => none

def steamAppid (database : CharDatabase) (argv : List Text) : Except PyError (Option Int) :=
  match launchDigits database argv with
  | none => .ok none
  | some digits => (database.intOfText digits).map some

/-- `/` or `\`. -/
def isSeparator (c : CodePoint) : Bool := c = 0x2F || c = 0x5C

def executableName (proc : Process) : Text :=
  match proc.argv with
  | [] | [] :: _ => proc.comm
  | path :: _ => (path.reverse.takeWhile fun c => !isSeparator c).reverse

/-- In what order a loop takes the set of a process's two names. -/
structure SetOrder where
  names : Process → List Text
  perm : ∀ proc, (names proc).Perm [executableName proc, proc.comm].dedup

inductive DetectFailure where
  | raised (error : PyError)
  | unfinished
deriving DecidableEq

section

variable (processes : List Process)

def children : Dict Nat (List Nat) := Dict.gather (processes.map fun proc => (proc.ppid, proc.pid))

/-- `_descendants`. -/
def descendants (roots : List Nat) : Except DetectFailure (List Nat) :=
  match worklist (fun pid => ((children processes).get? pid).getD [])
    (roots.length + processes.length) []
      roots.reverse with
  | none => .error .unfinished
  | some seen => .ok (seen.insertionSort (· ≤ ·))

/-- `_outermost`. -/
def outermost (matched : List Process) : Nat :=
  let pids := matched.map Process.pid
  let roots := (matched.filter fun proc => proc.ppid ∉ pids).map Process.pid
  ((if roots = [] then pids else roots).min?).getD 0

/-- The first loop's pairs: which processes a game was launched by. -/
def launches (database : CharDatabase) : Except PyError (List (Int × Process)) :=
  (processes.mapM fun proc => (steamAppid database proc.argv).map fun found =>
    found.map fun appid => (appid, proc)).map List.reduceOption

/-- The second loop's pairs. -/
def listedName (order : SetOrder) (games : Dict Text Text) (proc : Process) : Option Text :=
  (order.names proc).find? fun name => (games.get? name).isSome

def listings (order : SetOrder) (games : Dict Text Text) (steamTrees : List Nat) :
    List (Text × Process) :=
  (processes.filter fun proc => proc.pid ∉ steamTrees).filterMap fun proc =>
    (listedName order games proc).map fun name => (name, proc)

/-- A turn of the loop over `sorted(steam.items())`. -/
def steamSighting (steamName : Int → Text) (entry : Int × List Process) :
    Except DetectFailure Sighting :=
  (descendants processes (entry.2.map Process.pid)).map fun tree =>
    { game := steamName entry.1, matchedBy := .steamAppid, appid := some entry.1, executable := none,
      pid := outermost entry.2, pids := tree }

/-- A turn of the loop over `sorted(listed.items())`. -/
def listedSighting (games : Dict Text Text) (entry : Text × List Process) :
    Except DetectFailure Sighting :=
  (descendants processes (entry.2.map Process.pid)).map fun tree =>
    { game := (games.get? entry.1).getD [], matchedBy := .executable, appid := none, executable := some entry.1,
      pid := outermost entry.2, pids := tree }

def detectGames (database : CharDatabase) (order : SetOrder) (games : Dict Text Text)
    (steamName : Int → Text) : Except DetectFailure (List Sighting) := do
  let launched ← (launches processes database).mapError DetectFailure.raised
  let steam ← ((Dict.gather launched).entries.insertionSort fun left right => left.1 ≤ right.1).mapM
    (steamSighting processes steamName)
  let steamTrees := steam.flatMap Sighting.pids
  let listed ← ((Dict.gather (listings processes order games steamTrees)).entries.insertionSort
    fun left right => left.1 ≤ right.1).mapM (listedSighting processes games)
  return steam ++ listed

end

/-! Of which process tables the detected games are a function. -/

def steamKey (id : Nat) : GameKey := ⟨.steamAppid, some id, none⟩

def listedKey (name : Text) : GameKey := ⟨.executable, none, some name⟩

section

variable (database : CharDatabase) (processes : List Process) (games : Dict Text Text)

/-- After `before` the arguments go on with `SteamLaunch` and an `AppId` of these digits. -/
def LaunchAt (argv before : List Text) (digits : Text) : Prop :=
  ∃ after, argv = before ++ text "SteamLaunch" :: (text "AppId=" ++ digits) :: after ∧
    (database.decimal? digits).isSome

/-- The first of them. -/
def FirstLaunch (argv : List Text) (digits : Text) : Prop :=
  ∃ before, LaunchAt database argv before digits ∧
    ∀ earlier other, LaunchAt database argv earlier other → before.length ≤ earlier.length

/-- An `AppId` of the process follows a `SteamLaunch`. -/
def Carries (proc : Process) (id : Nat) : Prop :=
  ∃ before digits, LaunchAt database proc.argv before digits ∧ database.decimal? digits = some id

/-- The process was launched under the first of them. -/
def Launches (proc : Process) (id : Nat) : Prop :=
  ∃ digits, FirstLaunch database proc.argv digits ∧ database.decimal? digits = some id

def Descends : Nat → Nat → Prop :=
  Relation.ReflTransGen fun parent child => ∃ proc ∈ processes, proc.ppid = parent ∧ proc.pid = child

def InSteamTree (pid : Nat) : Prop :=
  ∃ root ∈ processes, (∃ id, Carries database root id) ∧ Descends processes root.pid pid

/-- A listed name of a process outside the Steam trees. -/
structure ListedAs (proc : Process) (name : Text) : Prop where
  listed : (games.get? name).isSome
  named : executableName proc = name ∨ proc.comm = name
  apart : ¬ InSteamTree database processes proc.pid

/-- Which processes match which game, where nothing is left open. -/
inductive Fits (proc : Process) : GameKey → Prop
  | steam {id : Nat} (launched : Launches database proc id) : Fits proc (steamKey id)
  | listed {name : Text} (listed : ListedAs database processes games proc name) : Fits proc
      (listedKey name)

/-- A match that no other match is a parent of. -/
def Outer (matchOf : Process → Option GameKey) (key : GameKey) (proc : Process) : Prop :=
  matchOf proc = some key ∧
    ∀ other ∈ processes, matchOf other = some key → other ≠ proc → other.pid ≠ proc.ppid

/-- The sightings of a table whose processes match games by `matchOf`. -/
structure Detects (matchOf : Process → Option GameKey) (sightings : List Sighting) : Prop where
  distinct : (sightings.map Sighting.key).Nodup
  labelled : ∀ sighting ∈ sightings, (∃ id, sighting.key = steamKey id) ∨
    ∃ name, sighting.key = listedKey name ∧ (games.get? name).isSome
  steam : ∀ id, steamKey id ∈ sightings.map Sighting.key ↔ ∃ proc ∈ processes, Carries database proc id
  launched : ∀ proc ∈ processes, ∀ id, matchOf proc = some (steamKey id) ↔ Launches database proc id
  fits : ∀ proc ∈ processes, ∀ name, matchOf proc = some (listedKey name) →
    ListedAs database processes games proc name
  listed : ∀ proc ∈ processes, ∀ name, ListedAs database processes games proc name →
    ∃ taken, matchOf proc = some (listedKey taken) ∧ listedKey taken ∈ sightings.map Sighting.key
  pids : ∀ sighting ∈ sightings, ∀ pid, pid ∈ sighting.pids ↔
    ∃ proc ∈ processes, matchOf proc = some sighting.key ∧ Descends processes proc.pid pid
  outer : ∀ sighting ∈ sightings, ∃ proc ∈ processes, proc.pid = sighting.pid ∧
    matchOf proc = some sighting.key ∧
    ((∃ other ∈ processes, Outer processes matchOf sighting.key other) →
      Outer processes matchOf sighting.key proc)

/-- One matching and one list of sightings, for every order of the table and of the sets. -/
def WellDefined (steamName : Int → Text) : Prop :=
  ∃ matchOf sightings, Detects database processes games matchOf sightings ∧
    (∀ order, ∀ others, processes.Perm others →
      detectGames others database order games steamName = .ok sightings) ∧
    ∀ order, ∀ proc ∈ processes, ¬ InSteamTree database processes proc.pid →
      matchOf proc = (listedName order games proc).map listedKey

/-- The tables that leave nothing open. -/
structure Unambiguous : Prop where
  short : ∀ proc ∈ processes, ∀ digits, FirstLaunch database proc.argv digits →
    digits.length ≤ intMaxStrDigits
  launched : ∀ proc ∈ processes, ∀ id, Carries database proc id → ∃ other ∈ processes,
    Launches database other id
  single : ∀ proc ∈ processes, ∀ name other, ListedAs database processes games proc name →
    ListedAs database processes games proc other → name = other
  headed : ∀ key, (∀ proc ∈ processes, Fits database processes games proc key →
      ∃ parent ∈ processes, Fits database processes games parent key ∧ parent.pid = proc.ppid) →
    (∃ own ∈ processes, Fits database processes games own key ∧ own.ppid = own.pid) →
    ∃ lowest ∈ processes, Fits database processes games lowest key ∧ lowest.ppid = lowest.pid ∧
      ∀ other ∈ processes, Fits database processes games other key → lowest.pid ≤ other.pid

end

/-! ## The arguments of a process -/

section

variable {database : CharDatabase} {argv before : List Text} {arg digits : Text}

theorem appidDigits_eq_some : appidDigits database arg = some digits ↔
    arg = text "AppId=" ++ digits ∧ (database.decimal? digits).isSome := by
  rw [CharDatabase.decimal?_isSome, appidDigits]
  constructor
  · intro found
    simp only [Option.ite_none_right_eq_some, Bool.and_eq_true, List.isPrefixOf_iff_prefix,
      Option.some.injEq] at found
    obtain ⟨⟨⟨⟨rest, shape⟩, nonempty⟩, decimal⟩, rfl⟩ := found
    rw [← shape, List.drop_left] at nonempty decimal ⊢
    exact ⟨rfl, by simpa using nonempty, fun c member => List.all_eq_true.mp decimal c member⟩
  · intro shape
    obtain ⟨rfl, nonempty, decimal⟩ := shape
    have all : digits.all database.isDigit = true := List.all_eq_true.mpr decimal
    simp [nonempty, all]

theorem launchAt_cons {rest : List Text} : LaunchAt database (arg :: rest) before digits ↔
    (before = [] ∧ arg = text "SteamLaunch" ∧ ∃ next after, rest = next :: after ∧
      appidDigits database next = some digits) ∨ ∃ tail, before = arg :: tail ∧
        LaunchAt database rest tail digits := by
  simp only [LaunchAt, appidDigits_eq_some]
  cases before with
  | nil =>
    simp only [List.nil_append, List.cons.injEq, true_and, reduceCtorEq, false_and,
      exists_false, or_false]
    constructor
    · intro shape
      obtain ⟨after, ⟨rfl, rfl⟩, decimal⟩ := shape
      exact ⟨rfl, _, after, rfl, rfl, decimal⟩
    · intro shape
      obtain ⟨rfl, next, after, rfl, rfl, decimal⟩ := shape
      exact ⟨after, ⟨rfl, rfl⟩, decimal⟩
  | cons first tail =>
    simp only [List.cons_append, List.cons.injEq, reduceCtorEq, false_and, false_or]
    constructor
    · intro shape
      obtain ⟨after, ⟨rfl, rest⟩, decimal⟩ := shape
      exact ⟨tail, ⟨rfl, rfl⟩, after, rest, decimal⟩
    · intro shape
      obtain ⟨_, ⟨rfl, rfl⟩, after, rest, decimal⟩ := shape
      exact ⟨after, ⟨rfl, rest⟩, decimal⟩

theorem not_launchAt_nil : ¬ LaunchAt database [] before digits := by
  intro shape
  obtain ⟨after, shape, _⟩ := shape
  cases before <;> cases shape

theorem launchAt_here {next : Text} {after : List Text} :
    LaunchAt database (arg :: next :: after) [] digits ↔
    arg = text "SteamLaunch" ∧ appidDigits database next = some digits := by
  rw [launchAt_cons]
  constructor
  · intro shape
    rcases shape with ⟨_, name, _, _, same, found⟩ | ⟨_, impossible, _⟩
    · cases same
      exact ⟨name, found⟩
    · cases impossible
  · exact fun shape => .inl ⟨rfl, shape.1, next, after, rfl, shape.2⟩

theorem launchAt_later {next : Text} {after tail : List Text} :
    LaunchAt database (arg :: next :: after) (arg :: tail) digits ↔ LaunchAt database
      (next :: after) tail digits := by
  rw [launchAt_cons]
  simp

theorem launchDigits_eq_some :
    launchDigits database argv = some digits ↔ FirstLaunch database argv digits := by
  induction argv with
  | nil =>
    constructor
    · intro found
      cases found
    · intro first
      obtain ⟨before, here, _⟩ := first
      exact (not_launchAt_nil here).elim
  | cons arg rest ih =>
    cases rest with
    | nil =>
      constructor
      · intro found
        cases found
      · intro first
        obtain ⟨before, here, _⟩ := first
        rcases launchAt_cons.mp here with ⟨_, _, _, _, impossible, _⟩ | ⟨_, _, later⟩
        · cases impossible
        · exact (not_launchAt_nil later).elim
    | cons next after =>
      rw [launchDigits]
      cases found : if arg = text "SteamLaunch" then appidDigits database next else none with
      | some read =>
        obtain ⟨name, read⟩ := Option.ite_none_right_eq_some.mp found
        constructor
        · intro same
          cases same
          exact ⟨[], launchAt_here.mpr ⟨name, read⟩, fun _ _ _ => Nat.zero_le _⟩
        · intro first
          obtain ⟨before, here, least⟩ := first
          have none := List.eq_nil_of_length_eq_zero
            (Nat.eq_zero_of_le_zero (least [] _ (launchAt_here.mpr ⟨name, read⟩)))
          rw [none, launchAt_here] at here
          exact read.symm.trans here.2
      | none =>
        have absent : ∀ other, ¬ LaunchAt database (arg :: next :: after) [] other := by
          intro other here
          obtain ⟨name, read⟩ := launchAt_here.mp here
          rw [if_pos name, read] at found
          cases found
        change launchDigits database (next :: after) = some digits ↔ _
        rw [ih]
        constructor
        · intro first
          obtain ⟨before, here, least⟩ := first
          refine ⟨arg :: before, launchAt_later.mpr here, fun earlier other launch => ?_⟩
          rcases launchAt_cons.mp launch with ⟨rfl, _⟩ | ⟨tail, rfl, later⟩
          · exact (absent other launch).elim
          · exact Nat.succ_le_succ (least tail other later)
        · intro first
          obtain ⟨before, here, least⟩ := first
          rcases launchAt_cons.mp here with ⟨rfl, _⟩ | ⟨tail, rfl, later⟩
          · exact (absent digits here).elim
          · exact ⟨tail, later, fun earlier other launch =>
              Nat.le_of_succ_le_succ (least (arg :: earlier) other (launchAt_later.mpr launch))⟩

theorem firstLaunch_decimal (first : FirstLaunch database argv digits) :
    (database.decimal? digits).isSome := by
  obtain ⟨_, ⟨_, _, decimal⟩, _⟩ := first
  exact decimal

theorem exists_firstLaunch (launch : LaunchAt database argv before digits) :
    ∃ first, FirstLaunch database argv first := by
  classical
  have some : ∃ length, ∃ before digits, LaunchAt database argv before digits ∧
      before.length = length :=
    ⟨_, before, digits, launch, rfl⟩
  obtain ⟨least, first, here, length⟩ := Nat.find_spec some
  exact ⟨first, least, here, fun earlier other launch =>
    length ▸ Nat.find_min' some ⟨earlier, other, launch, rfl⟩⟩

/-- The `AppId` that `steam_appid` returns. -/
def appidOf (database : CharDatabase) (proc : Process) : Option Nat :=
  (launchDigits database proc.argv).bind database.decimal?

theorem appidOf_eq_some {proc : Process} {id : Nat} :
    appidOf database proc = some id ↔ Launches database proc id := by
  rw [appidOf, Option.bind_eq_some_iff]
  simp only [launchDigits_eq_some, Launches]

theorem carries_launches {proc : Process} {id : Nat} (carried : Carries database proc id) :
    ∃ first, Launches database proc first := by
  obtain ⟨before, digits, launch, _⟩ := carried
  obtain ⟨digits, first⟩ := exists_firstLaunch launch
  obtain ⟨id, number⟩ := Option.isSome_iff_exists.mp (firstLaunch_decimal first)
  exact ⟨id, digits, first, number⟩

theorem launches_carries {proc : Process} {id : Nat} (launched : Launches database proc id) :
    Carries database proc id := by
  obtain ⟨digits, ⟨before, here, _⟩, number⟩ := launched
  exact ⟨before, digits, here, number⟩

theorem steamAppid_eq : steamAppid database argv = match launchDigits database argv with
    | none => .ok none
    | some digits => if intMaxStrDigits < digits.length then .error .valueError
      else .ok ((database.decimal? digits).map fun id : Nat => (id : Int)) := by
  rw [steamAppid]
  cases found : launchDigits database argv with
  | none => rfl
  | some digits =>
    obtain ⟨id, number⟩ :=
      Option.isSome_iff_exists.mp (firstLaunch_decimal (launchDigits_eq_some.mp found))
    obtain ⟨nonempty, decimal⟩ := CharDatabase.decimal?_isSome.mp (Option.isSome_of_eq_some number)
    simp only [CharDatabase.intOfText_unadorned (fun c member =>
      CharDatabase.digit_unadorned (decimal c member)) nonempty, number]
    split <;> rfl

end

/-! ## The trees -/

section

variable {processes others : List Process} {roots otherRoots : List Nat}

theorem mem_children {parent child : Nat} : child ∈ ((children processes).get? parent).getD [] ↔
    ∃ proc ∈ processes, proc.ppid = parent ∧ proc.pid = child := by
  rw [children, Dict.getD_gather, Dict.mem_valuesAt]
  simp

theorem reaches_children :
    Reaches (fun pid => ((children processes).get? pid).getD []) = Descends processes := by
  refine congrArg Relation.ReflTransGen ?_
  funext parent child
  exact propext mem_children

/-- `_descendants` ends, with what descends from its roots. -/
theorem descendants_ok (processes : List Process) (roots : List Nat) :
    ∃ tree, descendants processes roots = .ok tree ∧
    tree.Pairwise (· ≤ ·) ∧ tree.Nodup ∧ ∀ pid, pid ∈ tree ↔ ∃ root ∈ roots,
      Descends processes root pid := by
  have finite : ∀ pid, (((children processes).get? pid).getD []).length ≤
      (processes.map fun proc => (proc.ppid, proc.pid)).countP fun edge => edge.1 = pid := by
    intro pid
    rw [children, Dict.getD_gather, Dict.valuesAt, List.length_map, List.countP_eq_length_filter]
  obtain ⟨seen, ran⟩ :=
    @worklist_ends _ _ _ (roots.length + processes.length) [] roots.reverse _ finite (by simp)
  refine ⟨seen.insertionSort (· ≤ ·), ?_, List.pairwise_insertionSort _ _, ?_, ?_⟩
  · rw [descendants, ran]
  · exact (List.perm_insertionSort _ _).nodup_iff.mpr (worklist_nodup ran)
  · intro pid
    rw [List.mem_insertionSort, mem_worklist ran, reaches_children]
    simp only [List.mem_reverse]

def treeOf (processes : List Process) (roots : List Nat) : List Nat :=
  match descendants processes roots with
  | .ok tree => tree
  | .error _ => []

theorem descendants_eq (processes : List Process) (roots : List Nat) :
    descendants processes roots = .ok (treeOf processes roots) := by
  obtain ⟨tree, ran, _⟩ := descendants_ok processes roots
  rw [treeOf, ran]

theorem mem_treeOf {pid : Nat} :
    pid ∈ treeOf processes roots ↔ ∃ root ∈ roots, Descends processes root pid := by
  obtain ⟨tree, ran, _, _, members⟩ := descendants_ok processes roots
  rw [treeOf, ran]
  exact members pid

theorem descends_congr (same : ∀ proc, proc ∈ processes ↔ proc ∈ others) :
    Descends processes = Descends others := by
  refine congrArg Relation.ReflTransGen ?_
  funext parent child
  simp only [same]

theorem treeOf_congr (same : ∀ proc, proc ∈ processes ↔ proc ∈ others)
    (sameRoots : ∀ pid, pid ∈ roots ↔ pid ∈ otherRoots) :
    treeOf processes roots = treeOf others otherRoots := by
  obtain ⟨tree, ran, sorted, distinct, members⟩ := descendants_ok processes roots
  obtain ⟨other, otherRan, otherSorted, otherDistinct, otherMembers⟩ :=
    descendants_ok others otherRoots
  rw [treeOf, treeOf, ran, otherRan]
  refine List.Perm.eq_of_pairwise (fun _ _ _ _ => le_antisymm) sorted otherSorted
    ((List.perm_ext_iff_of_nodup distinct otherDistinct).mpr fun pid => ?_)
  rw [members, otherMembers, descends_congr same]
  simp only [sameRoots]

/-! ## The outermost match -/

def IsRoot (matched : List Process) (proc : Process) : Prop := proc.ppid ∉ matched.map Process.pid

/-- Among which pids the lowest is taken. -/
def candidates (matched : List Process) : List Nat :=
  let roots := (matched.filter fun proc => proc.ppid ∉ matched.map Process.pid).map Process.pid
  if roots = [] then matched.map Process.pid else roots

theorem mem_candidates {matched : List Process} {pid : Nat} : pid ∈ candidates matched ↔
    ∃ proc ∈ matched, proc.pid = pid ∧
      ((∃ root ∈ matched, IsRoot matched root) → IsRoot matched proc) := by
  have rooted : ∀ proc, proc ∈ (matched.filter fun proc => proc.ppid ∉ matched.map Process.pid) ↔
      proc ∈ matched ∧ IsRoot matched proc := by
    intro proc
    rw [List.mem_filter, decide_eq_true_eq, IsRoot]
  simp only [candidates, List.map_eq_nil_iff]
  split
  · rename_i none
    have absent : ¬ ∃ root ∈ matched, IsRoot matched root := by
      intro some
      obtain ⟨root, member, isRoot⟩ := some
      rw [none] at rooted
      cases (rooted root).mpr ⟨member, isRoot⟩
    simp [absent]
  · rename_i some
    obtain ⟨root, first⟩ := List.exists_mem_of_ne_nil _ some
    have present : ∃ root ∈ matched, IsRoot matched root := ⟨root, (rooted root).mp first⟩
    rw [List.mem_map]
    simp only [rooted, present, true_implies]
    exact exists_congr fun proc => by tauto

theorem outermost_isLeast {matched : List Process} (nonempty : matched ≠ []) :
    IsLeast {pid | pid ∈ candidates matched} (outermost matched) := by
  have some : candidates matched ≠ [] := by
    rw [candidates]
    split
    · simpa using nonempty
    · assumption
  change IsLeast _ ((candidates matched).min?.getD 0)
  cases found : (candidates matched).min? with
  | none => exact absurd (List.min?_eq_none_iff.mp found) some
  | some least =>
    obtain ⟨member, below⟩ := List.min?_eq_some_iff.mp found
    exact ⟨member, below⟩

theorem outermost_congr {matched other : List Process}
    (same : ∀ proc, proc ∈ matched ↔ proc ∈ other) : outermost matched = outermost other := by
  have roots : ∀ proc, IsRoot matched proc ↔ IsRoot other proc := by
    intro proc
    simp only [IsRoot, List.mem_map, same]
  have alike : ∀ pid, pid ∈ candidates matched ↔ pid ∈ candidates other := by
    intro pid
    simp only [mem_candidates, same, roots]
  by_cases none : matched = []
  · subst none
    have empty : other = [] := List.eq_nil_iff_forall_not_mem.mpr fun proc member =>
        List.not_mem_nil ((same proc).mpr member)
    rw [empty]
  · have some : other ≠ [] := by
      obtain ⟨proc, member⟩ := List.exists_mem_of_ne_nil _ none
      exact List.ne_nil_of_mem ((same proc).mp member)
    have least := outermost_isLeast some
    simp only [← alike] at least
    exact (outermost_isLeast none).unique least

/-! ## The sightings of a matching -/

/-- The keys of pairs, each once and in order. -/
def sortedKeys {κ ν : Type*} [DecidableEq κ] [LinearOrder κ] (pairs : List (κ × ν)) : List κ :=
  (pairs.map Prod.fst).dedup.insertionSort (· ≤ ·)

theorem mem_sortedKeys {κ ν : Type*} [DecidableEq κ] [LinearOrder κ] {pairs : List (κ × ν)} {key : κ} :
    key ∈ sortedKeys pairs ↔ ∃ value, (key, value) ∈ pairs := by
  simp [sortedKeys]

theorem sortedKeys_congr {κ ν : Type*} [DecidableEq κ] [LinearOrder κ] {left right : List (κ × ν)}
    (same : ∀ pair, pair ∈ left ↔ pair ∈ right) : sortedKeys left = sortedKeys right := by
  refine @insertionSort_eq_of_perm _ _ _ id _ _ (fun _ _ _ _ alike => alike)
    ((List.perm_ext_iff_of_nodup (List.nodup_dedup _) (List.nodup_dedup _)).mpr fun key => ?_)
  simp [same]

variable (database : CharDatabase) (games : Dict Text Text) (steamName : Int → Text)

def launchPairs (processes : List Process) : List (Int × Process) :=
  processes.filterMap fun proc => (appidOf database proc).map fun id : Nat => ((id : Int), proc)

/-- A row of either kind. -/
def sightingOf (processes : List Process) (game : Text) (key : GameKey) (matched : List Process) :
    Sighting :=
  ⟨game, key.matchedBy, key.appid, key.executable, outermost matched,
    treeOf processes (matched.map Process.pid)⟩

def steamRows (processes : List Process) : List Sighting :=
  (sortedKeys (launchPairs database processes)).map fun id =>
    sightingOf processes (steamName id) ⟨.steamAppid, some id, none⟩
      (Dict.valuesAt (launchPairs database processes) id)

def listedRows (processes : List Process) (listed : List (Text × Process)) : List Sighting :=
  (sortedKeys listed).map fun name =>
    sightingOf processes ((games.get? name).getD []) (listedKey name) (Dict.valuesAt listed name)

/-- What detection returns, unless an `AppId` is too long. -/
def foundGames (processes : List Process) (order : SetOrder) : List Sighting :=
  let steam := steamRows database steamName processes
  steam ++ listedRows games processes (listings processes order games (steam.flatMap Sighting.pids))

/-- No `AppId` is too long for `int`. -/
def Short (processes : List Process) : Prop :=
  ∀ proc ∈ processes, ∀ digits, FirstLaunch database proc.argv digits → digits.length ≤ intMaxStrDigits

variable {database games steamName}

theorem launches_ok (short : Short database processes) :
    launches processes database = .ok (launchPairs database processes) := by
  have each : ∀ proc ∈ processes,
      ((steamAppid database proc.argv).map fun found => found.map fun appid => (appid, proc)) =
      .ok ((appidOf database proc).map fun id : Nat => ((id : Int), proc)) := by
    intro proc member
    rw [steamAppid_eq, appidOf]
    cases found : launchDigits database proc.argv with
    | none => rfl
    | some digits =>
      have fits := short proc member digits (launchDigits_eq_some.mp found)
      simp only [Nat.not_lt.mpr fits, if_false, Except.map, Option.bind_some, Option.map_map]
      rfl
  rw [launches, exceptM_map each, Except.map,
    show ∀ found : List (Option (Int × Process)),
    found.reduceOption = found.filterMap id from fun _ => rfl, List.filterMap_map]
  rfl

theorem launches_error {proc : Process} {digits : Text} (member : proc ∈ processes)
    (first : FirstLaunch database proc.argv digits) (long : intMaxStrDigits < digits.length) :
    ∀ pairs, launches processes database ≠ .ok pairs := by
  intro pairs ran
  rw [launches] at ran
  cases turns : processes.mapM fun proc =>
      (steamAppid database proc.argv).map fun found => found.map fun appid => (appid, proc) with
  | error raised =>
    rw [turns] at ran
    cases ran
  | ok outputs =>
    obtain ⟨output, read⟩ := exceptM_ok.mp ⟨outputs, turns⟩ proc member
    rw [steamAppid_eq, launchDigits_eq_some.mpr first] at read
    simp only [long, if_true, Except.map, reduceCtorEq] at read

theorem detectGames_ok (order : SetOrder) (short : Short database processes) :
    detectGames processes database order games steamName = .ok
      (foundGames database games steamName processes order) := by
  have steam : ∀ entry, steamSighting processes steamName entry =
      .ok (sightingOf processes (steamName entry.1) ⟨.steamAppid, some entry.1, none⟩ entry.2) := by
    intro entry
    rw [steamSighting, descendants_eq]
    rfl
  have listed : ∀ entry, listedSighting processes games entry =
      .ok (sightingOf processes ((games.get? entry.1).getD []) (listedKey entry.1) entry.2) := by
    intro entry
    rw [listedSighting, descendants_eq]
    rfl
  simp only [detectGames, launches_ok short, Except.mapError, bind, Except.bind, Dict.sorted_gather,
    exceptM_map fun entry _ => steam entry, exceptM_map fun entry _ => listed entry, List.map_map,
    pure, Except.pure]
  rfl

/-! ## What the rows are of -/

theorem mem_launchPairs {id : Nat} {proc : Process} :
    ((id : Int), proc) ∈ launchPairs database processes ↔
    proc ∈ processes ∧ Launches database proc id := by
  simp only [launchPairs, List.mem_filterMap, Option.map_eq_some_iff, Prod.mk.injEq,
    Int.natCast_inj, appidOf_eq_some]
  constructor
  · intro paired
    obtain ⟨proc, member, id, launched, rfl, rfl⟩ := paired
    exact ⟨member, launched⟩
  · intro paired
    exact ⟨proc, paired.1, id, paired.2, rfl, rfl⟩

theorem launchPairs_key {id : Int} {proc : Process}
    (member : (id, proc) ∈ launchPairs database processes) : ∃ number : Nat, id = number := by
  obtain ⟨_, _, paired⟩ := List.mem_filterMap.mp member
  obtain ⟨number, _, same⟩ := Option.map_eq_some_iff.mp paired
  exact ⟨number, (Prod.mk.inj same).1.symm⟩

theorem mem_steamTrees {pid : Nat} :
    pid ∈ (steamRows database steamName processes).flatMap Sighting.pids ↔
    InSteamTree database processes pid := by
  simp only [steamRows, List.mem_flatMap, List.mem_map, exists_exists_and_eq_and, sightingOf,
    mem_treeOf, InSteamTree]
  constructor
  · intro inside
    obtain ⟨id, _, proc, member, path⟩ := inside
    have paired := Dict.mem_valuesAt.mp member
    obtain ⟨number, rfl⟩ := launchPairs_key paired
    obtain ⟨here, launched⟩ := mem_launchPairs.mp paired
    exact ⟨proc, here, ⟨number, launches_carries launched⟩, path⟩
  · intro inside
    obtain ⟨root, here, ⟨_, carried⟩, path⟩ := inside
    obtain ⟨id, launched⟩ := carries_launches carried
    have paired := mem_launchPairs.mpr ⟨here, launched⟩
    exact ⟨id, mem_sortedKeys.mpr ⟨root, paired⟩, root, Dict.mem_valuesAt.mpr paired, path⟩

theorem mem_listings {order : SetOrder} {name : Text} {proc : Process} :
    (name, proc) ∈ listings processes order games
      ((steamRows database steamName processes).flatMap Sighting.pids) ↔
      proc ∈ processes ∧ ¬ InSteamTree database processes proc.pid ∧
        listedName order games proc = some name := by
  simp only [listings, List.mem_filterMap, List.mem_filter, decide_eq_true_eq, mem_steamTrees,
    Option.map_eq_some_iff, Prod.mk.injEq]
  constructor
  · intro paired
    obtain ⟨proc, ⟨member, apart⟩, name, found, rfl, rfl⟩ := paired
    exact ⟨member, apart, found⟩
  · intro paired
    exact ⟨proc, ⟨paired.1, paired.2.1⟩, name, paired.2.2, rfl, rfl⟩

theorem mem_names {order : SetOrder} {proc : Process} {name : Text} :
    name ∈ order.names proc ↔ executableName proc = name ∨ proc.comm = name := by
  rw [(order.perm proc).mem_iff, List.mem_dedup]
  simp [eq_comm]

theorem listedName_listedAs {order : SetOrder} {proc : Process} {name : Text}
    (apart : ¬ InSteamTree database processes proc.pid)
    (found : listedName order games proc = some name) :
    ListedAs database processes games proc name :=
  ⟨(List.find?_eq_some_iff_append.mp found).1, mem_names.mp (List.mem_of_find?_eq_some found), apart⟩

theorem exists_listedName {proc : Process} {name : Text}
    (listed : ListedAs database processes games proc name) (order : SetOrder) :
    ∃ taken, listedName order games proc = some taken := by
  cases found : listedName order games proc with
  | some taken => exact ⟨taken, rfl⟩
  | none => exact absurd listed.listed (List.find?_eq_none.mp found name (mem_names.mpr listed.named))

theorem launches_inSteamTree {proc : Process} {id : Nat} (member : proc ∈ processes)
    (launched : Launches database proc id) : InSteamTree database processes proc.pid :=
  ⟨proc, member, ⟨id, launches_carries launched⟩, Relation.ReflTransGen.refl⟩

end

section

variable {database : CharDatabase} {processes others : List Process} {games : Dict Text Text}
  {steamName : Int → Text} {order : SetOrder} {proc : Process}

open Classical in
/-- The game that each process matches in one run. -/
noncomputable def matching (database : CharDatabase) (processes : List Process)
    (games : Dict Text Text) (order : SetOrder) (proc : Process) : Option GameKey :=
  if InSteamTree database processes proc.pid then (appidOf database proc).map steamKey
  else (listedName order games proc).map listedKey

theorem matching_steam {id : Nat} (member : proc ∈ processes) :
    matching database processes games order proc = some (steamKey id) ↔ Launches database proc id := by
  rw [matching, ← appidOf_eq_some]
  split
  · simp [steamKey]
  · rename_i apart
    simp only [Option.map_eq_some_iff, steamKey, listedKey, GameKey.mk.injEq,
      reduceCtorEq, and_false, exists_false, false_iff, appidOf_eq_some]
    exact fun launched => apart (launches_inSteamTree member launched)

theorem matching_listed {name : Text} :
    matching database processes games order proc = some (listedKey name) ↔
    ¬ InSteamTree database processes proc.pid ∧ listedName order games proc = some name := by
  rw [matching]
  split
  · rename_i inside
    simp [steamKey, listedKey, inside]
  · rename_i apart
    simp [listedKey, apart]

theorem found_shape {sighting : Sighting}
    (member : sighting ∈ foundGames database games steamName processes order) :
    ∃ game key matched, sighting = sightingOf processes game key matched ∧ matched ≠ [] ∧
      (∀ proc, proc ∈ matched ↔ proc ∈ processes ∧
        matching database processes games order proc = some key) ∧
      ((∃ id, key = steamKey id) ∨ ∃ name, key = listedKey name) := by
  rcases List.mem_append.mp member with steam | listed
  · obtain ⟨id, inside, rfl⟩ := List.mem_map.mp steam
    obtain ⟨first, paired⟩ := mem_sortedKeys.mp inside
    obtain ⟨number, rfl⟩ := launchPairs_key paired
    refine ⟨_, steamKey number, _, rfl, List.ne_nil_of_mem (Dict.mem_valuesAt.mpr paired),
      fun proc => ?_, .inl ⟨number, rfl⟩⟩
    rw [Dict.mem_valuesAt, mem_launchPairs]
    exact and_congr_right fun here => (matching_steam here).symm
  · obtain ⟨name, inside, rfl⟩ := List.mem_map.mp listed
    obtain ⟨first, paired⟩ := mem_sortedKeys.mp inside
    refine ⟨_, listedKey name, _, rfl, List.ne_nil_of_mem (Dict.mem_valuesAt.mpr paired),
      fun proc => ?_, .inr ⟨name, rfl⟩⟩
    rw [Dict.mem_valuesAt, mem_listings, matching_listed]

theorem mem_found_keys {key : GameKey} :
    key ∈ (foundGames database games steamName processes order).map Sighting.key ↔
    ∃ proc ∈ processes, matching database processes games order proc = some key := by
  constructor
  · intro listed
    obtain ⟨sighting, member, rfl⟩ := List.mem_map.mp listed
    obtain ⟨game, key, matched, rfl, nonempty, members, _⟩ := found_shape member
    obtain ⟨proc, inside⟩ := List.exists_mem_of_ne_nil _ nonempty
    exact ⟨proc, (members proc).mp inside⟩
  · intro matched
    obtain ⟨proc, member, named⟩ := matched
    by_cases inside : InSteamTree database processes proc.pid
    · have steam := named
      rw [matching, if_pos inside] at steam
      obtain ⟨id, _, rfl⟩ := Option.map_eq_some_iff.mp steam
      have paired := mem_launchPairs.mpr ⟨member, (matching_steam member).mp named⟩
      refine List.mem_map.mpr ⟨_,
        List.mem_append_left _ (List.mem_map.mpr ⟨id, mem_sortedKeys.mpr ⟨proc, paired⟩, rfl⟩), rfl⟩
    · have listed := named
      rw [matching, if_neg inside] at listed
      obtain ⟨name, found, rfl⟩ := Option.map_eq_some_iff.mp listed
      have paired := (@mem_listings processes database games steamName order name proc).mpr
          ⟨member, inside, found⟩
      refine List.mem_map.mpr ⟨_,
        List.mem_append_right _ (List.mem_map.mpr ⟨name, mem_sortedKeys.mpr ⟨proc, paired⟩, rfl⟩),
        rfl⟩

theorem found_distinct :
    ((foundGames database games steamName processes order).map Sighting.key).Nodup := by
  have keysDistinct : ∀ {κ ν : Type} [DecidableEq κ] [LinearOrder κ] (pairs : List (κ × ν)),
      (sortedKeys pairs).Nodup :=
    fun pairs => (List.perm_insertionSort _ _).nodup_iff.mpr (List.nodup_dedup _)
  rw [foundGames, List.map_append, steamRows, listedRows, List.map_map, List.map_map]
  refine List.Nodup.append ?_ ?_ ?_
  · refine (keysDistinct _).map fun left right same => ?_
    exact Option.some.inj (congrArg GameKey.appid same)
  · refine (keysDistinct _).map fun left right same => ?_
    exact Option.some.inj (congrArg GameKey.executable same)
  · intro key left right
    obtain ⟨_, _, rfl⟩ := List.mem_map.mp left
    obtain ⟨_, _, same⟩ := List.mem_map.mp right
    cases congrArg GameKey.matchedBy same

/-! ## What is left open -/

/-- No process outside the Steam trees has two listed names. -/
def Single (database : CharDatabase) (processes : List Process) (games : Dict Text Text) : Prop :=
  ∀ proc ∈ processes, ∀ name other, ListedAs database processes games proc name →
    ListedAs database processes games proc other → name = other

theorem matching_fits (single : Single database processes games) (member : proc ∈ processes)
    {key : GameKey} :
    matching database processes games order proc = some key ↔
      Fits database processes games proc key := by
  constructor
  · intro matched
    by_cases inside : InSteamTree database processes proc.pid
    · have steam := matched
      rw [matching, if_pos inside] at steam
      obtain ⟨id, _, rfl⟩ := Option.map_eq_some_iff.mp steam
      exact .steam ((matching_steam member).mp matched)
    · have listed := matched
      rw [matching, if_neg inside] at listed
      obtain ⟨name, found, rfl⟩ := Option.map_eq_some_iff.mp listed
      exact .listed (listedName_listedAs inside found)
  · intro fits
    cases fits with
    | steam launched => exact (matching_steam member).mpr launched
    | listed listed =>
      obtain ⟨taken, found⟩ := exists_listedName listed order
      have same := single proc member _ _ listed (listedName_listedAs listed.apart found)
      exact matching_listed.mpr ⟨listed.apart, same ▸ found⟩

theorem sightingOf_congr {game : Text} {key : GameKey} {matched other : List Process}
    (same : ∀ proc, proc ∈ processes ↔ proc ∈ others) (alike : ∀ proc, proc ∈ matched ↔ proc ∈ other) :
    sightingOf processes game key matched = sightingOf others game key other := by
  have roots : ∀ pid, pid ∈ matched.map Process.pid ↔ pid ∈ other.map Process.pid := by
    intro pid
    simp only [List.mem_map, alike]
  rw [sightingOf, sightingOf, outermost_congr alike, treeOf_congr same roots]

/-- Neither the order of the table nor that of the sets matters, where every process matches the
same game in both. -/
theorem foundGames_congr {other : SetOrder} (same : ∀ proc, proc ∈ processes ↔ proc ∈ others)
    (agree : ∀ proc ∈ processes, ¬ InSteamTree database processes proc.pid →
      listedName order games proc = listedName other games proc) :
    foundGames database games steamName processes order =
      foundGames database games steamName others other := by
  have launched : ∀ pair, pair ∈ launchPairs database processes ↔
      pair ∈ launchPairs database others := by
    intro pair
    simp only [launchPairs, List.mem_filterMap, same]
  have trees : ∀ pid, InSteamTree database processes pid ↔ InSteamTree database others pid := by
    intro pid
    simp only [InSteamTree, same, descends_congr same]
  have listed : ∀ pair,
      pair ∈ listings processes order games
        ((steamRows database steamName processes).flatMap Sighting.pids) ↔
        pair ∈ listings others other games
          ((steamRows database steamName others).flatMap Sighting.pids) := by
    intro pair
    obtain ⟨name, proc⟩ := pair
    rw [mem_listings, mem_listings, ← same, ← trees]
    refine and_congr_right fun member => and_congr_right fun apart => ?_
    rw [agree proc member apart]
  have values : ∀ {κ : Type} [DecidableEq κ] {left right : List (κ × Process)},
      (∀ pair, pair ∈ left ↔ pair ∈ right) →
      ∀ key proc, proc ∈ Dict.valuesAt left key ↔ proc ∈ Dict.valuesAt right key := by
    intro κ _ left right alike key proc
    rw [Dict.mem_valuesAt, Dict.mem_valuesAt, alike]
  simp only [foundGames, listedRows, sortedKeys_congr listed]
  congr 1
  · simp only [steamRows, sortedKeys_congr launched]
    exact List.map_congr_left fun id _ => sightingOf_congr same (values launched id)
  · exact List.map_congr_left fun name _ => sightingOf_congr same (values listed name)

theorem detectGames_short {sightings : List Sighting}
    (ran : detectGames processes database order games steamName = .ok sightings) :
    Short database processes := by
  intro proc member digits first
  by_contra long
  cases launched : launches processes database with
  | ok pairs => exact launches_error member first (Nat.not_le.mp long) pairs launched
  | error raised =>
    simp only [detectGames, launched, Except.mapError, bind, Except.bind, reduceCtorEq] at ran

/-- The first of a process's names is taken first, or the last. -/
def SetOrder.forward : SetOrder :=
  ⟨fun proc => [executableName proc, proc.comm].dedup, fun _ => List.Perm.refl _⟩

def SetOrder.backward : SetOrder :=
  ⟨fun proc => [executableName proc, proc.comm].dedup.reverse, fun _ => List.reverse_perm _⟩

theorem listedName_orders (different : executableName proc ≠ proc.comm)
    (name : (games.get? (executableName proc)).isSome) (comm : (games.get? proc.comm).isSome) :
    listedName .forward games proc = some (executableName proc) ∧
      listedName .backward games proc = some proc.comm := by
  simp [listedName, SetOrder.forward, SetOrder.backward, List.dedup_cons_of_notMem, different,
    name, comm]

/-! ## The lowest match -/

theorem outer_own {matchOf : Process → Option GameKey} {key : GameKey}
    (outer : Outer processes matchOf key proc)
    (parented : ∃ parent ∈ processes, matchOf parent = some key ∧ parent.pid = proc.ppid) :
    proc.ppid = proc.pid := by
  obtain ⟨parent, member, named, link⟩ := parented
  by_cases self : parent = proc
  · rw [← link, self]
  · exact absurd link (outer.2 parent member named self)

theorem own_outer (distinct : (processes.map Process.pid).Nodup)
    {matchOf : Process → Option GameKey} {key : GameKey} (member : proc ∈ processes)
    (named : matchOf proc = some key) (own : proc.ppid = proc.pid) :
    Outer processes matchOf key proc :=
  ⟨named, fun _ inside _ different link =>
    different (List.inj_on_of_nodup_map distinct inside member (link.trans own))⟩

theorem found_outer (distinct : (processes.map Process.pid).Nodup)
    (clear : Unambiguous database processes games) {sighting : Sighting}
    (member : sighting ∈ foundGames database games steamName processes order) :
    ∃ proc ∈ processes, proc.pid = sighting.pid ∧ matching database processes games order proc =
      some sighting.key ∧
      ((∃ other ∈ processes,
        Outer processes (matching database processes games order) sighting.key other) →
        Outer processes (matching database processes games order) sighting.key proc) := by
  obtain ⟨game, key, matched, rfl, nonempty, members, _⟩ := found_shape member
  have least := outermost_isLeast nonempty
  obtain ⟨proc, inside, pid, rooted⟩ := mem_candidates.mp least.1
  obtain ⟨here, named⟩ := (members proc).mp inside
  refine ⟨proc, here, pid, named, fun some => ?_⟩
  by_cases root : ∃ root ∈ matched, IsRoot matched root
  · refine ⟨named, fun other there same _ link => rooted root ?_⟩
    exact List.mem_map.mpr ⟨other, (members other).mpr ⟨there, same⟩, link⟩
  · obtain ⟨outer, there, isOuter⟩ := some
    have parented : ∀ child ∈ processes, matching database processes games order child = some key →
        ∃ parent ∈ processes, matching database processes games order parent = some key ∧
          parent.pid = child.ppid := by
      intro child childHere childNamed
      by_contra orphan
      refine root ⟨child, (members child).mpr ⟨childHere, childNamed⟩, fun link => orphan ?_⟩
      obtain ⟨parent, parentHere, same⟩ := List.mem_map.mp link
      exact ⟨parent, ((members parent).mp parentHere).1, ((members parent).mp parentHere).2, same⟩
    have linked : ∀ child ∈ processes, Fits database processes games child key →
        ∃ parent ∈ processes, Fits database processes games parent key ∧ parent.pid = child.ppid := by
      intro child childHere childFits
      obtain ⟨parent, parentHere, parentNamed, link⟩ := parented child childHere
        ((matching_fits clear.single childHere).mpr childFits)
      exact ⟨parent, parentHere, (matching_fits clear.single parentHere).mp parentNamed, link⟩
    have own := outer_own isOuter (parented outer there isOuter.1)
    obtain ⟨lowest, lowestHere, lowestFits, lowestOwn, below⟩ := clear.headed key linked
      ⟨outer, there, (matching_fits clear.single there).mp isOuter.1, own⟩
    have lowestNamed : matching database processes games order lowest = some key :=
      (matching_fits clear.single lowestHere).mpr lowestFits
    have above : proc.pid ≤ lowest.pid := by
      rw [pid]
      exact least.2 (mem_candidates.mpr ⟨lowest, (members lowest).mpr ⟨lowestHere, lowestNamed⟩,
        rfl, fun some =>
        absurd some root⟩)
    have same := List.inj_on_of_nodup_map distinct here lowestHere
      (le_antisymm above (below proc here ((matching_fits clear.single here).mp named)))
    rw [same]
    exact own_outer distinct lowestHere lowestNamed lowestOwn

theorem detects (distinct : (processes.map Process.pid).Nodup)
    (clear : Unambiguous database processes games) :
    Detects database processes games (matching database processes games order)
      (foundGames database games steamName processes order) where
  distinct := found_distinct
  labelled := by
    intro sighting member
    obtain ⟨game, key, matched, rfl, nonempty, members, form⟩ := found_shape member
    refine form.imp_right fun listed => ?_
    obtain ⟨name, rfl⟩ := listed
    obtain ⟨proc, inside⟩ := List.exists_mem_of_ne_nil _ nonempty
    obtain ⟨apart, found⟩ := matching_listed.mp ((members proc).mp inside).2
    exact ⟨name, rfl, (listedName_listedAs apart found).listed⟩
  steam := by
    intro id
    rw [mem_found_keys]
    constructor
    · intro matched
      obtain ⟨proc, member, named⟩ := matched
      exact ⟨proc, member, launches_carries ((matching_steam member).mp named)⟩
    · intro carried
      obtain ⟨proc, member, carried⟩ := carried
      obtain ⟨other, there, launched⟩ := clear.launched proc member id carried
      exact ⟨other, there, (matching_steam there).mpr launched⟩
  launched := fun proc member id => matching_steam member
  fits := by
    intro proc member name matched
    obtain ⟨apart, found⟩ := matching_listed.mp matched
    exact listedName_listedAs apart found
  listed := by
    intro proc member name listed
    have matched : matching database processes games order proc = some (listedKey name) :=
      (matching_fits clear.single member).mpr (.listed listed)
    exact ⟨name, matched, mem_found_keys.mpr ⟨proc, member, matched⟩⟩
  pids := by
    intro sighting member pid
    obtain ⟨game, key, matched, rfl, _, members, _⟩ := found_shape member
    change pid ∈ treeOf processes (matched.map Process.pid) ↔ _
    rw [mem_treeOf]
    constructor
    · intro inside
      obtain ⟨root, listed, path⟩ := inside
      obtain ⟨proc, here, rfl⟩ := List.mem_map.mp listed
      exact ⟨proc, ((members proc).mp here).1, ((members proc).mp here).2, path⟩
    · intro inside
      obtain ⟨proc, here, named, path⟩ := inside
      exact ⟨proc.pid, List.mem_map_of_mem ((members proc).mpr ⟨here, named⟩), path⟩
  outer := fun sighting member => found_outer distinct clear member

theorem wellDefined_of_unambiguous (distinct : (processes.map Process.pid).Nodup)
    (clear : Unambiguous database processes games) :
    WellDefined database processes games steamName := by
  have agree : ∀ order : SetOrder, ∀ proc ∈ processes, ¬ InSteamTree database processes proc.pid →
      listedName .forward games proc = listedName order games proc := by
    intro order proc member apart
    refine Option.ext fun name => ?_
    have same : matching database processes games .forward proc = some (listedKey name) ↔
        matching database processes games order proc = some (listedKey name) := by
      rw [matching_fits clear.single member, matching_fits clear.single member]
    simpa only [matching_listed, apart, not_false_eq_true, true_and] using same
  refine ⟨matching database processes games .forward,
    foundGames database games steamName processes .forward, detects distinct clear, ?_, ?_⟩
  · intro order others perm
    have short : Short database others := fun proc member => clear.short proc (perm.mem_iff.mpr member)
    rw [detectGames_ok order short, foundGames_congr (fun _ => perm.mem_iff) (agree order)]
  · intro order proc member apart
    rw [matching, if_neg apart, agree order proc member apart]

theorem unambiguous_of_wellDefined (distinct : (processes.map Process.pid).Nodup)
    (defined : WellDefined database processes games steamName) :
    Unambiguous database processes games := by
  obtain ⟨matchOf, sightings, detected, always, taken⟩ := defined
  have short := detectGames_short (always .forward processes (List.Perm.refl _))
  have single : Single database processes games := by
    intro proc member name other listed also
    by_contra different
    have names : executableName proc ≠ proc.comm := by
      intro same
      have only : ∀ named, executableName proc = named ∨ proc.comm = named → named = proc.comm := by
        intro named either
        rcases either with first | last
        · exact first.symm.trans same
        · exact last.symm
      exact different ((only name listed.named).trans (only other also.named).symm)
    have both : (games.get? (executableName proc)).isSome ∧ (games.get? proc.comm).isSome := by
      rcases listed.named with first | last <;> rcases also.named with alsoFirst | alsoLast
      · exact absurd (first.symm.trans alsoFirst) different
      · exact ⟨first ▸ listed.listed, alsoLast ▸ also.listed⟩
      · exact ⟨alsoFirst ▸ also.listed, last ▸ listed.listed⟩
      · exact absurd (last.symm.trans alsoLast) different
    obtain ⟨first, last⟩ := listedName_orders names both.1 both.2
    have forward := taken .forward proc member listed.apart
    rw [taken .backward proc member listed.apart, first, last] at forward
    exact names (Option.some.inj (congrArg GameKey.executable (Option.some.inj forward))).symm
  have named : ∀ proc ∈ processes, ∀ key, Fits database processes games proc key →
      matchOf proc = some key ∧ key ∈ sightings.map Sighting.key := by
    intro proc member key fits
    cases fits with
    | steam launched =>
      exact ⟨(detected.launched proc member _).mpr launched, (detected.steam _).mpr ⟨proc, member,
        launches_carries launched⟩⟩
    | listed listed =>
      obtain ⟨name, matched, present⟩ := detected.listed proc member _ listed
      have same := single proc member _ _ (detected.fits proc member name matched) listed
      exact same ▸ ⟨matched, present⟩
  have fits : ∀ proc ∈ processes, ∀ key, matchOf proc = some key →
      key ∈ sightings.map Sighting.key → Fits database processes games proc key := by
    intro proc member key matched present
    obtain ⟨sighting, inside, rfl⟩ := List.mem_map.mp present
    rcases detected.labelled sighting inside with ⟨id, label⟩ | ⟨name, label, _⟩
    · rw [label] at matched ⊢
      exact .steam ((detected.launched proc member id).mp matched)
    · rw [label] at matched ⊢
      exact .listed (detected.fits proc member name matched)
  refine ⟨short, ?_, single, ?_⟩
  · intro proc member id carried
    obtain ⟨sighting, inside, label⟩ :=
      List.mem_map.mp ((detected.steam id).mpr ⟨proc, member, carried⟩)
    obtain ⟨other, there, _, matched, _⟩ := detected.outer sighting inside
    exact ⟨other, there, (detected.launched other there id).mp (label ▸ matched)⟩
  · intro key parented own
    obtain ⟨own, ownHere, ownFits, itself⟩ := own
    obtain ⟨ownNamed, present⟩ := named own ownHere key ownFits
    obtain ⟨sighting, inside, label⟩ := List.mem_map.mp present
    obtain ⟨proc, here, pid, matched, rooted⟩ := detected.outer sighting inside
    have outer := rooted ⟨own, ownHere, own_outer distinct ownHere (label ▸ ownNamed) itself⟩
    have procFits : Fits database processes games proc key :=
      fits proc here key (label ▸ matched) present
    obtain ⟨parent, parentHere, parentFits, link⟩ := parented proc here procFits
    refine ⟨proc, here, procFits,
      outer_own outer ⟨parent, parentHere, label ▸ (named parent parentHere key parentFits).1,
        link⟩, ?_⟩
    intro other there otherFits
    have found : sightings = foundGames database games steamName processes .forward :=
      Except.ok.inj ((always .forward processes (List.Perm.refl _)).symm.trans
        (detectGames_ok .forward short))
    rw [found] at inside
    obtain ⟨game, ofKey, those, rfl, nonempty, members, _⟩ := found_shape inside
    cases label
    have theirs : ∀ child, child ∈ those ↔ child ∈ processes ∧
        Fits database processes games child ofKey := by
      intro child
      rw [members]
      exact and_congr_right fun childHere => matching_fits single childHere
    rw [pid]
    refine (outermost_isLeast nonempty).2 (mem_candidates.mpr ⟨other,
      (theirs other).mpr ⟨there, otherFits⟩, rfl, ?_⟩)
    intro root
    obtain ⟨root, rootInside, orphan⟩ := root
    obtain ⟨rootHere, rootFits⟩ := (theirs root).mp rootInside
    obtain ⟨above, aboveHere, aboveFits, step⟩ := parented root rootHere rootFits
    exact absurd (List.mem_map.mpr ⟨above, (theirs above).mpr ⟨aboveHere, aboveFits⟩, step⟩) orphan

theorem not_carries (none : launchDigits CharDatabase.ascii proc.argv = none) (id : Nat) :
    ¬ Carries CharDatabase.ascii proc id := by
  intro carried
  obtain ⟨_, digits, first, _⟩ := carries_launches carried
  rw [launchDigits_eq_some.mpr first] at none
  cases none

end

/-- Detection is a function of the process table exactly where the table leaves nothing open. -/
theorem detection_wellDefined_iff (database : CharDatabase) (processes : List Process)
    (games : Dict Text Text) (steamName : Int → Text)
    (distinct : (processes.map Process.pid).Nodup) :
    WellDefined database processes games steamName ↔ Unambiguous database processes games :=
  ⟨unambiguous_of_wellDefined distinct, wellDefined_of_unambiguous distinct⟩

def looped : Process := ⟨5, 5, text "a", [text "/opt/a"]⟩

def reaper : Process :=
  ⟨100, 1, text "reaper", [text "reaper", text "SteamLaunch", text "AppId=620", text "--"]⟩

/-- A process that is its own parent, a Steam launch with a listed child, and a listed game with
one. -/
def eveningTable : List Process :=
  [looped, reaper, ⟨101, 100, text "portal2", [text "/games/portal2"]⟩,
    ⟨200, 1, text "b", [text "/opt/b"]⟩, ⟨201, 200, text "b", [text "/opt/b"]⟩]

def eveningGames : Dict Text Text :=
  Dict.ofEntries [(text "a", text "A"), (text "b", text "B"), (text "portal2", text "Portal")]

theorem reaper_carries {id : Nat} (carried : Carries CharDatabase.ascii reaper id) : id = 620 := by
  obtain ⟨before, digits, launch, decimal⟩ := carried
  have here : CharDatabase.ascii.decimal? (text "620") = some 620 := by decide
  rcases launchAt_cons.mp launch with ⟨_, impossible, _⟩ | ⟨_, _, launch⟩
  · exact absurd impossible (by decide)
  rcases launchAt_cons.mp launch with ⟨_, _, _, _, same, found⟩ | ⟨_, _, launch⟩
  · cases same
    have read : appidDigits CharDatabase.ascii (text "AppId=620") = some (text "620") := by decide
    cases read.symm.trans found
    exact Option.some.inj (decimal.symm.trans here)
  rcases launchAt_cons.mp launch with ⟨_, impossible, _⟩ | ⟨_, _, launch⟩
  · exact absurd impossible (by decide)
  rcases launchAt_cons.mp launch with ⟨_, impossible, _⟩ | ⟨_, _, launch⟩
  · exact absurd impossible (by decide)
  exact (not_launchAt_nil launch).elim

theorem reaper_launches : Launches CharDatabase.ascii reaper 620 :=
  ⟨text "620", launchDigits_eq_some.mp (by decide), by decide⟩

/-- The launch has its child, and the listed games are named by their outermost process. -/
theorem evening_wellDefined : WellDefined CharDatabase.ascii eveningTable eveningGames intText ∧
    ∀ order, (detectGames eveningTable CharDatabase.ascii order eveningGames intText).map
      (List.map fun sighting => (sighting.game, sighting.pid, sighting.pids)) =
        .ok [(text "620", 100, [100, 101]), (text "A", 5, [5]), (text "B", 200, [200, 201])] := by
  have clear : Unambiguous CharDatabase.ascii eveningTable eveningGames := by
    refine ⟨?_, ?_, ?_, ?_⟩
    · have short : (eveningTable.all fun proc =>
          (launchDigits CharDatabase.ascii proc.argv).all fun digits =>
          digits.length ≤ intMaxStrDigits) = true := by decide
      intro proc member digits first
      have bound := List.all_eq_true.mp short proc member
      simpa [launchDigits_eq_some.mpr first] using bound
    · have lone : (eveningTable.all fun proc =>
          proc = reaper || (launchDigits CharDatabase.ascii proc.argv).isNone) = true := by decide
      intro proc member id carried
      have either := List.all_eq_true.mp lone proc member
      simp only [Bool.or_eq_true, decide_eq_true_eq, Option.isNone_iff_eq_none] at either
      rcases either with rfl | none
      · exact ⟨reaper, member, reaper_carries carried ▸ reaper_launches⟩
      · exact absurd carried (not_carries none id)
    · have plain : (eveningTable.all fun proc => executableName proc = proc.comm) = true := by decide
      intro proc member name other listed also
      have same : executableName proc = proc.comm :=
        of_decide_eq_true (List.all_eq_true.mp plain proc member)
      have names : ∀ named, executableName proc = named ∨ proc.comm = named → named = proc.comm :=
        fun named either => either.elim (fun first => first.symm.trans same) Eq.symm
      exact (names name listed.named).trans (names other also.named).symm
    · have lowest : (eveningTable.all fun proc => proc.ppid ≠ proc.pid || eveningTable.all fun other =>
          proc.pid ≤ other.pid) = true := by decide
      intro key _ own
      obtain ⟨own, member, fits, itself⟩ := own
      have first := List.all_eq_true.mp lowest own member
      simp only [itself, ne_eq, not_true_eq_false, decide_false, Bool.false_or, List.all_eq_true,
        decide_eq_true_eq] at first
      exact ⟨own, member, fits, itself, fun other there _ => first other there⟩
  have defined := (detection_wellDefined_iff _ _ _ intText (by decide)).mpr clear
  refine ⟨defined, ?_⟩
  obtain ⟨_, sightings, _, found, _⟩ := defined
  have shown : (detectGames eveningTable CharDatabase.ascii .forward eveningGames intText).map
      (List.map fun sighting => (sighting.game, sighting.pid, sighting.pids)) =
        .ok [(text "620", 100, [100, 101]), (text "A", 5, [5]), (text "B", 200, [200, 201])] := by
    decide +kernel
  intro order
  rw [found order _ (List.Perm.refl _), ← found .forward _ (List.Perm.refl _), shown]

def twoNamed : Process := ⟨10, 1, text "b", [text "/opt/a"]⟩

/-- A process with two listed names matches the one or the other as the set is taken. -/
theorem twoNamed_open :
    ¬ WellDefined CharDatabase.ascii [twoNamed]
      (Dict.ofEntries [(text "a", text "A"), (text "b", text "B")]) intText := by
  intro defined
  have clear := unambiguous_of_wellDefined (by decide) defined
  have apart : ¬ InSteamTree CharDatabase.ascii [twoNamed] twoNamed.pid := by
    intro inside
    obtain ⟨root, member, ⟨id, carried⟩, _⟩ := inside
    cases List.mem_singleton.mp member
    exact not_carries (by decide) id carried
  have same := clear.single twoNamed List.mem_cons_self (text "a") (text "b")
      ⟨by decide, .inl (by decide), apart⟩ ⟨by decide, .inr rfl, apart⟩
  exact absurd same (by decide)

end SysadminAssistant.Games
