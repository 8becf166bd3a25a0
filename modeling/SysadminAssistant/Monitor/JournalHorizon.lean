import Mathlib.Data.List.Sort
import Mathlib.Data.Prod.Lex
import SysadminAssistant.Core.Alerts
import SysadminAssistant.Monitor.Services

namespace SysadminAssistant.Monitor

open Python SysadminAssistant.Core Library

/-! The journal's window and the core-dump loops that shorten it
(`sysadmin/monitor/journal_horizon.py`, `SysAdminAgent._check_journal_horizon`). -/

def horizonDetailKey : Text := text "journal_horizon"

def windowSubject : Text := text "window"

def coredumpDetailKey : Text := text "coredump_exe"

def windowTitle : Text := text "Short journal window"

def basename (path : Text) : Text := (path.reverse.takeWhile (· ≠ codePoint '/')).reverse

def loopTitle (exe : Text) : Text := text "Core dump loop in " ++ basename exe

/-- The row of a core-dump loop (`journal_horizon.Loop`). -/
def loopDraft (exe : Text) (count windowMinutes : Int) : Draft where
  severity := .warning
  title := loopTitle exe
  message := exe ++ text " dumped core " ++ intText count ++ text " times in the last " ++
    intText windowMinutes ++ text (" minutes. Each dump is a journal record, and a loop fills the " ++
      "journal's size cap until the vacuum cuts its window short. Stop the program or fix the crash; " ++
      "coredumpctl info ") ++ basename exe ++ text " shows the newest trace."
  details := .ofEntries [(text "coredump_exe", .str exe), (text "dumps", .int count),
    (text "window_minutes", .int windowMinutes)]

structure Loop where
  exe : Text
  count : Nat
  windowMinutes : Nat

namespace Loop

def title (loop : Loop) : Text := loopTitle loop.exe

def draft (loop : Loop) : Draft := loopDraft loop.exe loop.count loop.windowMinutes

/-- Most dumps first. -/
def order (loop : Loop) : Int ×ₗ Text := toLex (-(loop.count : Int), loop.exe)

end Loop

/-- The executables that dumped often enough. -/
def loopsFrom (exeCounts : Dict Text Nat) (loopCount windowMinutes : Nat) : List Loop :=
  ((exeCounts.entries.filter fun entry => loopCount ≤ entry.2).map fun entry =>
    (⟨entry.1, entry.2, windowMinutes⟩ : Loop)).insertionSort fun left right =>
      left.order ≤ right.order

structure JournalHorizonConfig where
  enabled : Bool
  loopCount : Nat
  loopWindowMinutes : Nat

/-- What a run reads: the window against its floor, with what a row about it says, and the dump
counts.  A read that fails is `none`. -/
structure HorizonReading where
  short : Option Bool
  windowMessage : Text
  windowDetails : List (Text × Json)
  dumps : Option (Dict Text Nat)

def HorizonReading.windowDraft (reading : HorizonReading) : Draft where
  severity := .warning
  title := windowTitle
  message := reading.windowMessage
  details := .ofEntries ((horizonDetailKey, .str windowSubject) :: reading.windowDetails)

/-- The executable that a row is about.  Only text stands under the key. -/
def coredumpExe (row : Alert) : Option Text :=
  match row.details.get? coredumpDetailKey with
  | some (.str exe) => if exe = [] then none else some exe
  | _ => none

def openWindow (rows : List Alert) : List Nat :=
  (rows.filter fun row => (row.details.get? horizonDetailKey).isSome).map Alert.id

def openLoops (rows : List Alert) : Dict Text Nat :=
  .ofEntries (rows.filterMap fun row => (coredumpExe row).map fun exe => (exe, row.id))

section Check

variable (config : JournalHorizonConfig) (reading : HorizonReading) (rows : List Alert)

def currentLoops : List Loop :=
  match reading.dumps with
  | none => []
  | some counts => loopsFrom counts config.loopCount config.loopWindowMinutes

def horizonRaises : List Draft :=
  (if reading.short = some true ∧ openWindow rows = [] then [reading.windowDraft] else []) ++
    ((currentLoops config reading).filter fun loop =>
      ((openLoops rows).get? loop.exe).isNone).map Loop.draft

def horizonResolves : List Nat :=
  (if reading.short = some false then openWindow rows else []) ++
    match reading.dumps with
    | none => []
    | some _ => ((openLoops rows).entries.filter fun entry =>
      entry.1 ∉ (currentLoops config reading).map Loop.exe).map Prod.snd

end Check

/-- `_check_journal_horizon`: the table and the number of rows raised.  `none` is an
`IntegrityError` of a raise. -/
def checkJournalHorizon (config : JournalHorizonConfig) (reading : HorizonReading) (stamp : Int)
    (table : AlertTable) : Option (AlertTable × Nat) :=
  if config.enabled = false then some (table, 0)
  else do
    let rows := activeAlerts table sysadmin
    let raises := horizonRaises config reading rows
    let raised ← raises.foldlM (fun table draft => raiseAlert table sysadmin stamp draft) table
    return (resolveAlertIds raised (horizonResolves config reading rows) stamp, raises.length)

/-! The raises of one run go through if and only if their titles are new. -/

theorem raises_isSome {agent : Text} {stamp : Int} {drafts : List Draft} {table : AlertTable} :
    (drafts.foldlM (fun table draft => raiseAlert table agent stamp draft) table).isSome ↔
      (drafts.map Draft.title).Nodup ∧ ∀ draft ∈ drafts, table.openRow?
        (agent, draft.title) = none := by
  induction drafts generalizing table with
  | nil => simp
  | cons draft rest ih =>
    rw [List.foldlM_cons, List.map_cons, List.nodup_cons, List.forall_mem_cons]
    cases vacant : table.openRow? (agent, draft.title) with
    | some standing =>
      cases raised : raiseAlert table agent stamp draft with
      | none => simp
      | some after =>
        rw [raiseAlert_vacant raised] at vacant
        cases vacant
    | none =>
      obtain ⟨after, raised⟩ := raiseAlert_enabled stamp vacant
      have others : ∀ title, after.openRow? (agent, title) = none ↔
          title ≠ draft.title ∧ table.openRow? (agent, title) = none := by
        intro title
        rw [openRow?_raiseAlert raised]
        by_cases same : draft.title = title
        · simp [same]
        · simp [same, Ne.symm same]
      simp only [raised, Option.bind_eq_bind, Option.bind_some, ih, others, true_and,
        List.mem_map, not_exists, not_and]
      constructor
      · intro all
        exact ⟨⟨fun other member => (all.2 other member).1, all.1⟩, fun other member =>
          (all.2 other member).2⟩
      · intro all
        exact ⟨all.1.2, fun other member => ⟨all.1.1 other member, all.2 other member⟩⟩

theorem loopTitle_injective_basename {left right : Text} :
    loopTitle left = loopTitle right ↔ basename left = basename right :=
  List.append_right_inj _

theorem loopTitle_ne_windowTitle (exe : Text) : loopTitle exe ≠ windowTitle := by
  intro same
  have first : some (codePoint 'C') = some (codePoint 'S') := congrArg List.head? same
  exact absurd first (by decide)

theorem mem_loopsFrom {exeCounts : Dict Text Nat} {loopCount windowMinutes : Nat} {loop : Loop} :
    loop ∈ loopsFrom exeCounts loopCount windowMinutes ↔
      exeCounts.get? loop.exe = some loop.count ∧ loopCount ≤ loop.count ∧
        loop.windowMinutes = windowMinutes := by
  simp only [loopsFrom, List.mem_insertionSort, List.mem_map, List.mem_filter, decide_eq_true_eq]
  constructor
  · intro listed
    obtain ⟨⟨exe, count⟩, ⟨inside, enough⟩, rfl⟩ := listed
    exact ⟨Dict.get?_eq_some.mpr inside, enough, rfl⟩
  · intro counted
    obtain ⟨found, enough, rfl⟩ := counted
    exact ⟨(loop.exe, loop.count), ⟨Dict.get?_eq_some.mp found, enough⟩, rfl⟩

theorem loopsFrom_exes_nodup (exeCounts : Dict Text Nat) (loopCount windowMinutes : Nat) :
    ((loopsFrom exeCounts loopCount windowMinutes).map Loop.exe).Nodup := by
  have sorted := List.perm_insertionSort (fun left right : Loop => left.order ≤ right.order)
    ((exeCounts.entries.filter fun entry => loopCount ≤ entry.2).map fun entry =>
      (⟨entry.1, entry.2, windowMinutes⟩ : Loop))
  refine ((sorted.map Loop.exe).nodup_iff).mpr ?_
  rw [List.map_map]
  exact exeCounts.nodup.sublist (List.Sublist.map _ List.filter_sublist)

theorem openLoops_get?_isNone {rows : List Alert} {exe : Text} :
    ((openLoops rows).get? exe).isNone ↔ ∀ row ∈ rows, coredumpExe row ≠ some exe := by
  rw [Option.isNone_iff_eq_none]
  constructor
  · intro absent row member named
    have listed : (exe, row.id) ∈ rows.filterMap fun row => (coredumpExe row).map fun exe =>
        (exe, row.id) :=
      List.mem_filterMap.mpr ⟨row, member, by rw [named]; rfl⟩
    obtain ⟨other, found⟩ := Dict.exists_get?_ofEntries listed
    rw [openLoops, found] at absent
    cases absent
  · intro unnamed
    cases found : (openLoops rows).get? exe with
    | none => rfl
    | some id =>
      obtain ⟨row, member, shape⟩ := List.mem_filterMap.mp (Dict.get?_ofEntries_mem found)
      obtain ⟨other, named, same⟩ := Option.map_eq_some_iff.mp shape
      cases same
      exact absurd named (unnamed row member)

theorem openWindow_eq_nil {rows : List Alert} :
    openWindow rows = [] ↔ ∀ row ∈ rows, row.details.get? horizonDetailKey = none := by
  simp [openWindow, List.filter_eq_nil_iff]

theorem openRow?_active {table : AlertTable} {agent title : Text} :
    table.openRow? (agent, title) = none ↔ ∀ row ∈ activeAlerts table agent, row.title ≠ title := by
  rw [Table.openRow?_eq_none]
  constructor
  · intro apart row member same
    obtain ⟨inside, ours⟩ := List.mem_filter.mp member
    have named : row.agent = agent := by simpa using ours
    exact apart row inside (Prod.ext named same)
  · intro apart row member same
    obtain ⟨ours, titled⟩ := Prod.mk.inj same
    exact apart row (List.mem_filter.mpr ⟨member, by simpa using ours⟩) titled

/-- The rows that a run sets out to insert. -/
def attempted (config : JournalHorizonConfig) (reading : HorizonReading) (table : AlertTable) :
    List Draft :=
  if config.enabled then horizonRaises config reading (activeAlerts table sysadmin) else []

/-- No second open row is attempted, so that the index does not fail the run, which then succeeds
where the titles fit their column. -/
structure InsertsOnce (config : JournalHorizonConfig) (reading : HorizonReading) (stamp : Int)
    (table : AlertTable) : Prop where
  distinct : ((attempted config reading table).map Draft.title).Nodup
  vacant : ∀ draft ∈ attempted config reading table, ∀ row ∈ activeAlerts table sysadmin,
    row.title ≠ draft.title
  succeeds : (checkJournalHorizon config reading stamp table).isSome

theorem insertsOnce_iff_titles {config : JournalHorizonConfig} {reading : HorizonReading}
    {stamp : Int} {table : AlertTable} : InsertsOnce config reading stamp table ↔
      ((attempted config reading table).map Draft.title).Nodup ∧
        ∀ draft ∈ attempted config reading table,
        ∀ row ∈ activeAlerts table sysadmin, row.title ≠ draft.title := by
  constructor
  · intro once
    exact ⟨once.distinct, once.vacant⟩
  · intro titles
    refine ⟨titles.1, titles.2, ?_⟩
    cases enabled : config.enabled with
    | false => simp [checkJournalHorizon, enabled]
    | true =>
      have raised := (@raises_isSome sysadmin stamp (attempted config reading table) table).mpr
        ⟨titles.1, fun draft member => openRow?_active.mpr (titles.2 draft member)⟩
      obtain ⟨after, made⟩ := Option.isSome_iff_exists.mp raised
      rw [attempted, if_pos enabled] at made
      simp [checkJournalHorizon, enabled, made]

/-- An executable that dumps often enough, and that no open row is about. -/
def NewLoop (config : JournalHorizonConfig) (reading : HorizonReading) (rows : List Alert)
    (exe : Text) : Prop :=
  (∃ counts count, reading.dumps = some counts ∧ counts.get? exe = some count ∧
    config.loopCount ≤ count) ∧ ∀ row ∈ rows, coredumpExe row ≠ some exe

/-- New loops differ in their basenames, and no open row has the title of one, or of a new row
about the window. -/
structure TitlesFree (config : JournalHorizonConfig) (reading : HorizonReading)
    (rows : List Alert) : Prop where
  basenames : ∀ {left right}, NewLoop config reading rows left → NewLoop config reading rows right →
    basename left = basename right → left = right
  loops : ∀ {exe row}, NewLoop config reading rows exe → row ∈ rows → row.title ≠ loopTitle exe
  window : reading.short = some true → (∀ row ∈ rows, row.details.get? horizonDetailKey = none) →
    ∀ row ∈ rows, row.title ≠ windowTitle

section Titles

variable {config : JournalHorizonConfig} {reading : HorizonReading} {rows : List Alert}

/-- The loops that are raised. -/
def newLoops (config : JournalHorizonConfig) (reading : HorizonReading) (rows : List Alert) :
    List Loop :=
  (currentLoops config reading).filter fun loop => ((openLoops rows).get? loop.exe).isNone

theorem newLoop_iff {exe : Text} :
    NewLoop config reading rows exe ↔ ∃ loop ∈ newLoops config reading rows, loop.exe = exe := by
  simp only [NewLoop, newLoops, currentLoops, List.mem_filter, openLoops_get?_isNone]
  cases read : reading.dumps with
  | none => simp
  | some counts =>
    simp only [Option.some.injEq, mem_loopsFrom]
    constructor
    · intro looping
      obtain ⟨⟨_, count, rfl, found, enough⟩, unnamed⟩ := looping
      exact ⟨⟨exe, count, config.loopWindowMinutes⟩, ⟨⟨found, enough, rfl⟩, unnamed⟩, rfl⟩
    · intro listed
      obtain ⟨loop, ⟨⟨found, enough, _⟩, unnamed⟩, rfl⟩ := listed
      exact ⟨⟨counts, loop.count, rfl, found, enough⟩, unnamed⟩

theorem newLoops_exes_nodup : ((newLoops config reading rows).map Loop.exe).Nodup := by
  have all : ((currentLoops config reading).map Loop.exe).Nodup := by
    cases read : reading.dumps with
    | none => simp [currentLoops, read]
    | some counts => simpa [currentLoops, read] using loopsFrom_exes_nodup counts _ _
  exact all.sublist (List.Sublist.map _ List.filter_sublist)

theorem newLoops_titles_nodup : ((newLoops config reading rows).map Loop.title).Nodup ↔
    ∀ {left right}, NewLoop config reading rows left → NewLoop config reading rows right →
      basename left = basename right → left = right := by
  have loops := (List.Nodup.of_map _ (@newLoops_exes_nodup config reading rows))
  constructor
  · intro distinct left right leftNew rightNew same
    obtain ⟨first, firstListed, rfl⟩ := newLoop_iff.mp leftNew
    obtain ⟨second, secondListed, rfl⟩ := newLoop_iff.mp rightNew
    have titled : first.title = second.title := loopTitle_injective_basename.mpr same
    rw [List.inj_on_of_nodup_map distinct firstListed secondListed titled]
  · intro apart
    refine (List.nodup_map_iff_inj_on loops).mpr ?_
    intro first firstListed second secondListed titled
    have same :=
      apart (newLoop_iff.mpr ⟨first, firstListed, rfl⟩)
        (newLoop_iff.mpr ⟨second, secondListed, rfl⟩) (loopTitle_injective_basename.mp titled)
    exact List.inj_on_of_nodup_map newLoops_exes_nodup firstListed secondListed same

theorem raises_titles : (horizonRaises config reading rows).map Draft.title =
    (if reading.short = some true ∧ openWindow rows = [] then [windowTitle] else []) ++
      (newLoops config reading rows).map Loop.title := by
  rw [horizonRaises, List.map_append, List.map_map]
  congr 1
  split <;> rfl

theorem raises_titles_nodup : ((horizonRaises config reading rows).map Draft.title).Nodup ↔
    ((newLoops config reading rows).map Loop.title).Nodup := by
  rw [raises_titles]
  split
  · rw [List.singleton_append, List.nodup_cons]
    refine and_iff_right ?_
    intro listed
    obtain ⟨loop, _, same⟩ := List.mem_map.mp listed
    exact loopTitle_ne_windowTitle loop.exe same
  · rfl

theorem raises_vacant :
    (∀ draft ∈ horizonRaises config reading rows, ∀ row ∈ rows, row.title ≠ draft.title) ↔
    (∀ {exe row}, NewLoop config reading rows exe → row ∈ rows → row.title ≠ loopTitle exe) ∧
      (reading.short = some true → (∀ row ∈ rows, row.details.get? horizonDetailKey = none) →
        ∀ row ∈ rows, row.title ≠ windowTitle) := by
  have byTitle : (∀ draft ∈ horizonRaises config reading rows, ∀ row ∈ rows, row.title ≠ draft.title) ↔
      ∀ title ∈ (horizonRaises config reading rows).map Draft.title, ∀ row ∈ rows,
        row.title ≠ title := by
    simp only [List.forall_mem_map]
  rw [byTitle, raises_titles, List.forall_mem_append, List.forall_mem_map, and_comm,
    ← openWindow_eq_nil]
  refine and_congr ?_ ?_
  · constructor
    · intro apart exe row looping member
      obtain ⟨loop, listed, rfl⟩ := newLoop_iff.mp looping
      exact apart loop listed row member
    · intro apart loop listed row member
      exact apart (newLoop_iff.mpr ⟨loop, listed, rfl⟩) member
  · split
    · rename_i raised
      simp [raised]
    · rename_i unraised
      simp only [List.not_mem_nil, false_implies, implies_true, true_iff]
      exact fun short unowned => absurd ⟨short, unowned⟩ unraised

end Titles

theorem insertsOnce_iff (config : JournalHorizonConfig) (reading : HorizonReading) (stamp : Int)
    (table : AlertTable) : InsertsOnce config reading stamp table ↔
      (config.enabled = true → TitlesFree config reading (activeAlerts table sysadmin)) := by
  rw [insertsOnce_iff_titles, attempted]
  cases config.enabled with
  | false => simp
  | true =>
    rw [if_pos rfl, raises_titles_nodup, newLoops_titles_nodup, raises_vacant]
    constructor
    · intro free _
      exact ⟨free.1, free.2.1, free.2.2⟩
    · intro free
      exact ⟨(free rfl).basenames, (free rfl).loops, (free rfl).window⟩

/-- Two programs of one name that both dump core have one title. -/
theorem basename_shared_by_two_loops :
    ¬ ∀ config reading stamp table, InsertsOnce config reading stamp table := by
  intro claim
  have once := claim ⟨true, 10, 60⟩
    ⟨none, [], [],
      some (.ofEntries [(text "/usr/bin/node", 12), (text "/opt/node/node", 15)])⟩ 0 .empty
  exact absurd once.distinct (by decide)

end SysadminAssistant.Monitor
