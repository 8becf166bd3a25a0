import SysadminAssistant.Core.Alerts
import SysadminAssistant.Monitor.Services

namespace SysadminAssistant.Monitor

open Python SysadminAssistant.Core Library

/-! `SysAdminAgent._raise_judged`: judging a fault still true, and writing a row for
it only when none is open. -/

/-- A run's alerts table and the sets it judges against.  `openTitles` is read once, at
the top of the run. -/
structure Judging where
  table : AlertTable
  openTitles : List Text
  writtenTitles : List Text
  judgedTitles : List Text

def openAlertTitles (table : AlertTable) : List Text :=
  (activeAlerts table sysadmin).map Alert.title

def startJudging (table : AlertTable) : Judging where
  table
  openTitles := openAlertTitles table
  writtenTitles := []
  judgedTitles := []

def refreshOpen (state : Judging) (draft : Draft) : Judging :=
  match (state.table.openRow? (sysadmin, draft.title)).bind fun alert => refreshAlert alert draft with
  | none => state
  | some updated => { state with table := state.table.amend (rewriting updated) }

/-- `_raise_judged`: the number of rows written, or `none` when the index refuses one. -/
def raiseJudged (stamp : Int) (dedup : Bool) (state : Judging) (draft : Draft) :
    Judging × Option Nat :=
  let state := { state with judgedTitles := state.judgedTitles.insert draft.title }
  if dedup && (draft.title ∈ state.openTitles || draft.title ∈ state.writtenTitles) then
    (if draft.title ∈ state.openTitles then refreshOpen state draft else state, some 0)
  else
    match raiseAlert state.table sysadmin stamp draft with
    | none => (state, none)
    | some table =>
      ({ state with table, writtenTitles := state.writtenTitles.insert draft.title }, some 1)

def openUnder (state : Judging) (title : Text) : Option Nat := openId state.table sysadmin title

/-- A title has an open row just when the run found one open or wrote one. -/
def Tracks (state : Judging) : Prop :=
  ∀ title, (openUnder state title).isSome ↔ title ∈ state.openTitles ∨ title ∈ state.writtenTitles

/-- Everything the run judged has an open row. -/
def Standing (state : Judging) : Prop := ∀ title ∈ state.judgedTitles, (openUnder state title).isSome

/-- What any number of judgements do: open rows stay, and new ones are judged. -/
structure Grows (before after : Judging) : Prop where
  openTitles : after.openTitles = before.openTitles
  judged : ∀ title ∈ before.judgedTitles, title ∈ after.judgedTitles
  kept : ∀ {title id}, openUnder before title = some id → openUnder after title = some id
  opened : ∀ {title}, (openUnder after title).isSome →
    (openUnder before title).isSome ∨ title ∈ after.judgedTitles

theorem Grows.refl (state : Judging) : Grows state state where
  openTitles := rfl
  judged _ member := member
  kept found := found
  opened found := Or.inl found

theorem Grows.trans {first second third : Judging} (left : Grows first second)
    (right : Grows second third) : Grows first third where
  openTitles := right.openTitles.trans left.openTitles
  judged title member := right.judged title (left.judged title member)
  kept found := right.kept (left.kept found)
  opened := by
    intro title found
    rcases right.opened found with earlier | judged
    · rcases left.opened earlier with first | judged
      · exact Or.inl first
      · exact Or.inr (right.judged title judged)
    · exact Or.inr judged

theorem mem_openAlertTitles {table : AlertTable} {title : Text} :
    title ∈ openAlertTitles table ↔ (openId table sysadmin title).isSome := by
  rw [openId_isSome, Option.isSome_iff_exists]
  simp only [openAlertTitles, activeAlerts, List.mem_map, List.mem_filter, decide_eq_true_eq,
    Table.openRow?_eq_some]
  constructor
  · intro listed
    obtain ⟨alert, ⟨member, agent⟩, rfl⟩ := listed
    exact ⟨alert, member, by rw [← agent]; rfl⟩
  · intro found
    obtain ⟨alert, member, same⟩ := found
    obtain ⟨agent, named⟩ := Prod.mk.inj same
    exact ⟨alert, ⟨member, agent⟩, named⟩

theorem startJudging_tracks (table : AlertTable) : Tracks (startJudging table) := by
  intro title
  rw [openUnder, startJudging, ← mem_openAlertTitles]
  simp

theorem startJudging_standing (table : AlertTable) : Standing (startJudging table) := by
  intro title member
  exact absurd member List.not_mem_nil

@[simp] theorem refreshOpen_openUnder (state : Judging) (draft : Draft) (title : Text) :
    openUnder (refreshOpen state draft) title = openUnder state title := by
  unfold refreshOpen
  split
  · rfl
  · exact openId_rewriting _ _ _ _

theorem refreshOpen_sets (state : Judging) (draft : Draft) :
    (refreshOpen state draft).openTitles = state.openTitles ∧
      (refreshOpen state draft).writtenTitles = state.writtenTitles ∧
      (refreshOpen state draft).judgedTitles = state.judgedTitles := by
  unfold refreshOpen
  split <;> exact ⟨rfl, rfl, rfl⟩

theorem raiseJudged_judged (stamp : Int) (dedup : Bool) (state : Judging) (draft : Draft) :
    (raiseJudged stamp dedup state draft).1.judgedTitles =
      state.judgedTitles.insert draft.title := by
  simp only [raiseJudged]
  split
  · split
    · rw [(refreshOpen_sets _ _).2.2]
    · rfl
  · split <;> rfl

theorem raiseJudged_openTitles (stamp : Int) (dedup : Bool) (state : Judging) (draft : Draft) :
    (raiseJudged stamp dedup state draft).1.openTitles = state.openTitles := by
  simp only [raiseJudged]
  split
  · split
    · rw [(refreshOpen_sets _ _).1]
    · rfl
  · split <;> rfl

theorem raiseJudged_refused {state : Judging} (tracks : Tracks state) (stamp : Int) (dedup : Bool)
    (draft : Draft) : (raiseJudged stamp dedup state draft).2 = none ↔
      dedup = false ∧ (openUnder state draft.title).isSome := by
  have tracked := tracks draft.title
  simp only [raiseJudged]
  by_cases held : (dedup && (decide (draft.title ∈ state.openTitles) ||
      decide (draft.title ∈ state.writtenTitles))) = true
  · rw [if_pos held]
    simp only [Bool.and_eq_true] at held
    simp [held.1]
  · rw [if_neg held]
    cases vacant : openUnder state draft.title with
    | none =>
      have noRow : state.table.openRow? (sysadmin, draft.title) = none := by
        simpa [openUnder, openId] using vacant
      obtain ⟨after, raised⟩ := raiseAlert_enabled stamp noRow
      simp [raised]
    | some id =>
      have occupied : (openUnder state draft.title).isSome := by simp [vacant]
      have listed := tracked.mp occupied
      have skips : dedup = false := by
        cases dedup with
        | false => rfl
        | true => exact absurd (by simpa using listed) held
      cases raised : raiseAlert state.table sysadmin stamp draft with
      | none => simp [skips]
      | some after =>
        have noRow := raiseAlert_vacant raised
        simp [openUnder, openId, noRow] at vacant

theorem raiseJudged_openUnder {stamp : Int} {dedup : Bool} {state after : Judging} {draft : Draft}
    {written : Nat} (judged : raiseJudged stamp dedup state draft = (after, some written))
    (title : Text) :
    openUnder after title = openUnder state title ∨
      (draft.title = title ∧ openUnder state title = none ∧ (openUnder after title).isSome) := by
  simp only [raiseJudged] at judged
  split at judged
  · left
    rw [← (Prod.mk.inj judged).1]
    split
    · exact refreshOpen_openUnder _ _ _
    · rfl
  · split at judged
    · simp at judged
    · rename_i table raised
      rw [← (Prod.mk.inj judged).1]
      simp only [openUnder, openId_raiseAlert raised]
      by_cases same : draft.title = title
      · subst same
        right
        simp [openId, raiseAlert_vacant raised]
      · simp [same]

theorem raiseJudged_tracks {stamp : Int} {dedup : Bool} {state after : Judging} {draft : Draft}
    {written : Nat} (judged : raiseJudged stamp dedup state draft = (after, some written))
    (tracks : Tracks state) : Tracks after := by
  intro title
  have before := tracks title
  simp only [raiseJudged] at judged
  split at judged
  · rw [← (Prod.mk.inj judged).1]
    split
    · rw [refreshOpen_openUnder, (refreshOpen_sets _ _).1, (refreshOpen_sets _ _).2.1]
      exact before
    · exact before
  · split at judged
    · simp at judged
    · rename_i table raised
      rw [← (Prod.mk.inj judged).1]
      simp only [openUnder] at before
      simp only [openUnder, openId_raiseAlert raised, List.mem_insert_iff]
      by_cases same : draft.title = title
      · simp [same]
      · simp [same, Ne.symm same, before]

theorem raiseJudged_grows {stamp : Int} {dedup : Bool} {state after : Judging} {draft : Draft}
    {written : Nat} (judged : raiseJudged stamp dedup state draft = (after, some written)) :
    Grows state after := by
  have recorded : after.judgedTitles = state.judgedTitles.insert draft.title := by
    rw [← raiseJudged_judged stamp dedup state draft, judged]
  refine ⟨?_, ?_, ?_, ?_⟩
  · rw [← raiseJudged_openTitles stamp dedup state draft, judged]
  · intro title member
    rw [recorded]
    exact List.mem_insert_of_mem member
  · intro title id found
    rcases raiseJudged_openUnder judged title with same | ⟨_, vacant, _⟩
    · rw [same, found]
    · rw [vacant] at found
      contradiction
  · intro title found
    rcases raiseJudged_openUnder judged title with same | ⟨named, _, _⟩
    · exact Or.inl (same ▸ found)
    · exact Or.inr (by simp [recorded, named])

theorem raiseJudged_standing {stamp : Int} {dedup : Bool} {state after : Judging} {draft : Draft}
    {written : Nat} (judged : raiseJudged stamp dedup state draft = (after, some written))
    (tracks : Tracks state) (standing : Standing state) : Standing after := by
  intro title member
  have grows := raiseJudged_grows judged
  have recorded : after.judgedTitles = state.judgedTitles.insert draft.title := by
    rw [← raiseJudged_judged stamp dedup state draft, judged]
  rw [recorded, List.mem_insert_iff] at member
  rcases member with named | earlier
  · subst named
    have tracked := raiseJudged_tracks judged tracks draft.title
    rw [tracked]
    simp only [raiseJudged] at judged
    split at judged
    · rename_i held
      simp only [Bool.and_eq_true, Bool.or_eq_true, decide_eq_true_eq] at held
      rw [← (Prod.mk.inj judged).1]
      split
      · rw [(refreshOpen_sets _ _).1, (refreshOpen_sets _ _).2.1]
        exact held.2
      · exact held.2
    · split at judged
      · simp at judged
      · rw [← (Prod.mk.inj judged).1]
        simp
  · obtain ⟨id, found⟩ := Option.isSome_iff_exists.mp (standing title earlier)
    simp [grows.kept found]

/-- A savepoint that rolls back undoes what the service wrote and not what it judged. -/
def rollBack (before after : Judging) : Judging :=
  { after with table := before.table, writtenTitles := before.writtenTitles }

end SysadminAssistant.Monitor
