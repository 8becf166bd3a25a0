import Mathlib.Data.List.Sort
import Mathlib.Data.Prod.Lex
import SysadminAssistant.Library.AnchorGroups
import SysadminAssistant.Python.Dict
import SysadminAssistant.Python.Float
import SysadminAssistant.Python.Rounding
import SysadminAssistant.Python.Text

namespace SysadminAssistant.Monitor

open Python Library

/-! Grouping faults that are one incident (`sysadmin/monitor/log_actions.py`). -/

/-- The three facts `correlate` reads about a fault. -/
class Correlatable (α : Type*) where
  source : α → Text
  signature : α → Text
  firstSeen : α → Int

abbrev Relations := Dict Text (List Text)

def neighbours (related : Option Relations) (source : Text) : List Text :=
  ((related.getD Dict.empty).get? source).getD []

section Correlate

variable {α : Type*} [Correlatable α]

open Correlatable

def correlationKey (item : α) : Int ×ₗ Text ×ₗ Text :=
  toLex (firstSeen item, toLex (source item, signature item))

def beyondWindow (window : PyFloat) (anchor other : α) : Bool :=
  exceeds (totalSeconds (firstSeen other - firstSeen anchor)) window

def sharesSource (related : Option Relations) (anchor other : α) : Bool :=
  source other = source anchor || decide (source other ∈ neighbours related (source anchor))

def correlate (related : Option Relations) (window : PyFloat) (items : List α) : List (List α) :=
  AnchorGroups.groups (beyondWindow window) (sharesSource related)
    (items.insertionSort fun left right => correlationKey left ≤ correlationKey right)

theorem correlate_perm (related : Option Relations) (window : PyFloat) (items : List α) :
    (correlate related window items).flatten.Perm items :=
  (AnchorGroups.groups_perm _).trans (List.perm_insertionSort _ items)

theorem firstSeen_le_of_key {left right : α} (order : correlationKey left ≤ correlationKey right) :
    firstSeen left ≤ firstSeen right := by
  rcases Prod.Lex.toLex_le_toLex.mp order with less | ⟨same, _⟩
  · exact less.le
  · exact same.le

/-- Two items of one group: both near the group's earliest item and both from its
source or from a source related to it. -/
structure Together (related : Option Relations) (window : PyFloat) (group : List α)
    (first item : α) : Prop where
  firstMember : first ∈ group
  earliest : ∀ other ∈ group, firstSeen first ≤ firstSeen other
  within : beyondWindow window first item = false
  shares : sharesSource related first item = true

private theorem near_itself {window : PyFloat} {first other : α}
    (order : firstSeen first ≤ firstSeen other)
    (near : beyondWindow window first other = false) : beyondWindow window first first = false := by
  have later : 0 ≤ totalSeconds (firstSeen other - firstSeen first) :=
    totalSeconds_nonneg (by omega)
  by_contra far
  rw [Bool.not_eq_false] at far
  simp only [beyondWindow, sub_self, totalSeconds_zero] at far
  have contradiction := exceeds_mono later far
  simp [beyondWindow, contradiction] at near

/-- In a group of two or more, every item is near the first one; a lone item is a
group under any window, a negative one included. -/
theorem correlate_together {related : Option Relations} {window : PyFloat} {items group : List α}
    (member : group ∈ correlate related window items) (several : 2 ≤ group.length) :
    ∃ first, ∀ item ∈ group, Together related window group first item := by
  have sorted := List.pairwise_insertionSort
    (fun left right : α => correlationKey left ≤ correlationKey right) items
  obtain ⟨first, claimed, anchored⟩ := AnchorGroups.groups_anchored sorted member
  have shape := anchored.shape
  have earliest : ∀ other ∈ group, firstSeen first ≤ firstSeen other := by
    intro other inside
    rw [shape] at inside
    rcases List.mem_cons.mp inside with rfl | later
    · exact le_rfl
    · exact firstSeen_le_of_key (anchored.first other later)
  have firstMember : first ∈ group := by simp [shape]
  refine ⟨first, ?_⟩
  intro item inside
  rw [shape] at inside
  rcases List.mem_cons.mp inside with rfl | later
  · cases claimed with
    | nil => simp [shape] at several
    | cons other rest =>
      have near := anchored.within other (by simp)
      have order := earliest other (by simp [shape])
      exact ⟨firstMember, earliest, near_itself order near, by simp [sharesSource]⟩
  · exact ⟨firstMember, earliest, anchored.within item later, anchored.joined item later⟩

end Correlate

/-! `correlate` is a partition in which every item is in the first group that would have it. -/

section

open Correlatable

variable {α : Type*} [Correlatable α] {related : Option Relations} {window : PyFloat} {items : List α}

/-- `correlate` as it is written, with the numbers it has claimed. -/
def correlateLoops (related : Option Relations) (window : PyFloat) (items : List α) : List (List α) :=
  AnchorGroups.sweep (beyondWindow window) (sharesSource related) []
    (items.insertionSort fun left right => correlationKey left ≤ correlationKey right).zipIdx

theorem correlateLoops_eq (related : Option Relations) (window : PyFloat) (items : List α) :
    correlateLoops related window items = correlate related window items :=
  AnchorGroups.sweep_eq_groups _

/-- An item is at most the window later than the anchor, and from its source or one related to it. -/
structure Joins (related : Option Relations) (window : PyFloat) (anchor item : α) : Prop where
  near : beyondWindow window anchor item = false
  shares : source item = source anchor ∨ source item ∈ neighbours related (source anchor)

theorem joins_iff {anchor item : α} : Joins related window anchor item ↔
    beyondWindow window anchor item = false ∧ sharesSource related anchor item = true := by
  simp only [sharesSource, Bool.or_eq_true, decide_eq_true_eq]
  constructor
  · intro joins
    exact ⟨joins.near, joins.shares⟩
  · intro joins
    exact ⟨joins.1, joins.2⟩

structure IncidentPartition (related : Option Relations) (window : PyFloat) (items : List α)
    (groups : List (List α)) : Prop where
  lossFree : groups.flatten.Perm items
  anchored : ∀ group ∈ groups, ∃ anchor others, group = anchor :: others ∧
    ∀ other ∈ others, correlationKey anchor ≤ correlationKey other ∧ Joins related window anchor other
  /-- Anchors come in order, and an item is in the first group whose anchor it joins. -/
  first : groups.Pairwise fun earlier later => ∀ anchor, earlier.head? = some anchor →
    ∀ item ∈ later, correlationKey anchor ≤ correlationKey item ∧ ¬ Joins related window anchor item

theorem firstSeen_sub_le {anchor near far : α} (order : correlationKey near ≤ correlationKey far) :
    firstSeen near - firstSeen anchor ≤ firstSeen far - firstSeen anchor := by
  have later := firstSeen_le_of_key order
  omega

theorem beyondWindow_further {anchor near far : α}
    (forward : correlationKey anchor ≤ correlationKey near)
    (order : correlationKey near ≤ correlationKey far)
    (beyond : beyondWindow window anchor near = true) :
    beyondWindow window anchor far = true := by
  have after := firstSeen_le_of_key forward
  exact exceeds_mono (totalSeconds_mono (by omega) (firstSeen_sub_le order)) beyond

theorem correlate_partition (related : Option Relations) (window : PyFloat) (items : List α) :
    IncidentPartition related window items (correlate related window items) := by
  have sorted := List.pairwise_insertionSort
    (fun left right : α => correlationKey left ≤ correlationKey right) items
  refine ⟨correlate_perm related window items, ?_, ?_⟩
  · intro group member
    obtain ⟨anchor, others, anchored⟩ := AnchorGroups.groups_anchored sorted member
    refine ⟨anchor, others, anchored.shape, fun other inside => ⟨anchored.first other inside, ?_⟩⟩
    exact joins_iff.mpr ⟨anchored.within other inside, anchored.joined other inside⟩
  · refine (AnchorGroups.groups_apart sorted beyondWindow_further).imp ?_
    intro earlier later apart anchor same item inside
    obtain ⟨order, far | stranger⟩ := apart anchor same item inside
    · refine ⟨order, fun joins => ?_⟩
      rw [joins.near] at far
      cases far
    · refine ⟨order, fun joins => ?_⟩
      rw [(joins_iff.mp joins).2] at stranger
      cases stranger

end

end SysadminAssistant.Monitor
