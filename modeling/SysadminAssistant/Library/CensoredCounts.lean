import Mathlib.Tactic.Common

namespace SysadminAssistant.Library

/-! Counts of which a part may have gone unseen, and what two of them show of the true ones. -/

structure CensoredCount where
  recorded : Nat
  complete : Prop

namespace CensoredCount

variable {current previous : CensoredCount}

/-- The true count is at least the recorded one, and equal to it where nothing went unseen. -/
def Possible (count : CensoredCount) (actual : Nat) : Prop :=
  count.recorded ≤ actual ∧ (count.complete → actual = count.recorded)

theorem possible_recorded (count : CensoredCount) : count.Possible count.recorded :=
  ⟨Nat.le_refl _, fun _ => rfl⟩

theorem possible_more {count : CensoredCount} (censored : ¬ count.complete) {actual : Nat}
    (more : count.recorded ≤ actual) : count.Possible actual :=
  ⟨more, fun complete => absurd complete censored⟩

def More (current previous : CensoredCount) : Prop :=
  ∀ now before, current.Possible now → previous.Possible before → before < now

def Fewer (current previous : CensoredCount) : Prop :=
  ∀ now before, current.Possible now → previous.Possible before → now < before

def Same (current previous : CensoredCount) : Prop :=
  ∀ now before, current.Possible now → previous.Possible before → now = before

theorem fewer_iff_more : Fewer current previous ↔ More previous current :=
  ⟨fun fewer now before later earlier => fewer before now earlier later,
    fun more now before later earlier => more before now earlier later⟩

theorem more_iff :
    More current previous ↔ previous.recorded < current.recorded ∧ previous.complete := by
  constructor
  · intro more
    refine ⟨more _ _ (possible_recorded _) (possible_recorded _), ?_⟩
    by_contra censored
    have most := possible_more censored (Nat.le_max_left previous.recorded current.recorded)
    exact absurd (more _ _ (possible_recorded _) most) (Nat.not_lt.mpr (Nat.le_max_right _ _))
  · intro certain now before later earlier
    have exactly := earlier.2 certain.2
    have least := later.1
    omega

theorem fewer_iff : Fewer current previous ↔ current.recorded < previous.recorded ∧ current.complete :=
  fewer_iff_more.trans more_iff

theorem complete_of_same (same : Same current previous) : current.complete ∧ previous.complete := by
  constructor
  · by_contra censored
    have more :=
      same (current.recorded + 1) _ (possible_more censored (Nat.le_succ _)) (possible_recorded _)
    have equal := same _ _ (possible_recorded _) (possible_recorded _)
    omega
  · by_contra censored
    have more :=
      same _ (previous.recorded + 1) (possible_recorded _) (possible_more censored (Nat.le_succ _))
    have equal := same _ _ (possible_recorded _) (possible_recorded _)
    omega

theorem same_iff : Same current previous ↔
    current.recorded = previous.recorded ∧ current.complete ∧ previous.complete := by
  constructor
  · intro same
    exact ⟨same _ _ (possible_recorded _) (possible_recorded _), complete_of_same same⟩
  · intro certain now before later earlier
    rw [later.2 certain.2.1, earlier.2 certain.2.2, certain.1]

end CensoredCount

/-- A direction is stated only where every pair of true counts has it. -/
structure DirectionCertain (current previous : CensoredCount) (more fewer same : Prop) : Prop where
  more : more → current.More previous
  fewer : fewer → current.Fewer previous
  same : same → current.Same previous

end SysadminAssistant.Library
