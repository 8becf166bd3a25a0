import Mathlib.Data.List.Infix

namespace SysadminAssistant.Library

/-! Places taken one after another, each with everything inside it.  A place is its names, innermost
first, so that what is inside it has it for a suffix. -/

variable {α : Type} [DecidableEq α]

/-- The places that are still there when their turn comes; those of `gone` were taken before. -/
def outermost (gone : List (List α)) : List (List α) → List (List α)
  | [] => []
  | place :: rest =>
    if ∃ outer ∈ gone, outer <:+ place then outermost gone rest
    else place :: outermost (place :: gone) rest

theorem length_outermost_le (gone places : List (List α)) :
    (outermost gone places).length ≤ places.length := by
  induction places generalizing gone with
  | nil => exact le_refl _
  | cons place rest ih =>
    simp only [outermost]
    split
    · have shorter := ih gone
      rw [List.length_cons]
      omega
    · have shorter := ih (place :: gone)
      rw [List.length_cons, List.length_cons]
      omega

theorem outermost_eq_self (gone places : List (List α)) :
    outermost gone places = places ↔
      (∀ place ∈ places, ∀ outer ∈ gone, ¬ outer <:+ place) ∧ places.Pairwise fun earlier later =>
        ¬ earlier <:+ later := by
  induction places generalizing gone with
  | nil => simp [outermost]
  | cons place rest ih =>
    simp only [outermost]
    split
    · rename_i inside
      obtain ⟨outer, before, suffix⟩ := inside
      constructor
      · intro same
        have shorter := length_outermost_le gone rest
        rw [same, List.length_cons] at shorter
        omega
      · intro apart
        exact absurd suffix (apart.1 place List.mem_cons_self outer before)
    · rename_i outside
      rw [List.cons_inj_right, ih, List.pairwise_cons]
      constructor
      · intro apart
        refine ⟨fun other member outer before suffix => ?_,
          fun other member => apart.1 other member place List.mem_cons_self, apart.2⟩
        rcases List.mem_cons.mp member with rfl | later
        · exact outside ⟨outer, before, suffix⟩
        · exact apart.1 other later outer (List.mem_cons_of_mem place before) suffix
      · intro apart
        refine ⟨fun other member outer before => ?_, apart.2.2⟩
        rcases List.mem_cons.mp before with rfl | earlier
        · exact apart.2.1 other member
        · exact apart.1 other (List.mem_cons_of_mem place member) outer earlier

theorem outermost_nil_eq_self (places : List (List α)) :
    outermost [] places = places ↔ places.Pairwise fun earlier later => ¬ earlier <:+ later := by
  rw [outermost_eq_self]
  exact ⟨fun apart => apart.2, fun apart =>
    ⟨fun _ _ outer before => absurd before List.not_mem_nil, apart⟩⟩

end SysadminAssistant.Library
