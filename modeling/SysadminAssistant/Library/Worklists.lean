import Mathlib.Data.List.Basic
import Mathlib.Data.List.Count
import Mathlib.Logic.Relation

namespace SysadminAssistant.Library

/-! What a loop over a stack of things to visit has seen when the stack is empty. -/

variable {α : Type*} [DecidableEq α]

/-- Visit the top of the stack, unless it was seen, and put what comes next to it on top. -/
def worklist (next : α → List α) : Nat → List α → List α → Option (List α)
  | _, seen, [] => some seen
  | 0, _, _ :: _ => none
  | turns + 1, seen, item :: stack =>
    if item ∈ seen then worklist next turns seen stack
    else worklist next turns (item :: seen) ((next item).reverse ++ stack)

/-- One is reached from the other. -/
def Reaches (next : α → List α) : α → α → Prop :=
  Relation.ReflTransGen fun item other => other ∈ next item

variable {next : α → List α} {turns : Nat} {seen stack result : List α}

theorem worklist_sound {roots : List α} (distinct : seen.Nodup)
    (reached : ∀ item ∈ seen ++ stack, ∃ root ∈ roots, Reaches next root item)
    (ran : worklist next turns seen stack = some result) :
    result.Nodup ∧ ∀ item ∈ result, ∃ root ∈ roots, Reaches next root item := by
  induction turns generalizing seen stack with
  | zero =>
    cases stack with
    | nil =>
      cases ran
      exact ⟨distinct, fun item member => reached item (List.mem_append_left _ member)⟩
    | cons item stack => cases ran
  | succ turns ih =>
    cases stack with
    | nil =>
      cases ran
      exact ⟨distinct, fun item member => reached item (List.mem_append_left _ member)⟩
    | cons item stack =>
      rw [worklist] at ran
      by_cases known : item ∈ seen
      · rw [if_pos known] at ran
        refine ih distinct (fun other member => reached other ?_) ran
        rcases List.mem_append.mp member with before | pending
        · exact List.mem_append_left _ before
        · exact List.mem_append_right _ (List.mem_cons_of_mem _ pending)
      · rw [if_neg known] at ran
        have here := reached item (List.mem_append_right _ List.mem_cons_self)
        refine ih (List.nodup_cons.mpr ⟨known, distinct⟩) (fun other member => ?_) ran
        rcases List.mem_append.mp member with before | pending
        · rcases List.mem_cons.mp before with rfl | earlier
          · exact here
          · exact reached other (List.mem_append_left _ earlier)
        · rcases List.mem_append.mp pending with child | later
          · obtain ⟨root, member, path⟩ := here
            exact ⟨root, member, path.tail (List.mem_reverse.mp child)⟩
          · exact reached other (List.mem_append_right _ (List.mem_cons_of_mem _ later))

theorem worklist_closed (closed : ∀ item ∈ seen, ∀ other ∈ next item, other ∈ seen ∨ other ∈ stack)
    (ran : worklist next turns seen stack = some result) :
    (∀ item, item ∈ seen ∨ item ∈ stack → item ∈ result) ∧ ∀ item ∈ result, ∀ other ∈ next item,
      other ∈ result := by
  induction turns generalizing seen stack with
  | zero =>
    cases stack with
    | nil =>
      cases ran
      exact ⟨by simp, fun item member other child => by simpa using closed item member other child⟩
    | cons item stack => cases ran
  | succ turns ih =>
    cases stack with
    | nil =>
      cases ran
      exact ⟨by simp, fun item member other child => by simpa using closed item member other child⟩
    | cons item stack =>
      rw [worklist] at ran
      by_cases known : item ∈ seen
      · rw [if_pos known] at ran
        have kept : ∀ first ∈ seen, ∀ other ∈ next first, other ∈ seen ∨ other ∈ stack := by
          intro first member other child
          rcases closed first member other child with before | pending
          · exact Or.inl before
          · rcases List.mem_cons.mp pending with rfl | later
            · exact Or.inl known
            · exact Or.inr later
        obtain ⟨all, onward⟩ := ih kept ran
        refine ⟨fun other listed => all other ?_, onward⟩
        rcases listed with before | pending
        · exact Or.inl before
        · rcases List.mem_cons.mp pending with rfl | later
          · exact Or.inl known
          · exact Or.inr later
      · rw [if_neg known] at ran
        have kept : ∀ first ∈ item :: seen, ∀ other ∈ next first,
            other ∈ item :: seen ∨ other ∈ (next item).reverse ++ stack := by
          intro first member other child
          rcases List.mem_cons.mp member with rfl | earlier
          · exact Or.inr (List.mem_append_left _ (List.mem_reverse.mpr child))
          · simp only [List.mem_cons, List.mem_append]
            rcases closed first earlier other child with before | pending
            · exact Or.inl (Or.inr before)
            · rcases List.mem_cons.mp pending with rfl | later
              · exact Or.inl (Or.inl rfl)
              · exact Or.inr (Or.inr later)
        obtain ⟨all, onward⟩ := ih kept ran
        refine ⟨fun other listed => all other ?_, onward⟩
        simp only [List.mem_cons, List.mem_append] at listed ⊢
        tauto

theorem mem_worklist {roots : List α} (ran : worklist next turns [] roots = some result)
    (item : α) : item ∈ result ↔ ∃ root ∈ roots, Reaches next root item := by
  obtain ⟨all, onward⟩ := worklist_closed (by simp) ran
  constructor
  · exact (worklist_sound List.nodup_nil (fun other member =>
      ⟨other, by simpa using member, Relation.ReflTransGen.refl⟩) ran).2 item
  · intro reached
    obtain ⟨root, member, path⟩ := reached
    induction path with
    | refl => exact all root (Or.inr member)
    | tail _ child ih => exact onward _ ih _ child

theorem worklist_nodup {roots : List α} (ran : worklist next turns [] roots = some result) :
    result.Nodup :=
  (worklist_sound List.nodup_nil (fun other member =>
    ⟨other, by simpa using member, Relation.ReflTransGen.refl⟩) ran).1

theorem worklist_ends {edges : List (α × α)}
    (finite : ∀ item, (next item).length ≤ edges.countP fun edge => edge.1 = item)
    (enough : stack.length + edges.countP (fun edge => edge.1 ∉ seen) ≤ turns) :
    ∃ result, worklist next turns seen stack = some result := by
  induction turns generalizing seen stack with
  | zero =>
    have none :=
      List.eq_nil_of_length_eq_zero (Nat.eq_zero_of_add_eq_zero_right
        (Nat.eq_zero_of_le_zero enough))
    rw [none]
    exact ⟨seen, by rw [worklist]⟩
  | succ turns ih =>
    cases stack with
    | nil => exact ⟨seen, by rw [worklist]⟩
    | cons item stack =>
      rw [List.length_cons] at enough
      rw [worklist]
      by_cases known : item ∈ seen
      · rw [if_pos known]
        exact ih (by omega)
      · rw [if_neg known]
        refine ih ?_
        have split : edges.countP (fun edge => edge.1 ∉ seen) =
            edges.countP (fun edge => edge.1 = item) + edges.countP fun edge =>
              edge.1 ∉ item :: seen := by
          clear ih enough finite
          induction edges with
          | nil => rfl
          | cons edge edges ih =>
            simp only [List.countP_cons, List.mem_cons, ih]
            by_cases here : edge.1 = item
            · simp [here, known]
              omega
            · by_cases before : edge.1 ∈ seen
              · simp [here, before]
              · simp [here, before]
                omega
        have few := finite item
        rw [List.length_append, List.length_reverse]
        omega

end SysadminAssistant.Library
