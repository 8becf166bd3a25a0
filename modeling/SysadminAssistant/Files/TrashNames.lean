import Mathlib.Data.Finset.Card
import Mathlib.Data.Finset.Range
import Mathlib.Data.List.TakeDrop
import SysadminAssistant.Python.DecimalText
import SysadminAssistant.Files.Actions

namespace SysadminAssistant.Files

open Python

/-! The names that are tried in the trash. -/

theorem stem_append_suffix (name : Text) :
    (stemAndSuffix name).1 ++ (stemAndSuffix name).2 = name := by
  simp only [stemAndSuffix, List.span_eq_takeWhile_dropWhile]
  have whole := @List.takeWhile_append_dropWhile _ (fun c => decide (c ≠ codePoint '.')) name.reverse
  cases last : name.reverse.takeWhile fun c => decide (c ≠ codePoint '.') with
  | nil => simp
  | cons c ending =>
    cases first : name.reverse.dropWhile fun c => decide (c ≠ codePoint '.') with
    | nil => simp
    | cons dot before =>
      cases before with
      | nil => simp
      | cons d beginning =>
        have stopped : dot = codePoint '.' := by
          have head := List.head?_dropWhile_not (fun c => decide (c ≠ codePoint '.')) name.reverse
          rw [first] at head
          simpa using head
        rw [last, first, stopped] at whole
        have back := congrArg List.reverse whole
        simpa using back

theorem candidateName_length (name : Text) (counter : Nat) :
    name.length < (candidateName name (counter + 1)).length := by
  have whole := congrArg List.length (stem_append_suffix name)
  have dot : (text ".").length = 1 := rfl
  simp only [candidateName, List.length_append, dot] at whole ⊢
  omega

theorem candidateName_injective (name : Text) : Function.Injective (candidateName name) := by
  intro left right same
  cases left with
  | zero =>
    cases right with
    | zero => rfl
    | succ right =>
      have longer := candidateName_length name right
      rw [← same] at longer
      exact absurd longer (Nat.lt_irrefl _)
  | succ left =>
    cases right with
    | zero =>
      have longer := candidateName_length name left
      rw [same] at longer
      exact absurd longer (Nat.lt_irrefl _)
    | succ right =>
      have digits := intText_injective (List.append_cancel_left (List.append_cancel_right same))
      omega

theorem candidateName_ne_parent {name : Text} (down : name ≠ parent) (counter : Nat) :
    candidateName name counter ≠ parent := by
  cases counter with
  | zero => exact down
  | succ counter =>
    intro same
    have nonempty : intText (counter + 1 : Nat) ≠ [] := by
      intro empty
      have shown : toString ((counter + 1 : Nat) : Int) = "" := by
        apply String.toList_inj.mp
        simpa [intText, text] using empty
      rw [Int.toString_eq_repr, Int.repr_eq_if, if_pos (by omega)] at shown
      exact Nat.repr_ne_empty shown
    obtain ⟨digit, rest, shape⟩ := List.exists_cons_of_ne_nil nonempty
    have member : digit ∈ parent := by
      rw [← same, candidateName, shape]
      simp
    have isDot : digit = codePoint '.' := by simpa [parent, text] using member
    rcases mem_intText (shape ▸ List.mem_cons_self : digit ∈ intText (counter + 1 : Nat))
      with minus | bounds
    · rw [isDot] at minus
      exact absurd minus (by decide)
    · rw [isDot] at bounds
      exact absurd bounds (by decide)

theorem existsAt_entry {steps : Nat} {tree : Tree} {place : Path}
    (present : existsAt steps tree place = true) : place ∈ tree.keys := by
  rw [Dict.mem_keys]
  cases found : tree.get? place with
  | some node => exact ⟨node, rfl⟩
  | none => cases place <;> simp [existsAt, statAt, found] at present

section Search

variable {machine : Machine} {tree : Tree} {files info : Path} {base name : Text}

theorem freeName_some {turns counter : Nat}
    (found : freeName machine tree files info base turns counter = some name) :
    (∃ count, name = candidateName base count) ∧ nameTaken machine tree files info name = false := by
  induction turns generalizing counter with
  | zero => simp [freeName] at found
  | succ turns ih =>
    simp only [freeName] at found
    split at found
    · exact ih found
    · rename_i free
      cases found
      exact ⟨⟨counter, rfl⟩, by simpa using free⟩

theorem freeName_none {turns counter : Nat}
    (missed : freeName machine tree files info base turns counter = none) :
    ∀ count < turns, nameTaken machine tree files info
      (candidateName base (counter + count)) = true := by
  induction turns generalizing counter with
  | zero =>
    intro count below
    omega
  | succ turns ih =>
    simp only [freeName] at missed
    split at missed
    · rename_i taken
      intro count below
      cases count with
      | zero => exact taken
      | succ count =>
        have later := ih missed count (by omega)
        rwa [show counter + 1 + count = counter + (count + 1) by omega] at later
    · contradiction

/-- The loop comes to an end: each entry of the tree takes one name in `files` and one in `info`. -/
theorem freeName_answers (machine : Machine) (tree : Tree) (files info : Path) (base : Text) :
    ∃ name, freeName machine tree files info base (2 * tree.entries.length + 1) 0 = some name := by
  cases found : freeName machine tree files info base (2 * tree.entries.length + 1) 0 with
  | some name => exact ⟨name, rfl⟩
  | none =>
    exfalso
    have taken := freeName_none found
    have keys : tree.keys.toFinset.card ≤ tree.entries.length := by
      have bound := tree.keys.toFinset_card_le
      simpa [Dict.keys] using bound
    have few : ∀ {spell : Nat → Path}, Function.Injective spell →
        ((Finset.range (2 * tree.entries.length + 1)).filter fun count =>
          spell count ∈ tree.keys).card ≤ tree.entries.length := by
      intro spell injective
      refine Nat.le_trans (Finset.card_le_card_of_injOn spell ?_ injective.injOn) keys
      intro count member
      simpa using (Finset.mem_filter.mp member).2
    have inFiles := @few (fun count => candidateName base count :: files) fun left right same =>
      candidateName_injective base (List.cons.inj same).1
    have inInfo :=
      @few (fun count => infoName (candidateName base count) :: info) fun left right same =>
      candidateName_injective base (List.append_cancel_right (List.cons.inj same).1)
    have covered : Finset.range (2 * tree.entries.length + 1) ⊆
        ((Finset.range (2 * tree.entries.length + 1)).filter fun count =>
          candidateName base count :: files ∈ tree.keys) ∪
        ((Finset.range (2 * tree.entries.length + 1)).filter fun count =>
          infoName (candidateName base count) :: info ∈ tree.keys) := by
      intro count member
      have named := taken count (Finset.mem_range.mp member)
      rw [Nat.zero_add, nameTaken, Bool.or_eq_true] at named
      rcases named with inFiles | inInfo
      · exact Finset.mem_union_left _ (Finset.mem_filter.mpr ⟨member, existsAt_entry inFiles⟩)
      · exact Finset.mem_union_right _ (Finset.mem_filter.mpr ⟨member, existsAt_entry inInfo⟩)
    have bound := (Finset.card_le_card covered).trans (Finset.card_union_le _ _)
    rw [Finset.card_range] at bound
    omega

end Search

end SysadminAssistant.Files
