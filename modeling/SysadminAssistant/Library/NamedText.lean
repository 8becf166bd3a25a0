import Mathlib.Data.List.Basic
import Mathlib.Data.List.Forall2

namespace SysadminAssistant.Library

/-! A text in which a kind of symbol comes only from names that the text quotes. -/

/-- The text is made of the names, each whole, and of symbols that are not of the kind. -/
inductive OnlyNames {α : Type*} (figure : α → Bool) (names : List (List α)) : List α → Prop where
  | nil : OnlyNames figure names []
  | symbol {c : α} {rest : List α} : figure c = false → OnlyNames figure names rest →
      OnlyNames figure names (c :: rest)
  | name {quoted rest : List α} : quoted ∈ names → OnlyNames figure names rest →
      OnlyNames figure names (quoted ++ rest)

namespace OnlyNames

variable {α : Type*} {figure : α → Bool} {names : List (List α)} {left right : List α}

theorem append (first : OnlyNames figure names left) (second : OnlyNames figure names right) :
    OnlyNames figure names (left ++ right) := by
  induction first with
  | nil => exact second
  | symbol plain _ ih => exact .symbol plain ih
  | name quoted _ ih =>
    rw [List.append_assoc]
    exact .name quoted ih

theorem quoted (member : left ∈ names) : OnlyNames figure names left := by
  have whole := OnlyNames.name member (.nil : OnlyNames figure names [])
  rwa [List.append_nil] at whole

theorem plain (none : ∀ c ∈ left, figure c = false) : OnlyNames figure names left := by
  induction left with
  | nil => exact .nil
  | cons c rest ih =>
    exact .symbol (none c List.mem_cons_self) (ih fun other member =>
      none other (List.mem_cons_of_mem c member))

theorem intercalate {separator : List α} {lines : List (List α)}
    (between : OnlyNames figure names separator)
    (each : ∀ line ∈ lines, OnlyNames figure names line) :
    OnlyNames figure names (separator.intercalate lines) := by
  induction lines with
  | nil => exact .nil
  | cons line rest ih =>
    have here := each line List.mem_cons_self
    have later := ih fun other member => each other (List.mem_cons_of_mem line member)
    cases rest with
    | nil => simpa [List.intercalate] using here
    | cons next rest =>
      have shape : separator.intercalate (line :: next :: rest) =
          line ++ (separator ++ separator.intercalate (next :: rest)) := by
        simp [List.intercalate]
      rw [shape]
      exact here.append (between.append later)

end OnlyNames

theorem intercalate_concat {α : Type*} (separator last : List α) {lines : List (List α)}
    (some : lines ≠ []) :
    separator.intercalate (lines ++ [last]) = separator.intercalate lines ++ separator ++ last := by
  induction lines with
  | nil => contradiction
  | cons line rest ih =>
    cases rest with
    | nil => simp [List.intercalate]
    | cons next rest =>
      have later := ih (by simp)
      simp only [List.intercalate, List.cons_append, List.intersperse_cons_cons,
        List.flatten_cons] at later ⊢
      rw [later]
      simp

/-! Lists of which a view is seen. -/

section

variable {α β γ : Type*} {view : α → β} {left right : List α}

theorem alike_of_view (same : left.map view = right.map view) :
    List.Forall₂ (fun first second => view first = view second) left right := by
  rw [← List.forall₂_eq_eq_eq, List.forall₂_map_left_iff, List.forall₂_map_right_iff] at same
  exact same

theorem map_of_view {line : α → γ} (determined : ∀ first second, view first = view second →
    line first = line second)
    (same : left.map view = right.map view) : left.map line = right.map line := by
  have alike := alike_of_view same
  clear same
  induction alike with
  | nil => rfl
  | cons here _ ih => rw [List.map_cons, List.map_cons, determined _ _ here, ih]

theorem filter_of_view {keep : α → Bool} (determined : ∀ first second, view first = view second →
    keep first = keep second)
    (same : left.map view = right.map view) :
    (left.filter keep).map view = (right.filter keep).map view := by
  have alike := alike_of_view same
  clear same
  induction alike with
  | nil => rfl
  | cons here _ ih =>
    rename_i first second _ _ _
    have both := determined first second here
    cases kept : keep first with
    | false => simpa [kept, ← both] using ih
    | true => simpa [kept, ← both, here] using ih

theorem eq_nil_of_view (same : left.map view = right.map view) : left = [] ↔ right = [] := by
  have lengths := congrArg List.length same
  rw [List.length_map, List.length_map] at lengths
  rw [← List.length_eq_zero_iff, ← List.length_eq_zero_iff, lengths]

end

end SysadminAssistant.Library
