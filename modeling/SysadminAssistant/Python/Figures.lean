import SysadminAssistant.Library.NamedText
import SysadminAssistant.Python.Text

namespace SysadminAssistant.Python

open Library

/-! Texts without a decimal digit, and the directions that stand for differences in them. -/

inductive Direction where
  | up | steady | down
deriving DecidableEq

def directionOf (delta : Int) : Direction :=
  if 0 < delta then .up else if delta = 0 then .steady else .down

theorem directionOf_iff (delta : Int) : (directionOf delta = .up ↔ 0 < delta) ∧
    (directionOf delta = .down ↔ delta < 0) ∧ (directionOf delta = .steady ↔ delta = 0) := by
  rw [directionOf]
  by_cases rising : 0 < delta
  · rw [if_pos rising]
    simp only [reduceCtorEq, true_iff, false_iff]
    omega
  · rw [if_neg rising]
    by_cases zero : delta = 0
    · rw [if_pos zero]
      simp only [reduceCtorEq, true_iff, false_iff]
      omega
    · rw [if_neg zero]
      simp only [reduceCtorEq, true_iff, false_iff]
      omega

def dash : CodePoint := codePoint '—'

/-- An ASCII character that is no digit, or the dash. -/
def isPlain (c : CodePoint) : Bool := c = dash || (c.val < 0x80 && !(48 ≤ c.val && c.val ≤ 57))

theorem text_append (first second : String) : text (first ++ second) = text first ++ text second := by
  simp [text]

theorem plain_of_spelt {literal : String} {characters : List Char}
    (spelt : literal = String.ofList characters)
    (plain : (characters.map codePoint).all isPlain = true) : (text literal).all isPlain = true := by
  rw [text, spelt, String.toList_ofList]
  exact plain

theorem plain_append {first second : Text} (left : first.all isPlain = true)
    (right : second.all isPlain = true) : (first ++ second).all isPlain = true := by
  rw [List.all_append, left, right, Bool.and_self]

variable {database : CharDatabase}

theorem isDigit_of_plain (noDigit : database.isDigit dash = false) {c : CodePoint}
    (plain : isPlain c = true) : database.isDigit c = false := by
  simp only [isPlain, Bool.or_eq_true, decide_eq_true_eq, Bool.and_eq_true, Bool.not_eq_true',
    Bool.and_eq_false_iff, decide_eq_false_iff_not] at plain
  rcases plain with rfl | ascii
  · exact noDigit
  · have outside : ¬ (48 ≤ c.val ∧ c.val ≤ 57) := by tauto
    simp [CharDatabase.isDigit, database.digit_ascii c ascii.1, outside]

theorem onlyNames_plain (noDigit : database.isDigit dash = false) {names : List Text} {value : Text}
    (plain : value.all isPlain = true) : OnlyNames database.isDigit names value :=
  OnlyNames.plain fun c member => isDigit_of_plain noDigit (List.all_eq_true.mp plain c member)

theorem onlyNames_prompt (noDigit : database.isDigit dash = false) {names lines : List Text}
    (each : ∀ line ∈ lines, OnlyNames database.isDigit names line) (instructions : Text) :
    ∃ half, (text "\n").intercalate (lines ++ [[], instructions]) = half ++ instructions ∧
      OnlyNames database.isDigit names half := by
  have newline : OnlyNames database.isDigit names (text "\n") :=
    onlyNames_plain noDigit (plain_of_spelt rfl (by decide))
  have shape : lines ++ [[], instructions] = (lines ++ [[]]) ++ [instructions] := by simp
  refine ⟨(text "\n").intercalate (lines ++ [[]]) ++ text "\n", ?_, ?_⟩
  · rw [shape, intercalate_concat _ _ (by simp)]
  · refine (OnlyNames.intercalate newline fun line member => ?_).append newline
    rcases List.mem_append.mp member with shown | blank
    · exact each line shown
    · rw [List.mem_singleton.mp blank]
      exact .nil

end SysadminAssistant.Python
