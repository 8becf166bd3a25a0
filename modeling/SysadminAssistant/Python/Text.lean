import Mathlib.Data.List.Basic
import Mathlib.Data.List.Lex
import Mathlib.Data.Fin.Basic

namespace SysadminAssistant.Python

/-! Python text.  A `str` is a sequence of code points, surrogates included, so
`Char` is too small for it: a lone surrogate decoded from JSON is a value the
program really holds. -/

abbrev CodePoint := Fin 0x110000

abbrev Text := List CodePoint

-- The laws that literals and comparisons of text rest on, found once for all modules.

instance codePoints_neZero : @NeZero Nat Zero.ofOfNat0 0x110000 := ⟨by decide⟩

instance codePoint_lawfulBEq : LawfulBEq CodePoint := inferInstance

instance text_lawfulBEq : LawfulBEq Text := inferInstance

def codePoint (c : Char) : CodePoint :=
  ⟨c.toNat, by
    have bound := c.valid
    have value : c.toNat = c.val.toNat := rfl
    simp only [UInt32.isValidChar, Nat.isValidChar] at bound
    omega⟩

/-- A literal of the source. -/
def text (literal : String) : Text := literal.toList.map codePoint

/-- `str(n)` for an `int`. -/
def intText (n : Int) : Text := text (toString n)

namespace CodePoint

def isSurrogate (c : CodePoint) : Bool := 0xD800 ≤ c.val && c.val ≤ 0xDFFF

/-- `str.isspace` on one code point; `str.strip`, `str.split` and the regular
expression `\s` all use this set. -/
def isSpace (c : CodePoint) : Bool :=
  (0x09 ≤ c.val && c.val ≤ 0x0D) || (0x1C ≤ c.val && c.val ≤ 0x20) ||
    c.val == 0x85 || c.val == 0xA0 || c.val == 0x1680 ||
    (0x2000 ≤ c.val && c.val ≤ 0x200A) || c.val == 0x2028 || c.val == 0x2029 ||
    c.val == 0x202F || c.val == 0x205F || c.val == 0x3000

end CodePoint

namespace Text

def stripLeft (value : Text) : Text := value.dropWhile CodePoint.isSpace

/-- `str.strip()`. -/
def strip (value : Text) : Text := (stripLeft (stripLeft value).reverse).reverse

/-- `str.split(separator)` for a one-character separator. -/
def splitOn (separator : CodePoint) : Text → List Text
  | [] => [[]]
  | c :: rest =>
    if c = separator then [] :: splitOn separator rest
    else match splitOn separator rest with
      | [] => [[c]]
      | line :: lines => (c :: line) :: lines

theorem mem_of_mem_strip {c : CodePoint} {value : Text} (member : c ∈ strip value) : c ∈ value := by
  rw [strip, List.mem_reverse] at member
  have left := (List.dropWhile_suffix _).subset member
  rw [List.mem_reverse] at left
  exact (List.dropWhile_suffix _).subset left

/-- `needle in value`. -/
def contains (needle : Text) : Text → Bool
  | [] => needle.isEmpty
  | c :: rest => needle.isPrefixOf (c :: rest) || contains needle rest

/-- `pattern.sub(replacement, value)` for a pattern that matches the maximal runs
of one class of code points.  `inside` says that the last one was in a run. -/
def collapseRuns (member : CodePoint → Bool) (replacement : Text) : Bool → Text → Text
  | _, [] => []
  | inside, c :: rest =>
    if member c then
      if inside then collapseRuns member replacement true rest
      else replacement ++ collapseRuns member replacement true rest
    else c :: collapseRuns member replacement false rest

/-- `" ".join(value.split())`. -/
def squeezed (value : Text) : Text := strip (collapseRuns CodePoint.isSpace (text " ") false value)

/-- `"\n".join(lines)`. -/
def joinLines (lines : List Text) : Text := (lines.intersperse (text "\n")).flatten

end Text

/-- What the interpreter's Unicode database says about single code points.  The
version of that database is not the program's; the laws are what every version
keeps. -/
structure CharDatabase where
  isWord : CodePoint → Bool
  digit : CodePoint → Option (Fin 10)
  upper : CodePoint → Text
  digit_ascii : ∀ c : CodePoint, c.val < 0x80 →
    digit c = if 48 ≤ c.val ∧ c.val ≤ 57 then some (Fin.ofNat 10 (c.val - 48)) else none
  isWord_ascii : ∀ c : CodePoint, c.val < 0x80 →
    isWord c = ((48 ≤ c.val && c.val ≤ 57) || (65 ≤ c.val && c.val ≤ 90) ||
      (97 ≤ c.val && c.val ≤ 122) || c.val == 95)
  upper_ascii : ∀ c : CodePoint, c.val < 0x80 →
    upper c = [if 97 ≤ c.val ∧ c.val ≤ 122 then c - 32 else c]
  digit_isWord : ∀ c, (digit c).isSome → isWord c = true
  space_not_word : ∀ c, CodePoint.isSpace c = true → isWord c = false

namespace CharDatabase

def isDigit (database : CharDatabase) (c : CodePoint) : Bool := (database.digit c).isSome

/-- `str.upper`. -/
def upperText (database : CharDatabase) (value : Text) : Text := value.flatMap database.upper

/-- The database cut down to ASCII, for evaluation. -/
def ascii : CharDatabase where
  isWord c := (48 ≤ c.val && c.val ≤ 57) || (65 ≤ c.val && c.val ≤ 90) ||
    (97 ≤ c.val && c.val ≤ 122) || c.val == 95
  digit c := if 48 ≤ c.val ∧ c.val ≤ 57 then some (Fin.ofNat 10 (c.val - 48)) else none
  upper c := [if 97 ≤ c.val ∧ c.val ≤ 122 then c - 32 else c]
  digit_ascii _ _ := rfl
  isWord_ascii _ _ := rfl
  upper_ascii _ _ := rfl
  digit_isWord c present := by
    split at present
    · rename_i bounds
      simp [bounds.1, bounds.2]
    · simp at present
  space_not_word c space := by
    simp only [CodePoint.isSpace, Bool.or_eq_true, Bool.and_eq_true, decide_eq_true_eq,
      beq_iff_eq] at space
    simp only [Bool.or_eq_false_iff, Bool.and_eq_false_iff, decide_eq_false_iff_not,
      beq_eq_false_iff_ne]
    omega

end CharDatabase

end SysadminAssistant.Python
