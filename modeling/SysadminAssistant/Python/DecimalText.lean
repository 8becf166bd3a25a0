import Mathlib.Data.List.Basic
import Mathlib.Logic.Function.Basic
import SysadminAssistant.Library.RaisingLoops
import SysadminAssistant.Python.JsonDecode
import SysadminAssistant.Python.Text

namespace SysadminAssistant.Python

/-! `int(value)` and `datetime.fromtimestamp`, with every exception they raise. -/

/-- What `int` strips from a string: the Unicode spaces, less the four ASCII separators. -/
def isIntSpace (c : CodePoint) : Bool := c.isSpace && !(0x1C ≤ c.val && c.val ≤ 0x1F)

namespace CharDatabase

/-- The digits of a decimal literal: single underscores may stand between two of them. -/
def digitsOf (database : CharDatabase) : (separable : Bool) → Text → Option (List (Fin 10))
  | separable, [] => if separable then some [] else none
  | separable, c :: rest =>
    if separable && c = 0x5F then digitsOf database false rest
    else do
      let digit ← database.digit c
      let digits ← digitsOf database true rest
      return digit :: digits

/-- `int(value)` for a string. -/
def intOfText (database : CharDatabase) (value : Text) : Except PyError Int :=
  let stripped := ((value.dropWhile isIntSpace).reverse.dropWhile isIntSpace).reverse
  let negative : Bool := stripped.head? = some 0x2D
  let unsigned := if negative || stripped.head? = some 0x2B then stripped.tail else stripped
  match database.digitsOf false unsigned with
  | none => .error .valueError
  | some digits =>
    if intMaxStrDigits < digits.length then .error .valueError
    else
      let magnitude : Int := digits.foldl (fun total digit => total * 10 + digit.val) 0
      .ok (if negative then -magnitude else magnitude)

end CharDatabase

/-- `int(value)`. -/
def intOfJson (database : CharDatabase) : Json → Except PyError Int
  | .bool value => .ok (if value then 1 else 0)
  | .int value => .ok value
  | .float (.finite value) => .ok (truncate value)
  | .float (.infinite _) => .error .overflowError
  | .float .nan => .error .valueError
  | .str value => database.intOfText value
  | .null | .arr _ | .obj _ => .error .typeError

/-- `value / 1_000_000` for an `int`. -/
def secondsOf (microseconds : Int) : Except PyError ℚ :=
  match PyFloat.round (microseconds / 1000000) with
  | .finite seconds => .ok seconds
  | _ => .error .overflowError

/-- `datetime.fromtimestamp(seconds, tz=UTC)`, in microseconds since the epoch: first the
range of `time_t`, then that of `gmtime`, then the years 1 to 9999. -/
def fromTimestamp (seconds : ℚ) : Except PyError Int :=
  let whole := truncate seconds
  let microseconds := whole * 1000000 + roundHalfEven (roundToDouble ((seconds - whole) * 1000000))
  let second := microseconds / 1000000
  if second < -(2 ^ 63) ∨ 2 ^ 63 ≤ second then .error .overflowError
  else if second < -67768040609740800 ∨ 67768036191676799 < second then .error .osError
  else if second < -62135596800 ∨ 253402300799 < second then .error .valueError
  else .ok microseconds

-- a moment of the journal, and the first second whose year no `datetime` holds
example : (intOfJson .ascii (.str (text " 1_700000000123456 "))).bind
    (fun usec => (secondsOf usec).bind fromTimestamp) = .ok 1700000000123456 := by decide +kernel

example : fromTimestamp 253402300800 = .error .valueError := by decide +kernel

/-! The text of an `int`. -/

theorem codePoint_injective : Function.Injective codePoint := by
  intro left right same
  have values : left.toNat = right.toNat := Fin.mk.inj same
  exact Char.toNat_inj.mp values

theorem text_injective : Function.Injective text := by
  intro left right same
  exact String.toList_inj.mp (List.map_injective_iff.mpr codePoint_injective same)

theorem repr_digits {magnitude : Nat} {char : Char} (inside : char ∈ magnitude.repr.toList) :
    char.isDigit = true := by
  rw [Nat.toList_repr] at inside
  exact Nat.isDigit_of_mem_toDigits (by decide) (by decide) inside

theorem natRepr_injective : Function.Injective Nat.repr := by
  intro left right same
  have digits := congrArg String.toList same
  rw [Nat.toList_repr, Nat.toList_repr] at digits
  have read := congrArg (fun digits => Nat.ofDigitChars 10 digits 0) digits
  rwa [Nat.ofDigitChars_ten_toDigits, Nat.ofDigitChars_ten_toDigits] at read

theorem natRepr_ne_signed (left right : Nat) : left.repr ≠ "-" ++ right.repr := by
  intro same
  have sign : '-' ∈ left.repr.toList := by
    rw [same, String.toList_append]
    exact List.mem_append_left _ (List.mem_singleton_self '-')
  exact absurd (repr_digits sign) (by decide)

theorem intText_injective : Function.Injective intText := by
  intro left right same
  have spelt : Int.repr left = Int.repr right := text_injective same
  rw [Int.repr_eq_if, Int.repr_eq_if] at spelt
  split at spelt
  · split at spelt
    · have magnitude := natRepr_injective spelt
      omega
    · exact absurd spelt (natRepr_ne_signed _ _)
  · split at spelt
    · exact absurd spelt.symm (natRepr_ne_signed _ _)
    · have magnitude := natRepr_injective (String.append_right_inj "-" |>.mp spelt)
      omega

theorem mem_intText {n : Int} {c : CodePoint} (member : c ∈ intText n) :
    c = codePoint '-' ∨ (48 ≤ c.val ∧ c.val ≤ 57) := by
  obtain ⟨char, inside, same⟩ := List.mem_map.mp member
  have digits : ∀ magnitude : Nat, char ∈ magnitude.repr.toList → 48 ≤ c.val ∧ c.val ≤ 57 := by
    intro magnitude inside
    have digit := repr_digits inside
    rw [← same]
    simp only [Char.isDigit, Bool.and_eq_true, decide_eq_true_eq, ge_iff_le, UInt32.le_iff_toNat_le]
      at digit
    exact digit
  rw [Int.toString_eq_repr, Int.repr_eq_if] at inside
  split at inside
  · exact Or.inr (digits _ inside)
  · rw [String.toList_append, List.mem_append] at inside
    rcases inside with sign | inside
    · left
      rw [← same, List.mem_singleton.mp (show char ∈ ['-'] from sign)]
    · exact Or.inr (digits _ inside)

open Library

/-! `int(value)` of a string that is made of digits only. -/

namespace CharDatabase

variable {database : CharDatabase}

def numberOf (digits : List (Fin 10)) : Nat :=
  digits.foldl (fun total digit => total * 10 + digit.val) 0

theorem numberOf_cast (digits : List (Fin 10)) :
    ((numberOf digits : Nat) : Int) = digits.foldl
      (fun total digit => total * 10 + (digit.val : Int)) 0 := by
  have steps : ∀ start : Nat,
      ((digits.foldl (fun total digit => total * 10 + digit.val) start : Nat) : Int) =
      digits.foldl (fun total digit => total * 10 + (digit.val : Int)) start := by
    induction digits with
    | nil => exact fun start => rfl
    | cons digit rest ih =>
      intro start
      rw [List.foldl_cons, List.foldl_cons, ih]
      push_cast
      rfl
  exact steps 0

/-- The number that a text of decimal digits denotes. -/
def decimal? (database : CharDatabase) (value : Text) : Option Nat :=
  if value = [] then none else (value.mapM database.digit).map numberOf

/-- Neither a space nor a sign nor a separator. -/
def Unadorned (c : CodePoint) : Prop := isIntSpace c = false ∧ c ≠ 0x2D ∧ c ≠ 0x2B ∧ c ≠ 0x5F

theorem digit_unadorned {c : CodePoint} (digit : (database.digit c).isSome) : Unadorned c := by
  have word := database.digit_isWord c digit
  have unspaced : c.isSpace = false := by
    by_contra space
    rw [database.space_not_word c (by simpa using space)] at word
    cases word
  refine ⟨by simp [isIntSpace, unspaced], ?_, ?_, ?_⟩
  all_goals
    rintro rfl
    rw [database.digit_ascii _ (by decide)] at digit
    simp at digit

theorem dropWhile_none {keep : CodePoint → Bool} {value : Text}
    (none : ∀ c ∈ value, keep c = false) : value.dropWhile keep = value := by
  cases value with
  | nil => rfl
  | cons c rest => rw [List.dropWhile_cons_of_neg (by simp [none c List.mem_cons_self])]

theorem digitsOf_unadorned {value : Text} (plain : ∀ c ∈ value, c ≠ 0x5F) (separable : Bool)
    (nonempty : separable = true ∨ value ≠ []) :
    database.digitsOf separable value = value.mapM database.digit := by
  induction value generalizing separable with
  | nil =>
    rcases nonempty with separable | empty
    · rw [separable]
      rfl
    · exact absurd rfl empty
  | cons c rest ih =>
    obtain ⟨here, later⟩ := List.forall_mem_cons.mp plain
    rw [digitsOf, List.mapM_cons, ih later true (.inl rfl)]
    simp only [here, decide_false, Bool.and_false, Bool.false_eq_true, if_false]

/-- Of a text without adornment, `int` takes what is decimal and not too long. -/
theorem intOfText_unadorned {value : Text} (plain : ∀ c ∈ value, Unadorned c)
    (nonempty : value ≠ []) : database.intOfText value = match database.decimal? value with
      | none => .error .valueError
      | some number => if intMaxStrDigits < value.length then .error .valueError else .ok number := by
  have stripped : ((value.dropWhile isIntSpace).reverse.dropWhile isIntSpace).reverse = value := by
    rw [dropWhile_none fun c member => (plain c member).1,
      dropWhile_none fun c member => (plain c (List.mem_reverse.mp member)).1, List.reverse_reverse]
  have unsigned : value.head? ≠ some 0x2D ∧ value.head? ≠ some 0x2B := by
    refine ⟨fun head => ?_, fun head => ?_⟩
    · exact (plain _ (List.mem_of_mem_head? head)).2.1 rfl
    · exact (plain _ (List.mem_of_mem_head? head)).2.2.1 rfl
  simp only [intOfText, stripped, unsigned.1, unsigned.2, decide_false, Bool.or_self,
    Bool.false_eq_true, if_false, digitsOf_unadorned (fun c member => (plain c member).2.2.2) false
    (.inr nonempty), decimal?, if_neg nonempty]
  cases read : value.mapM database.digit with
  | none => rfl
  | some digits =>
    have same : digits.map (fun _ => ()) = value.map (fun _ => ()) :=
      mapM_map (fun _ _ _ _ => rfl) read
    have length : digits.length = value.length := by simpa using congrArg List.length same
    simp only [length, Option.map_some, numberOf_cast]

theorem decimal?_isSome {value : Text} :
    (database.decimal? value).isSome ↔ value ≠ [] ∧ ∀ c ∈ value, (database.digit c).isSome := by
  rw [decimal?, ← mapM_isSome]
  split
  · rename_i empty
    simp [empty]
  · rename_i nonempty
    simp [nonempty]

end CharDatabase

end SysadminAssistant.Python
