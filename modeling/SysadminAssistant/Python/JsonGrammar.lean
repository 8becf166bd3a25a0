import SysadminAssistant.Python.JsonDecode

namespace SysadminAssistant.Python.Json

/-! The grammar of a JSON text (RFC 8259).  It names no machine: the decoder is measured against it. -/

/-- `ws`. -/
def Blank (space : Text) : Prop := ∀ c ∈ space, isJsonSpace c = true

/-- `1*DIGIT`. -/
def Digits (digits : Text) : Prop := digits ≠ [] ∧ ∀ c ∈ digits, isAsciiDigit c = true

/-- `int`, which has no leading zero. -/
def WholeText (whole : Text) : Prop := Digits whole ∧ (whole.head? = some 0x30 → whole.length = 1)

def FractionText (fraction : Text) : Prop :=
  fraction = [] ∨ ∃ digits, Digits digits ∧ fraction = 0x2E :: digits

def ExponentText (exponent : Text) : Prop :=
  exponent = [] ∨ ∃ mark sign digits, (mark = 0x65 ∨ mark = 0x45) ∧ (sign = [] ∨ sign = [0x2B] ∨
    sign = [0x2D]) ∧ Digits digits ∧ exponent = mark :: (sign ++ digits)

/-- `number = [ minus ] int [ frac ] [ exp ]`. -/
def NumberText (number : Text) : Prop :=
  ∃ minus whole fraction exponent, (minus = [] ∨ minus = [0x2D]) ∧ WholeText whole ∧
    FractionText fraction ∧
    ExponentText exponent ∧ number = minus ++ (whole ++ (fraction ++ exponent))

/-- `*char`. -/
inductive StringBody : Text → Prop where
  | nil : StringBody []
  | unescaped {c : CodePoint} {rest : Text} (printable : 0x1F < c.val) (noQuote : c ≠ 0x22)
      (noEscape : c ≠ 0x5C) (later : StringBody rest) : StringBody (c :: rest)
  | escaped {c : CodePoint} {rest : Text} (named : c ∈ text "\"\\/bfnrt")
      (later : StringBody rest) : StringBody (0x5C :: c :: rest)
  | unicode {digits rest : Text} (four : digits.length = 4) (hex : ∀ c ∈ digits,
      (hexDigit c).isSome) (later : StringBody rest) : StringBody (0x5C :: 0x75 :: (digits ++ rest))

def StringText (string : Text) : Prop := ∃ body, StringBody body ∧ string = 0x22 :: (body ++ [0x22])

inductive Nonterminal where
  | value | elements | members

/-- The texts a nonterminal derives; `elements` and `members` carry the blanks around their parts. -/
inductive Derives : Nonterminal → Text → Prop where
  | null : Derives .value (text "null")
  | true : Derives .value (text "true")
  | false : Derives .value (text "false")
  | number {number : Text} (spelled : NumberText number) : Derives .value number
  | string {string : Text} (spelled : StringText string) : Derives .value string
  | emptyArray {space : Text} (blank : Blank space) : Derives .value (0x5B :: (space ++ [0x5D]))
  | array {elements : Text} (inside : Derives .elements elements) :
      Derives .value (0x5B :: (elements ++ [0x5D]))
  | emptyObject {space : Text} (blank : Blank space) : Derives .value (0x7B :: (space ++ [0x7D]))
  | object {members : Text} (inside : Derives .members members) :
      Derives .value (0x7B :: (members ++ [0x7D]))
  | element {before value after : Text} (blankBefore : Blank before) (derived : Derives .value value)
      (blankAfter : Blank after) : Derives .elements (before ++ (value ++ after))
  | elements {before value after rest : Text} (blankBefore : Blank before)
      (derived : Derives .value value) (blankAfter : Blank after) (later : Derives .elements rest) :
      Derives .elements (before ++ (value ++ (after ++ 0x2C :: rest)))
  | member {before key between gap value after : Text} (blankBefore : Blank before)
      (named : StringText key)
      (blankBetween : Blank between) (blankGap : Blank gap) (derived : Derives .value value)
      (blankAfter : Blank after) :
      Derives .members (before ++ (key ++ (between ++ 0x3A :: (gap ++ (value ++ after)))))
  | members {before key between gap value after rest : Text} (blankBefore : Blank before)
      (named : StringText key)
      (blankBetween : Blank between) (blankGap : Blank gap) (derived : Derives .value value)
      (blankAfter : Blank after) (later : Derives .members rest) :
      Derives .members (before ++
        (key ++ (between ++ 0x3A :: (gap ++ (value ++ (after ++ 0x2C :: rest))))))

/-- `JSON-text = ws value ws`. -/
def JsonText (content : Text) : Prop :=
  ∃ before value after, Blank before ∧ Derives .value value ∧ Blank after ∧
    content = before ++ (value ++ after)

/-- A JSON text whose top level is an object. -/
def JsonObjectText (content : Text) : Prop :=
  ∃ before value after, Blank before ∧ Derives .value value ∧ value.head? = some 0x7B ∧
    Blank after ∧ content = before ++ (value ++ after)

theorem blank_nil : Blank [] := nofun

theorem Blank.cons {c : CodePoint} {space : Text} (isSpace : isJsonSpace c = true)
    (blank : Blank space) : Blank (c :: space) := by
  intro other member
  rcases List.mem_cons.mp member with here | later
  · exact here ▸ isSpace
  · exact blank other later

theorem Blank.head {c : CodePoint} {space : Text} (blank : Blank (c :: space)) :
    isJsonSpace c = true :=
  blank c List.mem_cons_self

theorem Blank.tail {c : CodePoint} {space : Text} (blank : Blank (c :: space)) : Blank space :=
  fun other member => blank other (List.mem_cons_of_mem _ member)

/-! ## Numbers -/

theorem mem_digits (read : Text) : ∀ c ∈ read.takeWhile isAsciiDigit, isAsciiDigit c = true :=
  fun c member => List.all_eq_true.mp List.all_takeWhile c member

theorem takeWhile_digits {digits rest : Text} (all : ∀ c ∈ digits, isAsciiDigit c = true)
    (stop : ∀ c, rest.head? = some c → isAsciiDigit c = false) :
    (digits ++ rest).takeWhile isAsciiDigit = digits := by
  induction digits with
  | nil =>
    cases rest with
    | nil => rfl
    | cons c rest => rw [List.nil_append, List.takeWhile_cons_of_neg (by simp [stop c rfl])]
  | cons c digits ih =>
    rw [List.cons_append, List.takeWhile_cons_of_pos (all c List.mem_cons_self)]
    exact congrArg (c :: ·) (ih fun other member => all other (List.mem_cons_of_mem _ member))

theorem dropWhile_digits {digits rest : Text} (all : ∀ c ∈ digits, isAsciiDigit c = true)
    (stop : ∀ c, rest.head? = some c → isAsciiDigit c = false) :
    (digits ++ rest).dropWhile isAsciiDigit = rest := by
  have whole := List.takeWhile_append_dropWhile (p := isAsciiDigit) (l := digits ++ rest)
  rw [takeWhile_digits all stop] at whole
  exact List.append_cancel_left whole

theorem scanExponent_spelled {exponent : Text} (spelled : ExponentText exponent) :
    (scanExponent exponent).1.all (fun exponent => exponent.2 ≠ []) = true ∧
      (scanExponent exponent).2 = [] := by
  rcases spelled with rfl | ⟨mark, sign, digits, isMark, isSign, ⟨nonempty, all⟩, rfl⟩
  · exact ⟨rfl, rfl⟩
  · have taken : digits.takeWhile isAsciiDigit = digits := by
      have whole := @takeWhile_digits digits [] all nofun
      rwa [List.append_nil] at whole
    have dropped : digits.dropWhile isAsciiDigit = [] := by
      have whole := @dropWhile_digits digits [] all nofun
      rwa [List.append_nil] at whole
    have unsigned : digits.head? ≠ some 0x2D ∧ digits.head? ≠ some 0x2B := by
      cases digits with
      | nil => exact absurd rfl nonempty
      | cons c rest =>
        have digit := all c List.mem_cons_self
        constructor
        all_goals
          intro same
          rw [Option.some.inj same] at digit
          exact absurd digit (by decide)
    rcases isSign with rfl | rfl | rfl
    all_goals simp [scanExponent, isMark, taken, dropped, unsigned, nonempty]

theorem wellFormed_of_numberText {number : Text} (spelled : NumberText number) :
    (scanNumeral number).wellFormed = true := by
  obtain ⟨minus, whole, fraction, exponent, isMinus, ⟨⟨nonempty, all⟩, noLeading⟩, isFraction,
      isExponent, rfl⟩ := spelled
  have exponentHead : ∀ c, exponent.head? = some c → isAsciiDigit c = false ∧ c ≠ 0x2E := by
    intro c starts
    rcases isExponent with rfl | ⟨mark, sign, digits, isMark, _, _, rfl⟩
    · cases starts
    · cases starts
      rcases isMark with rfl | rfl <;> decide
  have fractionHead : ∀ c, (fraction ++ exponent).head? = some c → isAsciiDigit c = false := by
    intro c starts
    rcases isFraction with rfl | ⟨digits, _, rfl⟩
    · exact (exponentHead c starts).1
    · cases starts
      decide
  have unsigned : (if (minus ++ (whole ++ (fraction ++ exponent))).head? = some 0x2D then
      (minus ++ (whole ++ (fraction ++ exponent))).tail
        else minus ++ (whole ++ (fraction ++ exponent))) =
      whole ++ (fraction ++ exponent) := by
    rcases isMinus with rfl | rfl
    · cases whole with
      | nil => exact absurd rfl nonempty
      | cons c rest =>
        have digit := all c List.mem_cons_self
        refine if_neg fun same => ?_
        rw [Option.some.inj same] at digit
        exact absurd digit (by decide)
    · rfl
  have scanned := scanExponent_spelled isExponent
  have parts : (scanNumeral (minus ++ (whole ++ (fraction ++ exponent)))).whole = whole ∧
      (scanNumeral (minus ++ (whole ++ (fraction ++ exponent)))).exponent = (scanExponent exponent).1 ∧
      (scanNumeral (minus ++ (whole ++ (fraction ++ exponent)))).rest = (scanExponent exponent).2 := by
    simp only [scanNumeral, decide_eq_true_eq, unsigned, takeWhile_digits all fractionHead,
      dropWhile_digits all fractionHead]
    rcases isFraction with rfl | ⟨digits, ⟨digitsNonempty, allDigits⟩, rfl⟩
    · have noPoint : exponent.head? ≠ some 0x2E := fun starts => (exponentHead _ starts).2 rfl
      simp [noPoint]
    · have stop := fun c starts => (exponentHead c starts).1
      simp [takeWhile_digits allDigits stop, dropWhile_digits allDigits stop, digitsNonempty]
  simp only [Numeral.wellFormed, parts, scanned, Bool.and_eq_true, decide_eq_true_eq,
    Bool.or_eq_true, ne_eq, and_true]
  refine ⟨nonempty, ?_⟩
  by_cases zero : whole.head? = some 0x30
  · exact Or.inr (noLeading zero)
  · exact Or.inl zero

theorem exponentText_of_scanned {read : Text}
    (digits : (scanExponent read).1.all (fun exponent => exponent.2 ≠ []) = true)
    (rest : (scanExponent read).2 = []) :
    ExponentText read := by
  cases read with
  | nil => exact Or.inl rfl
  | cons mark tail =>
    by_cases isMark : mark = 0x65 ∨ mark = 0x45
    · have ended : ∀ signed : Text, signed.takeWhile isAsciiDigit ≠ [] →
          signed.dropWhile isAsciiDigit = [] → Digits signed := by
        intro signed nonempty nothing
        have whole := List.takeWhile_append_dropWhile (p := isAsciiDigit) (l := signed)
        rw [nothing, List.append_nil] at whole
        rw [← whole]
        exact ⟨nonempty, mem_digits _⟩
      refine Or.inr ?_
      cases tail with
      | nil => simp [scanExponent, isMark] at digits
      | cons sign tail =>
        by_cases isSign : sign = 0x2D ∨ sign = 0x2B
        · have scanned : scanExponent (mark :: sign :: tail) =
              (some (decide (sign = 0x2D), tail.takeWhile isAsciiDigit),
                tail.dropWhile isAsciiDigit) := by
            simp [scanExponent, isMark, isSign]
          rw [scanned] at digits rest
          refine ⟨mark, [sign], tail, isMark, ?_, ended tail (of_decide_eq_true digits) rest, rfl⟩
          rcases isSign with rfl | rfl
          · exact Or.inr (Or.inr rfl)
          · exact Or.inr (Or.inl rfl)
        · have signs := not_or.mp isSign
          have scanned : scanExponent (mark :: sign :: tail) =
              (some (false, (sign :: tail).takeWhile isAsciiDigit),
                (sign :: tail).dropWhile isAsciiDigit) := by
            simp [scanExponent, isMark, signs]
          rw [scanned] at digits rest
          exact ⟨mark, [], sign :: tail, isMark, Or.inl rfl,
            ended _ (of_decide_eq_true digits) rest, rfl⟩
    · rw [scanExponent, if_neg (by simpa using isMark)] at rest
      cases rest

theorem numberText_of_wellFormed {number : Text}
    (wellFormed : (scanNumeral number).wellFormed = true) : NumberText number := by
  simp only [Numeral.wellFormed, Bool.and_eq_true, decide_eq_true_eq, Bool.or_eq_true, ne_eq]
    at wellFormed
  obtain ⟨⟨⟨nonempty, noLeading⟩, exponentDigits⟩, noRest⟩ := wellFormed
  simp only [scanNumeral, decide_eq_true_eq] at nonempty noLeading exponentDigits noRest
  generalize isUnsigned : (if number.head? = some 0x2D then number.tail else number) = unsigned at *
  have signed : ∃ minus, (minus = [] ∨ minus = [0x2D]) ∧ number = minus ++ unsigned := by
    by_cases minus : number.head? = some 0x2D
    · rw [if_pos minus] at isUnsigned
      refine ⟨[0x2D], Or.inr rfl, ?_⟩
      rw [← isUnsigned]
      exact (List.cons_head?_tail minus).symm
    · rw [if_neg minus] at isUnsigned
      exact ⟨[], Or.inl rfl, isUnsigned⟩
  obtain ⟨minus, isMinus, rfl⟩ := signed
  have whole : WholeText (unsigned.takeWhile isAsciiDigit) := by
    refine ⟨⟨nonempty, mem_digits _⟩, fun zero => ?_⟩
    rcases noLeading with other | single
    · exact absurd zero other
    · exact single
  have parts := List.takeWhile_append_dropWhile (p := isAsciiDigit) (l := unsigned)
  generalize unsigned.dropWhile isAsciiDigit = afterWhole at *
  refine ⟨minus, unsigned.takeWhile isAsciiDigit, ?_⟩
  by_cases noFraction : (if afterWhole.head? = some 0x2E then afterWhole.tail.takeWhile isAsciiDigit
    else []) = []
  · rw [if_pos noFraction] at exponentDigits noRest
    refine ⟨[], afterWhole, isMinus, whole, Or.inl rfl,
      exponentText_of_scanned exponentDigits noRest, ?_⟩
    rw [List.nil_append, parts]
  · rw [if_neg noFraction] at exponentDigits noRest
    by_cases point : afterWhole.head? = some 0x2E
    · rw [if_pos point] at noFraction
      refine ⟨0x2E :: afterWhole.tail.takeWhile isAsciiDigit,
        afterWhole.tail.dropWhile isAsciiDigit, isMinus, whole,
        Or.inr ⟨_, ⟨noFraction, mem_digits _⟩, rfl⟩,
        exponentText_of_scanned exponentDigits noRest, ?_⟩
      rw [List.cons_append, List.takeWhile_append_dropWhile, List.cons_head?_tail point, parts]
    · exact absurd (if_neg point) noFraction

theorem wellFormed_iff {number : Text} : (scanNumeral number).wellFormed = true ↔ NumberText number :=
  ⟨numberText_of_wellFormed, wellFormed_of_numberText⟩

theorem NumberText.chars {number : Text} (spelled : NumberText number) :
    ∀ c ∈ number, isNumberChar c = true := by
  obtain ⟨minus, whole, fraction, exponent, isMinus, ⟨⟨_, all⟩, _⟩, isFraction, isExponent, rfl⟩ :=
    spelled
  have digit : ∀ {c : CodePoint}, isAsciiDigit c = true → isNumberChar c = true := fun isDigit => by
    simp [isNumberChar, isDigit]
  intro c member
  simp only [List.mem_append] at member
  rcases member with inMinus | inWhole | inFraction | inExponent
  · rcases isMinus with rfl | rfl
    · cases inMinus
    · rw [List.mem_singleton.mp inMinus]
      decide
  · exact digit (all c inWhole)
  · rcases isFraction with rfl | ⟨digits, ⟨_, allDigits⟩, rfl⟩
    · cases inFraction
    · rcases List.mem_cons.mp inFraction with rfl | inDigits
      · decide
      · exact digit (allDigits c inDigits)
  · rcases isExponent with rfl | ⟨mark, sign, digits, isMark, isSign, ⟨_, allDigits⟩, rfl⟩
    · cases inExponent
    · rcases List.mem_cons.mp inExponent with rfl | later
      · rcases isMark with rfl | rfl <;> decide
      · rcases List.mem_append.mp later with inSign | inDigits
        · rcases isSign with rfl | rfl | rfl
          · cases inSign
          · rw [List.mem_singleton.mp inSign]
            decide
          · rw [List.mem_singleton.mp inSign]
            decide
        · exact digit (allDigits c inDigits)

end SysadminAssistant.Python.Json
