import SysadminAssistant.Python.JsonContinuations

namespace SysadminAssistant.Python.Json

/-! The decoder accepts JSON texts only, short of its constants, and every JSON text, up to its
limits. -/

variable {depthLimit : Nat} {machine next : Machine} {rest : Text} {c : CodePoint}

/-! ## What a step leaves to follow, preceded by its character, could follow before it -/

theorem startValue_sound {stack : List Frame} (strict : c ≠ 0x4E ∧ c ≠ 0x49)
    (stepped : startValue depthLimit stack c = .ok next) (completes : Completes next rest) :
    ValueThen (stack.map Frame.bracket) (c :: rest) := by
  unfold startValue at stepped
  split at stepped
  · rename_i quote
    cases stepped
    obtain ⟨body, more, spelled, continues, rfl⟩ := completes
    exact ⟨0x22 :: (body ++ [0x22]), more, .string ⟨body, spelled, rfl⟩, continues, by simp [quote]⟩
  split at stepped
  · split at stepped
    · cases stepped
    split at stepped
    · rename_i curly
      cases stepped
      rcases completes with begun | ⟨_, outer, space, more, same, blank, continues, rfl⟩
      · obtain ⟨inside, more, derived, continued, shape⟩ := members_of_key begun
        exact ⟨_, more, .object derived, continued, by simp [curly, shape]⟩
      · cases same
        exact ⟨_, more, .emptyObject blank, continues, by simp [curly, Bracket.closer]⟩
    · rename_i opens _ notCurly
      have square : c = 0x5B := by
        simpa [notCurly] using opens
      cases stepped
      rcases completes with begun | ⟨_, outer, space, more, same, blank, continues, rfl⟩
      · obtain ⟨inside, more, derived, continued, shape⟩ := elements_of_value begun
        exact ⟨_, more, .array derived, continued, by simp [square, shape]⟩
      · cases same
        exact ⟨_, more, .emptyArray blank, continues, by simp [square, Bracket.closer]⟩
  split at stepped
  · rename_i letter
    cases stepped
    obtain ⟨_, _, more, continues, rfl⟩ := completes
    exact ⟨text "null", more, .null, continues, by rw [letter]; rfl⟩
  split at stepped
  · rename_i letter
    cases stepped
    obtain ⟨_, _, more, continues, rfl⟩ := completes
    exact ⟨text "true", more, .true, continues, by rw [letter]; rfl⟩
  split at stepped
  · rename_i letter
    cases stepped
    obtain ⟨_, _, more, continues, rfl⟩ := completes
    exact ⟨text "false", more, .false, continues, by rw [letter]; rfl⟩
  split at stepped
  · rename_i letter
    exact absurd letter strict.1
  split at stepped
  · rename_i letter
    exact absurd letter strict.2
  split at stepped
  · cases stepped
    obtain ⟨digits, more, spelled, continues, rfl⟩ := completes
    exact ⟨c :: digits, more, .number spelled, continues, rfl⟩
  · cases stepped

theorem afterValue_sound
    (settled : ∀ rest, Completes machine rest → Continues (machine.stack.map Frame.bracket) rest)
    (stepped : afterValue machine c = .ok next) (completes : Completes next rest) :
    Continues (machine.stack.map Frame.bracket) (c :: rest) := by
  obtain ⟨stack, mode⟩ := machine
  unfold afterValue at stepped
  split at stepped
  · rename_i isSpace
    cases stepped
    exact .space isSpace (settled rest completes)
  split at stepped
  · rename_i same
    cases same
    split at stepped
    · rename_i comma
      cases stepped
      rcases completes with begun | ⟨impossible, _⟩
      · obtain ⟨inside, more, derived, continued, shape⟩ := elements_of_value begun
        rw [comma, shape]
        exact @Continues.more .square _ _ _ derived continued
      · cases impossible
    split at stepped
    · rename_i closes
      cases stepped
      rw [closes]
      exact @Continues.close .square _ _ (completes_deliver.mp completes)
    · cases stepped
  · rename_i same
    cases same
    split at stepped
    · rename_i comma
      cases stepped
      rcases completes with begun | ⟨impossible, _⟩
      · obtain ⟨inside, more, derived, continued, shape⟩ := members_of_key begun
        rw [comma, shape]
        exact @Continues.more .curly _ _ _ derived continued
      · cases impossible
    split at stepped
    · rename_i closes
      cases stepped
      rw [closes]
      exact @Continues.close .curly _ _ (completes_deliver.mp completes)
    · cases stepped
  · cases stepped

theorem afterValue_settled (stepped : afterValue machine c = .ok next) :
    next = machine ∨ machine.mode = .separator ∧ ∃ frame outer, machine.stack = frame :: outer := by
  obtain ⟨stack, mode⟩ := machine
  unfold afterValue at stepped
  split at stepped
  · exact Or.inl (Except.ok.inj stepped).symm
  split at stepped
  · rename_i isSeparator isStack
    exact Or.inr ⟨isSeparator, _, _, isStack⟩
  · rename_i isSeparator isStack
    exact Or.inr ⟨isSeparator, _, _, isStack⟩
  · cases stepped

theorem stringStep_sound {stack : List Frame} {isKey : Bool} {reading : Reading}
    (stepped : stringStep stack isKey reading c = .ok next) (completes : Completes next rest) :
    Completes ⟨stack, .string isKey reading⟩ (c :: rest) := by
  obtain ⟨read, high, escaping⟩ := reading
  cases escaping with
  | none =>
    simp only [stringStep] at stepped
    split at stepped
    · rename_i quote
      cases stepped
      exact ⟨[], rest, .nil, completes_closeString.mp completes, by rw [quote]; rfl⟩
    split at stepped
    · rename_i backslash
      cases stepped
      obtain ⟨body, more, spelled, after, rfl⟩ := completes
      exact ⟨0x5C :: body, more, spelled, after, by rw [backslash]; rfl⟩
    split at stepped
    · cases stepped
    · rename_i noQuote noEscape printable
      cases stepped
      obtain ⟨body, more, spelled, after, rfl⟩ := completes
      exact ⟨c :: body, more, .unescaped (not_le.mp printable) noQuote noEscape spelled, after, rfl⟩
  | backslash =>
    simp only [stringStep] at stepped
    split at stepped
    · rename_i unicode
      cases stepped
      obtain ⟨body, more, ⟨digits, later, four, _, hex, spelled, rfl⟩, after, rfl⟩ := completes
      exact ⟨0x75 :: (digits ++ later), more, .unicode four hex spelled, after, by rw [unicode]; rfl⟩
    · cases named : shortEscape c with
      | none => simp [named] at stepped
      | some escaped =>
        simp only [named, Except.ok.injEq] at stepped
        subst stepped
        obtain ⟨body, more, spelled, after, rfl⟩ := completes
        exact ⟨c :: body, more, .escaped (shortEscape_isSome.mp (by rw [named]; rfl)) spelled,
          after, rfl⟩
  | hex count value =>
    simp only [stringStep] at stepped
    cases isHex : hexDigit c with
    | none => simp [isHex] at stepped
    | some digit =>
      simp only [isHex] at stepped
      have digits : (hexDigit c).isSome := by rw [isHex]; rfl
      split at stepped
      · rename_i last
        cases stepped
        obtain ⟨body, more, spelled, after, rfl⟩ := completes
        rw [putEscaped_escaping] at spelled
        refine ⟨c :: body, more, ⟨[c], body, ?_, nofun, ?_, spelled, rfl⟩, after, rfl⟩
        · rw [List.length_singleton, last]
        · exact fun other member => List.mem_singleton.mp member ▸ digits
      · cases stepped
        obtain ⟨body, more, ⟨read, later, four, _, hex, spelled, rfl⟩, after, rfl⟩ := completes
        refine ⟨c :: (read ++ later), more, ⟨c :: read, later, ?_, nofun, ?_, spelled, rfl⟩,
          after, rfl⟩
        · rw [List.length_cons]
          omega
        · intro other member
          rcases List.mem_cons.mp member with here | inside
          · exact here ▸ digits
          · exact hex other inside

theorem numberOf_spelled {read : Text} {value : Json} (parsed : numberOf read = .ok value) :
    NumberText read := by
  rw [← wellFormed_iff]
  cases wellFormed : (scanNumeral read).wellFormed with
  | true => rfl
  | false => simp [numberOf, wellFormed] at parsed

theorem deliver_brackets (value : Json) (stack : List Frame) :
    (deliver value stack).stack.map Frame.bracket = stack.map Frame.bracket := by
  cases stack with
  | nil => rfl
  | cons frame outer => cases frame <;> rfl

theorem step_sound (strict : meetsConstant machine c = false)
    (stepped : step depthLimit machine c = .ok next) (completes : Completes next rest) :
    Completes machine (c :: rest) := by
  obtain ⟨stack, mode⟩ := machine
  cases mode with
  | value first =>
    have notConstant : c ≠ 0x4E ∧ c ≠ 0x49 := by
      simpa [meetsConstant] using strict
    simp only [step] at stepped
    split at stepped
    · rename_i isSpace
      cases stepped
      rcases completes with begun | ⟨isFirst, outer, space, more, same, blank, continues, rfl⟩
      · exact Or.inl (begun.space isSpace)
      · exact Or.inr ⟨isFirst, outer, c :: space, more, same, blank.cons isSpace, continues, rfl⟩
    · split at stepped
      · split at stepped
        · rename_i closes
          cases stepped
          exact Or.inr ⟨rfl, _, [], rest, rfl, blank_nil, completes_deliver.mp completes,
            by rw [closes]; rfl⟩
        · exact Or.inl (.here (startValue_sound notConstant stepped completes))
      · exact Or.inl (.here (startValue_sound notConstant stepped completes))
  | key first =>
    simp only [step] at stepped
    split at stepped
    · rename_i isSpace
      cases stepped
      rcases completes with ⟨space, key, more, blank, named, after, rfl⟩ |
        ⟨isFirst, outer, space, more, same, blank, continues, rfl⟩
      · exact Or.inl ⟨c :: space, key, more, blank.cons isSpace, named, after, rfl⟩
      · exact Or.inr ⟨isFirst, outer, c :: space, more, same, blank.cons isSpace, continues, rfl⟩
    split at stepped
    · rename_i quote
      cases stepped
      obtain ⟨body, more, spelled, after, rfl⟩ := completes
      exact Or.inl ⟨[], 0x22 :: (body ++ [0x22]), more, blank_nil, ⟨body, spelled, rfl⟩, after,
        by simp [quote]⟩
    split at stepped
    · split at stepped
      · rename_i closes
        cases stepped
        exact Or.inr ⟨rfl, _, [], rest, rfl, blank_nil, completes_deliver.mp completes,
          by rw [closes]; rfl⟩
      · cases stepped
    · cases stepped
  | colon =>
    simp only [step] at stepped
    split at stepped
    · rename_i isSpace
      cases stepped
      obtain ⟨space, later, blank, begun, rfl⟩ := completes
      exact ⟨c :: space, later, blank.cons isSpace, begun, rfl⟩
    split at stepped
    · rename_i colon
      cases stepped
      rcases completes with begun | ⟨impossible, _⟩
      · exact ⟨[], rest, blank_nil, begun, by rw [colon]; rfl⟩
      · cases impossible
    · cases stepped
  | string isKey reading => exact stringStep_sound stepped completes
  | number read =>
    simp only [step] at stepped
    split at stepped
    · cases stepped
      obtain ⟨digits, more, spelled, continues, rfl⟩ := completes
      exact ⟨c :: digits, more, by simpa using spelled, continues, rfl⟩
    split at stepped
    · rename_i constant
      cases constant.symm.trans strict
    · cases parsed : numberOf read with
      | error raised => simp [parsed, bind, Except.bind] at stepped
      | ok value =>
        simp only [parsed, bind, Except.bind] at stepped
        have settled : ∀ later, Completes (deliver value stack) later →
            Continues ((deliver value stack).stack.map Frame.bracket) later := fun later completed =>
          (deliver_brackets value stack).symm ▸ completes_deliver.mp completed
        have continues := afterValue_sound settled stepped completes
        rw [deliver_brackets] at continues
        exact ⟨[], c :: rest, by simpa using numberOf_spelled parsed, continues, rfl⟩
  | literal literal matched =>
    simp only [step] at stepped
    split at stepped
    · rename_i found
      obtain ⟨inside, same⟩ := List.getElem?_eq_some_iff.mp found
      have front : literal.word.drop matched = c :: literal.word.drop (matched + 1) := by
        rw [List.drop_eq_getElem_cons inside, same]
      split at stepped
      · rename_i last
        cases stepped
        refine
          ⟨by simpa [meetsConstant] using strict, inside, rest, completes_deliver.mp completes, ?_⟩
        rw [front, last, List.drop_length]
        rfl
      · cases stepped
        obtain ⟨isJson, _, more, continues, rfl⟩ := completes
        exact ⟨isJson, inside, more, continues, by rw [front]; rfl⟩
    · cases stepped
  | separator =>
    refine ⟨?_, afterValue_sound (fun _ => And.right) stepped completes⟩
    rcases afterValue_settled stepped with rfl | ⟨_, frame, outer, rfl⟩
    · exact completes.1
    · exact List.cons_ne_nil _ _
  | done value =>
    refine ⟨?_, afterValue_sound (fun _ => And.right) stepped completes⟩
    rcases afterValue_settled stepped with rfl | ⟨impossible, _⟩
    · exact completes.1
    · cases impossible

/-! ## What may follow a state is taken by a step, or stopped by a limit -/

/-- The step takes the character to a state that the rest may follow, or it fails for another reason
than the text. -/
def Takes (depthLimit : Nat) (machine : Machine) (c : CodePoint) (rest : Text) : Prop :=
  meetsConstant machine c = false ∧
    ((∃ next, step depthLimit machine c = .ok next ∧ Completes next rest) ∨
      ∃ raised, step depthLimit machine c = .error raised ∧ defectOf machine raised ≠ .malformed)

theorem numberText_head {digits : Text} (spelled : NumberText (c :: digits)) :
    c = 0x2D ∨ isAsciiDigit c = true := by
  obtain ⟨minus, whole, fraction, exponent, isMinus, ⟨⟨nonempty, all⟩, _⟩, _, _, shape⟩ := spelled
  rcases isMinus with rfl | rfl
  · cases whole with
    | nil => exact absurd rfl nonempty
    | cons first whole =>
      cases shape
      exact Or.inr (all _ List.mem_cons_self)
  · cases shape
    exact Or.inl rfl

theorem number_start_ne {letter : CodePoint} (starts : c = 0x2D ∨ isAsciiDigit c = true)
    (noMinus : letter ≠ 0x2D) (noDigit : isAsciiDigit letter = false) : c ≠ letter := by
  intro same
  subst same
  rcases starts with minus | digit
  · exact noMinus minus
  · exact absurd (digit.symm.trans noDigit) nofun

theorem startValue_number {stack : List Frame} (starts : c = 0x2D ∨ isAsciiDigit c = true) :
    startValue depthLimit stack c = .ok ⟨stack, .number [c]⟩ := by
  have other := fun letter => @number_start_ne c letter starts
  simp [startValue, starts, other 0x22 (by decide) rfl, other 0x7B (by decide) rfl,
    other 0x5B (by decide) rfl, other 0x6E (by decide) rfl, other 0x74 (by decide) rfl,
    other 0x66 (by decide) rfl, other 0x4E (by decide) rfl, other 0x49 (by decide) rfl]

theorem startValue_square {stack : List Frame}
    (completes : Completes ⟨.arr [] :: stack, .value true⟩ rest) :
    (∃ next, startValue depthLimit stack 0x5B = .ok next ∧ Completes next rest) ∨
      startValue depthLimit stack 0x5B = .error .recursionError := by
  by_cases deep : depthLimit ≤ stack.length
  · exact Or.inr (if_pos deep)
  · exact Or.inl ⟨_, if_neg deep, completes⟩

theorem startValue_curly {stack : List Frame}
    (completes : Completes ⟨.obj [] [] :: stack, .key true⟩ rest) :
    (∃ next, startValue depthLimit stack 0x7B = .ok next ∧ Completes next rest) ∨
      startValue depthLimit stack 0x7B = .error .recursionError := by
  by_cases deep : depthLimit ≤ stack.length
  · exact Or.inr (if_pos deep)
  · exact Or.inl ⟨_, if_neg deep, completes⟩

theorem startValue_complete {stack : List Frame}
    (begun : ValueThen (stack.map Frame.bracket) (c :: rest)) :
    isJsonSpace c = false ∧ c ≠ 0x5D ∧ c ≠ 0x4E ∧ c ≠ 0x49 ∧
      ((∃ next, startValue depthLimit stack c = .ok next ∧ Completes next rest) ∨
        startValue depthLimit stack c = .error .recursionError) := by
  obtain ⟨value, more, derived, continues, shape⟩ := begun
  cases derived with
  | null =>
    cases shape
    exact ⟨rfl, by decide, by decide, by decide, Or.inl ⟨_, rfl, rfl, by decide, more, continues, rfl⟩⟩
  | true =>
    cases shape
    exact ⟨rfl, by decide, by decide, by decide, Or.inl ⟨_, rfl, rfl, by decide, more, continues, rfl⟩⟩
  | false =>
    cases shape
    exact ⟨rfl, by decide, by decide, by decide, Or.inl ⟨_, rfl, rfl, by decide, more, continues, rfl⟩⟩
  | number spelled =>
    cases value with
    | nil =>
      obtain ⟨minus, whole, _, _, _, ⟨⟨nonempty, _⟩, _⟩, _, _, nothing⟩ := spelled
      exact absurd (List.append_eq_nil_iff.mp (List.append_eq_nil_iff.mp nothing.symm).2).1 nonempty
    | cons first digits =>
      cases shape
      have starts := numberText_head spelled
      have other := fun letter => @number_start_ne c letter starts
      have noSpace : isJsonSpace c = false := by
        simp [isJsonSpace, other 0x20 (by decide) rfl, other 0x09 (by decide) rfl,
          other 0x0A (by decide) rfl, other 0x0D (by decide) rfl]
      exact ⟨noSpace, other 0x5D (by decide) rfl, other 0x4E (by decide) rfl,
        other 0x49 (by decide) rfl, Or.inl ⟨_, startValue_number starts, digits, more, spelled,
          continues, rfl⟩⟩
  | string spelled =>
    obtain ⟨body, spelled, rfl⟩ := spelled
    simp only [List.cons_append, List.append_assoc, List.cons.injEq] at shape
    obtain ⟨rfl, rfl⟩ := shape
    exact ⟨rfl, by decide, by decide, by decide, Or.inl ⟨_, rfl, body, more, spelled, continues, rfl⟩⟩
  | emptyArray blank =>
    simp only [List.cons_append, List.append_assoc, List.cons.injEq] at shape
    obtain ⟨rfl, rfl⟩ := shape
    exact ⟨rfl, by decide, by decide, by decide,
      startValue_square (Or.inr ⟨rfl, _, _, more, rfl, blank, continues, rfl⟩)⟩
  | array inside =>
    simp only [List.cons_append, List.append_assoc, List.cons.injEq] at shape
    obtain ⟨rfl, rfl⟩ := shape
    exact ⟨rfl,
      by decide, by decide, by decide, startValue_square (Or.inl (value_of_elements inside continues))⟩
  | emptyObject blank =>
    simp only [List.cons_append, List.append_assoc, List.cons.injEq] at shape
    obtain ⟨rfl, rfl⟩ := shape
    exact ⟨rfl, by decide, by decide, by decide,
      startValue_curly (Or.inr ⟨rfl, _, _, more, rfl, blank, continues, rfl⟩)⟩
  | object inside =>
    simp only [List.cons_append, List.append_assoc, List.cons.injEq] at shape
    obtain ⟨rfl, rfl⟩ := shape
    exact ⟨rfl,
      by decide, by decide, by decide, startValue_curly (Or.inl (key_of_members inside continues))⟩

/-- A value is complete here. -/
def Settled (machine : Machine) : Prop :=
  machine.mode = .separator ∧ machine.stack ≠ [] ∨ (∃ value, machine.mode = .done value) ∧
    machine.stack = []

theorem deliver_settled (value : Json) (stack : List Frame) : Settled (deliver value stack) := by
  cases stack with
  | nil => exact Or.inr ⟨⟨value, rfl⟩, rfl⟩
  | cons frame outer => cases frame <;> exact Or.inl ⟨rfl, List.cons_ne_nil _ _⟩

theorem Settled.completes (settled : Settled machine)
    (continues : Continues (machine.stack.map Frame.bracket) rest) : Completes machine rest := by
  obtain ⟨stack, mode⟩ := machine
  rcases settled with ⟨rfl, nonempty⟩ | ⟨⟨value, rfl⟩, rfl⟩
  · exact ⟨by simpa using nonempty, continues⟩
  · exact ⟨rfl, continues⟩

theorem Continues.afterSpace {open_ : List Bracket} (continues : Continues open_ (c :: rest))
    (isSpace : isJsonSpace c = true) : Continues open_ rest := by
  cases continues with
  | space _ later => exact later
  | @close bracket _ _ _ => cases bracket <;> cases isSpace
  | more _ _ => cases isSpace

theorem afterValue_complete (settled : Settled machine)
    (continues : Continues (machine.stack.map Frame.bracket) (c :: rest)) :
    ∃ next, afterValue machine c = .ok next ∧ Completes next rest := by
  by_cases isSpace : isJsonSpace c = true
  · exact ⟨machine, if_pos isSpace, settled.completes (continues.afterSpace isSpace)⟩
  · obtain ⟨stack, mode⟩ := machine
    cases stack with
    | nil =>
      cases continues with
      | space space _ => exact absurd space isSpace
    | cons frame outer =>
      rcases settled with ⟨rfl, _⟩ | ⟨_, impossible⟩
      · cases frame with
        | arr items =>
          cases continues with
          | space space _ => exact absurd space isSpace
          | close later => exact ⟨_, rfl, completes_deliver.mpr later⟩
          | more derived later => exact ⟨_, rfl, Or.inl (value_of_elements derived later)⟩
        | obj fields key =>
          cases continues with
          | space space _ => exact absurd space isSpace
          | close later => exact ⟨_, rfl, completes_deliver.mpr later⟩
          | more derived later => exact ⟨_, rfl, Or.inl (key_of_members derived later)⟩
      · cases impossible

theorem stringStep_complete {stack : List Frame} {isKey : Bool} {reading : Reading}
    (completes : Completes ⟨stack, .string isKey reading⟩ (c :: rest)) :
    ∃ next, stringStep stack isKey reading c = .ok next ∧ Completes next rest := by
  obtain ⟨read, high, escaping⟩ := reading
  obtain ⟨body, more, spelled, after, shape⟩ := completes
  cases escaping with
  | none =>
    cases spelled with
    | nil =>
      cases shape
      exact ⟨_, rfl, completes_closeString.mpr after⟩
    | unescaped printable noQuote noEscape later =>
      cases shape
      refine ⟨⟨stack, .string isKey (Reading.put ⟨read, high, .none⟩ c)⟩, ?_, _, more,
        later, after, rfl⟩
      simp [stringStep, noQuote, noEscape, not_le.mpr printable]
    | escaped named later =>
      cases shape
      exact ⟨_, rfl, _, more, .escaped named later, after, rfl⟩
    | unicode four hex later =>
      cases shape
      exact ⟨_, rfl, _, more, .unicode four hex later, after, rfl⟩
  | backslash =>
    cases spelled with
    | unescaped _ _ noEscape _ => exact absurd rfl noEscape
    | @escaped _ later named spelled =>
      cases shape
      obtain ⟨escaped, isEscape⟩ := Option.isSome_iff_exists.mp (shortEscape_isSome.mpr named)
      have noUnicode : c ≠ 0x75 := by
        intro same
        rw [same] at named
        exact absurd named (by decide)
      refine ⟨⟨stack, .string isKey (Reading.put ⟨read, high, .backslash⟩ escaped)⟩, ?_, _,
        more, spelled, after, rfl⟩
      simp [stringStep, noUnicode, isEscape]
    | @unicode digits later four hex spelled =>
      cases shape
      refine ⟨_, rfl, _, more, ⟨digits, later, four, ?_, hex, spelled, rfl⟩, after, rfl⟩
      exact fun nothing => by simp [nothing] at four
  | hex count value =>
    obtain ⟨digits, later, four, nonempty, hex, spelled, rfl⟩ := spelled
    cases digits with
    | nil => exact absurd rfl nonempty
    | cons first digits =>
      cases shape
      obtain ⟨digit, isHex⟩ := Option.isSome_iff_exists.mp (hex c List.mem_cons_self)
      rw [List.length_cons] at four
      by_cases last : count = 3
      · have nothing : digits = [] := List.eq_nil_of_length_eq_zero (by omega)
        refine ⟨⟨stack,
          .string isKey (Reading.putEscaped ⟨read, high, .hex count value⟩
            (value * 16 + digit))⟩, ?_, later, more, ?_, after, by rw [nothing]; rfl⟩
        · simp [stringStep, isHex, last]
        · rw [putEscaped_escaping]
          exact spelled
      · refine ⟨⟨stack, .string isKey ⟨read, high, .hex (count + 1) (value * 16 + digit)⟩⟩, ?_,
          digits ++ later, more,
          ⟨digits, later,
          by omega, ?_, fun other member => hex other (List.mem_cons_of_mem _ member), spelled,
            rfl⟩, after, rfl⟩
        · simp [stringStep, isHex, last]
        · intro nothing
          rw [nothing, List.length_nil] at four
          omega

theorem numberOf_complete {read : Text} (spelled : NumberText read) :
    (∃ value, numberOf read = .ok value) ∨
      numberOf read = .error .valueError ∧ (scanNumeral read).tooLong = true := by
  have wellFormed := wellFormed_iff.mpr spelled
  have parts := wellFormed
  simp only [Numeral.wellFormed, Bool.and_eq_true, decide_eq_true_eq, Bool.or_eq_true, ne_eq] at parts
  simp only [numberOf, wellFormed, Bool.not_true, Bool.false_eq_true, if_false]
  by_cases isInteger : (scanNumeral read).isInteger = true
  · have whole := isInteger
    simp only [Numeral.isInteger, Bool.and_eq_true, decide_eq_true_eq, Option.isNone_iff_eq_none]
      at whole
    by_cases long : intMaxStrDigits < (scanNumeral read).whole.length
    · refine Or.inr ⟨by simp [isInteger, long], ?_⟩
      have noZero : (scanNumeral read).whole.head? ≠ some 0x30 := by
        rcases parts.1.1.2 with other | single
        · exact other
        · rw [single, intMaxStrDigits] at long
          omega
      simp [Numeral.tooLong, long, noZero, whole]
    · exact Or.inl ⟨.int ((scanNumeral read).sign * digitsValue (scanNumeral read).whole),
        by simp [isInteger, long]⟩
  · exact Or.inl ⟨.float (.round (scanNumeral read).exact), by simp [isInteger]⟩

theorem BlankValueThen.first {open_ : List Bracket} (begun : BlankValueThen open_ (c :: rest)) :
    isJsonSpace c = true ∧ BlankValueThen open_ rest ∨ ValueThen open_ (c :: rest) := by
  obtain ⟨space, later, blank, value, shape⟩ := begun
  cases space with
  | nil => exact Or.inr (shape ▸ value)
  | cons first space =>
    cases shape
    exact Or.inl ⟨blank.head, space, later, blank.tail, value, rfl⟩

theorem Emptied.first {bracket : Bracket} {open_ : List Bracket}
    (emptied : Emptied bracket open_ (c :: rest)) :
    isJsonSpace c = true ∧ Emptied bracket open_ rest ∨
      c = bracket.closer ∧ ∃ outer, open_ = bracket :: outer ∧ Continues outer rest := by
  obtain ⟨outer, space, more, same, blank, continues, shape⟩ := emptied
  cases space with
  | nil =>
    cases shape
    exact Or.inr ⟨rfl, outer, same, continues⟩
  | cons first space =>
    cases shape
    exact Or.inl ⟨blank.head, outer, space, more, same, blank.tail, continues, rfl⟩

theorem space_ne {letter : CodePoint} (isSpace : isJsonSpace c = true)
    (noSpace : isJsonSpace letter = false) : c ≠ letter := by
  intro same
  rw [same, noSpace] at isSpace
  cases isSpace

theorem value_complete {stack : List Frame} {first : Bool}
    (completes : Completes ⟨stack, .value first⟩ (c :: rest)) :
    Takes depthLimit ⟨stack, .value first⟩ c rest := by
  have noConstant : c ≠ 0x4E → c ≠ 0x49 → meetsConstant ⟨stack, .value first⟩ c = false :=
    fun noNan noInfinity => by
    simp [meetsConstant, noNan, noInfinity]
  have spaces : ∀ isSpace : isJsonSpace c = true, Completes ⟨stack, .value first⟩ rest →
      Takes depthLimit ⟨stack, .value first⟩ c rest := fun isSpace later =>
    ⟨noConstant (space_ne isSpace rfl) (space_ne isSpace rfl), Or.inl ⟨_, if_pos isSpace, later⟩⟩
  rcases completes with begun | ⟨isFirst, emptied⟩
  · rcases begun.first with ⟨isSpace, later⟩ | value
    · exact spaces isSpace (Or.inl later)
    · obtain ⟨noSpace, noClose, noNan, noInfinity, started | tooDeep⟩ :=
        @startValue_complete depthLimit rest c stack value
      · refine ⟨noConstant noNan noInfinity, Or.inl ?_⟩
        rw [step_value noSpace noClose]
        exact started
      · refine ⟨noConstant noNan noInfinity, Or.inr ⟨.recursionError, ?_, nofun⟩⟩
        rw [step_value noSpace noClose, tooDeep]
  · rcases emptied.first with ⟨isSpace, later⟩ | ⟨rfl, outer, same, continues⟩
    · exact spaces isSpace (Or.inr ⟨isFirst, later⟩)
    · refine ⟨rfl, Or.inl ?_⟩
      subst isFirst
      cases stack with
      | nil => cases same
      | cons frame stack =>
        obtain ⟨isSquare, rfl⟩ := List.cons.inj same
        cases frame with
        | arr items => exact ⟨_, rfl, completes_deliver.mpr continues⟩
        | obj fields key => cases isSquare

theorem key_complete {stack : List Frame} {first : Bool}
    (completes : Completes ⟨stack, .key first⟩ (c :: rest)) :
    Takes depthLimit ⟨stack, .key first⟩ c rest := by
  rcases completes with ⟨space, key, more, blank, ⟨body, spelled, rfl⟩, after, shape⟩
    | ⟨isFirst, emptied⟩
  · cases space with
    | nil =>
      simp only [List.nil_append, List.cons_append, List.append_assoc, List.cons.injEq] at shape
      obtain ⟨rfl, rfl⟩ := shape
      exact ⟨rfl, Or.inl ⟨_, rfl, body, more, spelled, after, rfl⟩⟩
    | cons _ space =>
      cases shape
      exact ⟨rfl, Or.inl ⟨_, if_pos blank.head, Or.inl ⟨space, _, more, blank.tail,
        ⟨body, spelled, rfl⟩, after, rfl⟩⟩⟩
  · rcases emptied.first with ⟨isSpace, later⟩ | ⟨rfl, outer, same, continues⟩
    · exact ⟨rfl, Or.inl ⟨_, if_pos isSpace, Or.inr ⟨isFirst, later⟩⟩⟩
    · refine ⟨rfl, Or.inl ?_⟩
      subst isFirst
      cases stack with
      | nil => cases same
      | cons frame stack =>
        obtain ⟨isCurly, rfl⟩ := List.cons.inj same
        cases frame with
        | arr items => cases isCurly
        | obj fields key => exact ⟨_, rfl, completes_deliver.mpr continues⟩

theorem Continues.stops {open_ : List Bracket} (continues : Continues open_ (c :: rest)) :
    isNumberChar c = false ∧ c ≠ 0x49 := by
  cases continues with
  | space isSpace _ =>
    simp only [isJsonSpace, Bool.or_eq_true, decide_eq_true_eq] at isSpace
    rcases isSpace with ((rfl | rfl) | rfl) | rfl <;> decide
  | @close bracket _ _ _ => cases bracket <;> decide
  | more _ _ => decide

theorem number_complete {stack : List Frame} {read : Text}
    (completes : Completes ⟨stack, .number read⟩ (c :: rest)) :
    Takes depthLimit ⟨stack, .number read⟩ c rest := by
  obtain ⟨digits, more, spelled, continues, shape⟩ := completes
  cases digits with
  | nil =>
    cases shape
    rw [List.append_nil] at spelled
    have stops := continues.stops
    refine ⟨by simp [meetsConstant, stops], ?_⟩
    have stepped : step depthLimit ⟨stack, .number read⟩ c =
        (numberOf read >>= fun value => afterValue (deliver value stack) c) := by
      simp [step, stops]
    rw [stepped]
    rcases numberOf_complete spelled with ⟨value, parsed⟩ | ⟨failed, tooLong⟩
    · rw [parsed]
      refine Or.inl (afterValue_complete (deliver_settled value stack) ?_)
      rw [deliver_brackets]
      exact continues
    · have digits : defectOf ⟨stack, .number read⟩ .valueError = .digits := if_pos tooLong
      rw [failed]
      exact Or.inr ⟨.valueError, rfl, by simp [digits]⟩
  | cons _ digits =>
    cases shape
    have collected : isNumberChar c = true := spelled.chars c (by simp)
    have noLetter : c ≠ 0x49 := by
      intro same
      rw [same] at collected
      exact absurd collected (by decide)
    have stepped : step depthLimit ⟨stack, .number read⟩ c = .ok ⟨stack, .number (read ++ [c])⟩ := by
      simp [step, collected]
    have respelled : NumberText (read ++ [c] ++ digits) := by
      rw [List.append_assoc]
      exact spelled
    exact ⟨by simp [meetsConstant, noLetter], Or.inl ⟨_, stepped, digits, more, respelled, continues, rfl⟩⟩

theorem step_complete (completes : Completes machine (c :: rest)) :
    Takes depthLimit machine c rest := by
  obtain ⟨stack, mode⟩ := machine
  cases mode with
  | value first => exact value_complete completes
  | key first => exact key_complete completes
  | colon =>
    obtain ⟨space, later, blank, begun, shape⟩ := completes
    cases space with
    | nil =>
      cases shape
      exact ⟨rfl, Or.inl ⟨_, rfl, Or.inl begun⟩⟩
    | cons _ space =>
      cases shape
      exact ⟨rfl, Or.inl ⟨_, if_pos blank.head, space, later, blank.tail, begun, rfl⟩⟩
  | string isKey reading => exact ⟨rfl, Or.inl (stringStep_complete completes)⟩
  | number read => exact number_complete completes
  | literal literal matched =>
    obtain ⟨isJson, inside, more, continues, shape⟩ := completes
    rw [List.drop_eq_getElem_cons inside, List.cons_append, List.cons.injEq] at shape
    obtain ⟨rfl, rfl⟩ := shape
    refine ⟨by simp [meetsConstant, isJson], Or.inl ?_⟩
    by_cases last : matched + 1 = literal.word.length
    · refine ⟨deliver literal.value stack, by simp [step, last], completes_deliver.mpr ?_⟩
      rw [last, List.drop_length]
      exact continues
    · refine ⟨⟨stack, .literal literal (matched + 1)⟩,
        by simp [step, last], isJson, by omega, more, continues, rfl⟩
  | separator =>
    exact ⟨rfl,
      Or.inl (afterValue_complete (Or.inl ⟨rfl, by simpa using completes.1⟩) completes.2)⟩
  | done value =>
    exact ⟨rfl,
      Or.inl (afterValue_complete (Or.inr ⟨⟨value, rfl⟩, by simpa using completes.1⟩)
        completes.2)⟩

end SysadminAssistant.Python.Json
