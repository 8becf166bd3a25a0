import SysadminAssistant.Python.JsonDefects
import SysadminAssistant.Python.JsonGrammar

namespace SysadminAssistant.Python.Json

/-! What may follow each state of the decoder's machine to make a JSON text of the whole. -/

inductive Bracket where
  | square | curly

namespace Bracket

def closer : Bracket → CodePoint
  | .square => 0x5D
  | .curly => 0x7D

def inside : Bracket → Nonterminal
  | .square => .elements
  | .curly => .members

end Bracket

def Frame.bracket : Frame → Bracket
  | .arr _ => .square
  | .obj _ _ => .curly

/-- What may follow a complete value inside these brackets, the innermost first. -/
inductive Continues : List Bracket → Text → Prop where
  | ended : Continues [] []
  | space {open_ : List Bracket} {c : CodePoint} {rest : Text} (isSpace : isJsonSpace c = true)
      (later : Continues open_ rest) : Continues open_ (c :: rest)
  | close {bracket : Bracket} {outer : List Bracket} {rest : Text} (later : Continues outer rest) :
      Continues (bracket :: outer) (bracket.closer :: rest)
  | more {bracket : Bracket} {outer : List Bracket} {inside rest : Text}
      (derived : Derives bracket.inside inside)
      (later : Continues outer rest) : Continues (bracket :: outer)
        (0x2C :: (inside ++ bracket.closer :: rest))

/-- A value, and what may follow it. -/
def ValueThen (open_ : List Bracket) (rest : Text) : Prop :=
  ∃ value more, Derives .value value ∧ Continues open_ more ∧ rest = value ++ more

/-- The same behind blanks. -/
def BlankValueThen (open_ : List Bracket) (rest : Text) : Prop :=
  ∃ space later, Blank space ∧ ValueThen open_ later ∧ rest = space ++ later

/-- What may follow the name of a field. -/
def ColonThen (open_ : List Bracket) (rest : Text) : Prop :=
  ∃ space later, Blank space ∧ BlankValueThen open_ later ∧ rest = space ++ 0x3A :: later

/-- What may follow a string that is over. -/
def AfterString : Bool → List Bracket → Text → Prop
  | true, .curly :: outer => ColonThen (.curly :: outer)
  | _, open_ => Continues open_

/-- What may stand between here and the closing quotation mark. -/
def BodyAfter : Escaping → Text → Prop
  | .none, body => StringBody body
  | .backslash, body => StringBody (0x5C :: body)
  | .hex count _, body => ∃ digits later, digits.length + count = 4 ∧ digits ≠ [] ∧
      (∀ c ∈ digits, (hexDigit c).isSome) ∧ StringBody later ∧ body = digits ++ later

/-- The innermost bracket closes with nothing inside. -/
def Emptied (bracket : Bracket) (open_ : List Bracket) (rest : Text) : Prop :=
  ∃ outer space more, open_ = bracket :: outer ∧ Blank space ∧ Continues outer more ∧
    rest = space ++ bracket.closer :: more

/-- What may follow a state of the machine. -/
def Completes (machine : Machine) (rest : Text) : Prop :=
  let open_ := machine.stack.map Frame.bracket
  match machine.mode with
  | .value first => BlankValueThen open_ rest ∨ first = true ∧ Emptied .square open_ rest
  | .key first =>
    (∃ space key more, Blank space ∧ StringText key ∧ AfterString true open_ more ∧
      rest = space ++ (key ++ more)) ∨ first = true ∧ Emptied .curly open_ rest
  | .colon => ColonThen open_ rest
  | .string isKey reading =>
    ∃ body more, BodyAfter reading.escaping body ∧ AfterString isKey open_ more ∧
      rest = body ++ 0x22 :: more
  | .number read => ∃ digits more, NumberText (read ++ digits) ∧ Continues open_ more ∧
      rest = digits ++ more
  | .literal literal matched =>
    literal.isJson = true ∧ matched < literal.word.length ∧
      ∃ more, Continues open_ more ∧ rest = literal.word.drop matched ++ more
  | .separator => open_ ≠ [] ∧ Continues open_ rest
  | .done _ => open_ = [] ∧ Continues open_ rest

variable {open_ outer : List Bracket} {rest more : Text} {c : CodePoint}

theorem Continues.blank {space : Text} (blank : Blank space) (later : Continues open_ rest) :
    Continues open_ (space ++ rest) := by
  induction space with
  | nil => exact later
  | cons c space ih => exact .space blank.head (ih blank.tail)

theorem continues_nil : Continues [] rest ↔ Blank rest := by
  constructor
  · intro continues
    induction rest with
    | nil => exact blank_nil
    | cons c rest ih =>
      cases continues with
      | space isSpace later => exact Blank.cons isSpace (ih later)
  · intro blank
    have whole := Continues.blank blank .ended
    rwa [List.append_nil] at whole

theorem BlankValueThen.here (value : ValueThen open_ rest) : BlankValueThen open_ rest :=
  ⟨[], rest, blank_nil, value, rfl⟩

theorem BlankValueThen.space (isSpace : isJsonSpace c = true) (later : BlankValueThen open_ rest) :
    BlankValueThen open_ (c :: rest) := by
  obtain ⟨space, value, blank, derived, rfl⟩ := later
  exact ⟨c :: space, value, blank.cons isSpace, derived, rfl⟩

theorem BlankValueThen.blank {space : Text} (blank : Blank space)
    (later : BlankValueThen open_ rest) : BlankValueThen open_ (space ++ rest) := by
  induction space with
  | nil => exact later
  | cons c space ih => exact .space blank.head (ih blank.tail)

/-! ## Elements and members are values and what follows them -/

theorem continues_split {bracket : Bracket} (continues : Continues (bracket :: outer) rest) :
    ∃ after more, Blank after ∧ Continues outer more ∧
      (rest = after ++ bracket.closer :: more ∨
        ∃ later, Derives bracket.inside later ∧
          rest = after ++ 0x2C :: (later ++ bracket.closer :: more)) := by
  induction rest with
  | nil => cases continues
  | cons c rest ih =>
    cases continues with
    | space isSpace later =>
      obtain ⟨after, more, blankAfter, continued, shape⟩ := ih later
      refine ⟨c :: after, more, blankAfter.cons isSpace, continued, ?_⟩
      rcases shape with rfl | ⟨inside, derivedInside, rfl⟩
      · exact Or.inl rfl
      · exact Or.inr ⟨inside, derivedInside, rfl⟩
    | close later => exact ⟨[], rest, blank_nil, later, Or.inl rfl⟩
    | more derived later => exact ⟨[], _, blank_nil, later, Or.inr ⟨_, derived, rfl⟩⟩

theorem elements_of_value (begun : BlankValueThen (.square :: outer) rest) :
    ∃ inside more, Derives .elements inside ∧ Continues outer more ∧
      rest = inside ++ 0x5D :: more := by
  obtain ⟨before, _, blankBefore, ⟨value, tail, derived, continues, rfl⟩, rfl⟩ := begun
  obtain ⟨after, more, blankAfter, continued, rfl | ⟨later, derivedLater, rfl⟩⟩ :=
    continues_split continues
  · exact ⟨_, more, .element blankBefore derived blankAfter, continued, by simp [Bracket.closer]⟩
  · exact ⟨_, more, .elements blankBefore derived blankAfter derivedLater, continued,
      by simp [Bracket.closer]⟩

theorem value_of_elements {inside : Text} (derived : Derives .elements inside)
    (later : Continues outer more) :
    BlankValueThen (.square :: outer) (inside ++ 0x5D :: more) := by
  cases derived with
  | element blankBefore derived blankAfter =>
    refine ⟨_, _, blankBefore, ⟨_, _, derived, .blank blankAfter (.close later), rfl⟩, ?_⟩
    simp [Bracket.closer]
  | elements blankBefore derived blankAfter derivedLater =>
    refine ⟨_, _, blankBefore,
      ⟨_, _, derived, .blank blankAfter (@Continues.more .square _ _ _ derivedLater later), rfl⟩, ?_⟩
    simp [Bracket.closer]

/-- A field's name and value, and what may follow them. -/
def KeyThen (outer : List Bracket) (rest : Text) : Prop :=
  ∃ space key more, Blank space ∧ StringText key ∧ ColonThen (.curly :: outer) more ∧
    rest = space ++ (key ++ more)

theorem members_of_key (begun : KeyThen outer rest) :
    ∃ inside more, Derives .members inside ∧ Continues outer more ∧ rest = inside ++ 0x7D :: more := by
  obtain ⟨before, key, _, blankBefore, named, ⟨between, _, blankBetween,
    ⟨gap, _, blankGap, ⟨value, tail, derived, continues, rfl⟩, rfl⟩, rfl⟩, rfl⟩ := begun
  obtain ⟨after, more, blankAfter, continued, rfl | ⟨later, derivedLater, rfl⟩⟩ :=
    continues_split continues
  · exact ⟨_, more, .member blankBefore named blankBetween blankGap derived blankAfter, continued,
      by simp [Bracket.closer]⟩
  · exact ⟨_, more,
      .members blankBefore named blankBetween blankGap derived blankAfter derivedLater, continued,
      by simp [Bracket.closer]⟩

theorem key_of_members {inside : Text} (derived : Derives .members inside)
    (later : Continues outer more) : KeyThen outer (inside ++ 0x7D :: more) := by
  cases derived with
  | member blankBefore named blankBetween blankGap derived blankAfter =>
    refine ⟨_, _, _, blankBefore, named, ⟨_, _, blankBetween,
      ⟨_, _, blankGap, ⟨_, _, derived, .blank blankAfter (.close later), rfl⟩, rfl⟩, rfl⟩, ?_⟩
    simp [Bracket.closer]
  | members blankBefore named blankBetween blankGap derived blankAfter derivedLater =>
    refine ⟨_, _, _, blankBefore, named, ⟨_, _, blankBetween, ⟨_, _, blankGap, ⟨_, _, derived,
      .blank blankAfter (@Continues.more .curly _ _ _ derivedLater later), rfl⟩, rfl⟩, rfl⟩, ?_⟩
    simp [Bracket.closer]

/-! ## The machine's own moves -/

theorem completes_deliver {value : Json} {stack : List Frame} :
    Completes (deliver value stack) rest ↔ Continues (stack.map Frame.bracket) rest := by
  cases stack with
  | nil => simp [deliver, Completes]
  | cons frame outer => cases frame <;> simp [deliver, Completes, Frame.bracket]

theorem completes_closeString {isKey : Bool} {value : Text} {stack : List Frame} :
    Completes (closeString isKey value stack) rest ↔ AfterString isKey
      (stack.map Frame.bracket) rest := by
  cases isKey with
  | false => exact completes_deliver
  | true =>
    cases stack with
    | nil => exact (completes_deliver : Completes (deliver (.str value) []) rest ↔ _)
    | cons frame outer =>
      cases frame with
      | arr items =>
        exact (completes_deliver : Completes
          (deliver (.str value) (.arr items :: outer)) rest ↔ _)
      | obj fields key => rfl

theorem putEscaped_escaping (reading : Reading) (unit : Nat) :
    (reading.putEscaped unit).escaping = .none := by
  simp only [Reading.putEscaped]
  split
  · rfl
  · split <;> rfl

theorem shortEscape_isSome {c : CodePoint} : (shortEscape c).isSome ↔ c ∈ text "\"\\/bfnrt" := by
  have named : text "\"\\/bfnrt" = [0x22, 0x5C, 0x2F, 0x62, 0x66, 0x6E, 0x72, 0x74] := by decide
  rw [named, shortEscape]
  simp only [List.mem_cons, List.not_mem_nil, or_false, Bool.or_eq_true, decide_eq_true_eq]
  grind

end SysadminAssistant.Python.Json
